import Runbook.Proofs.Pom.JsonForm
import Runbook.Proofs.Pom.Merging
import Runbook.Proofs.Role.Store
import Runbook.Run.Pipeline

/-!
# Facts on two disks

A context is built from the options and from the facts of the disk. On two disks without role
variables, whose project models differ at most in the entries of their sections, the facts are the
same but for the model itself. Then a template that does not ask for the model has the same text in
the contexts of both.

Main statements: `render_eq_of_sameBesideModel`, `exists_buildContext`, `modelIn?_buildContext` and
`loadModel_of_buildContext`.
-/

namespace Runbook

/-! ## Contexts with the same values beside the model -/

/-- Two contexts hold the same values, the project model aside. -/
def SameBesideModel (c c' : Context) : Prop :=
  ∀ key, key ≠ modelKey → Dict.get? c key = Dict.get? c' key

namespace SameBesideModel

variable {c c' c'' : Context}

theorem refl (c : Context) :
    SameBesideModel c c :=
  fun _ _ => rfl

theorem symm
    (h : SameBesideModel c c') :
    SameBesideModel c' c :=
  fun key hkey => (h key hkey).symm

theorem trans
    (h : SameBesideModel c c')
    (h' : SameBesideModel c' c'') :
    SameBesideModel c c'' :=
  fun key hkey => (h key hkey).trans (h' key hkey)

theorem insert
    (h : SameBesideModel c c')
    (key : String)
    (value : Json) :
    SameBesideModel (Dict.insert c key value) (Dict.insert c' key value) := by
  intro other hother
  by_cases heq : other = key
  · subst heq
    rw [Dict.get?_insert_self, Dict.get?_insert_self]
  · rw [Dict.get?_insert_of_ne _ _ heq, Dict.get?_insert_of_ne _ _ heq]
    exact h other hother

/-- The model may be set in one of them. -/
theorem insert_model
    (c : Context)
    (value : Json) :
    SameBesideModel c (Dict.insert c modelKey value) :=
  fun _ hkey => (Dict.get?_insert_of_ne _ _ hkey).symm

end SameBesideModel

/-- Whether a piece of a template asks for the project model or for a part of it. -/
def Piece.asksModel : Piece → Bool
  | .placeholder key => (Text.splitOn '.' key.toList).head? = some modelKey.toList
  | _ => false

/-- Whether a template asks for the project model or for a part of it. -/
def Template.asksModel (template : String) : Bool :=
  (Template.pieces template.toList).any Piece.asksModel

section Rendering

variable {c c' : Context}

theorem lookup_eq_of_sameBesideModel
    (h : SameBesideModel c c')
    {key : String}
    (hkey : (Piece.placeholder key).asksModel = false) :
    c.lookup key = c'.lookup key := by
  have hfirst : ∀ first rest, Text.splitOn '.' key.toList = first :: rest →
      String.ofList first ≠ modelKey := by
    rintro first rest hparts heq
    rw [Piece.asksModel, hparts, ← heq] at hkey
    simp at hkey
  have hwhole : key ≠ modelKey := by
    rintro rfl
    exact hfirst modelKey.toList [] (by decide) String.ofList_toList
  unfold Context.lookup
  rw [h key hwhole]
  cases hparts : Text.splitOn '.' key.toList with
  | nil => rfl
  | cons first rest =>
      simp only [List.map_cons]
      rw [h _ (hfirst first rest hparts)]

/-- A template that does not ask for the model has one text in contexts that hold the same beside it. -/
theorem render_eq_of_sameBesideModel
    (h : SameBesideModel c c')
    {template : String}
    (htemplate : Template.asksModel template = false) :
    Template.render c template = Template.render c' template := by
  unfold Template.asksModel at htemplate
  unfold Template.render
  congr 1
  generalize Template.pieces template.toList = ps at htemplate
  induction ps with
  | nil => rfl
  | cons p ps ih =>
      rw [List.any_cons, Bool.or_eq_false_iff] at htemplate
      have hpiece : Template.renderPiece c p = Template.renderPiece c' p := by
        cases p with
        | literal a => rfl
        | escaped inside => rfl
        | placeholder key =>
            rw [Template.renderPiece, lookup_eq_of_sameBesideModel h htemplate.1]
            rfl
      rw [Template.renderPieces, Template.renderPieces, hpiece, ih htemplate.2]

end Rendering

/-! ## Facts -/

/-- Facts are entered one after another. -/
theorem enterFacts_eq_insertAll
    (source : FactSource)
    (c : Context)
    (facts : List (String × Json)) :
    (enterFacts source c facts).1 = Dict.insertAll c facts := by
  induction facts generalizing c with
  | nil => rfl
  | cons f rest ih =>
      obtain ⟨key, value⟩ := f
      rw [Dict.insertAll_cons, ← ih, enterFacts]
      dsimp only
      split
      · split <;> rfl
      · rfl

/-- Entering facts that are the same beside the model leaves contexts that are. -/
theorem SameBesideModel.enterFacts
    {c c' : Context}
    (h : SameBesideModel c c')
    (source : FactSource)
    (front : List (String × Json)) :
    SameBesideModel (enterFacts source c front).1 (Runbook.enterFacts source c' front).1 := by
  rw [enterFacts_eq_insertAll, enterFacts_eq_insertAll]
  induction front generalizing c c' with
  | nil => exact h
  | cons f rest ih => exact ih (h.insert f.1 f.2)

/-- The facts of a project model but for the model itself. -/
def flatFacts (m : Pom.Model) : List (String × Json) :=
  [("artifact-id", m.artifactId), ("group-id", m.groupId), ("project-version", m.version),
    ("java-version", m.javaVersion?)].filterMap fun (key, value) =>
      value.map fun v => (key, Json.string v)

theorem flatFacts_eq_of_sameOutside
    {m m' : Pom.Model}
    (h : m.SameOutside m') :
    flatFacts m' = flatFacts m := by
  rw [h]
  rfl

/-- The facts of a project model end in the model. -/
theorem enterFacts_modelFacts
    (source : FactSource)
    (c : Context)
    (m : Pom.Model) :
    (enterFacts source c (modelFacts m)).1 =
      Dict.insert (enterFacts source c (flatFacts m)).1 modelKey m.toJson := by
  have hparts : modelFacts m = flatFacts m ++ [(modelKey, m.toJson)] := rfl
  rw [hparts, enterFacts_eq_insertAll, enterFacts_eq_insertAll, Dict.insertAll_concat]

/-! ## Building contexts -/

section Building

variable {host : Host}
variable {s : Setting}
variable {d d' : Disk}
variable {c₁ c₂ c : Context}

/-- Two disks have the same facts, the project model aside. -/
structure SameFacts (s : Setting) (d d' : Disk) : Prop where
  roles : s.store.load d "" = .ok []
  roles' : s.store.load d' "" = .ok []
  project : (d.isFile s.pomPath = false ∧ d'.isFile s.pomPath = false) ∨
    ∃ m m', d.isFile s.pomPath = true ∧ d'.isFile s.pomPath = true ∧
      loadModel d s.pomPath = .ok m ∧ loadModel d' s.pomPath = .ok m' ∧ m.SameOutside m'

/-- A source has facts on the second disk when it has some on the first one, and entering them leaves
contexts that are the same beside the model. -/
theorem exists_facts
    (h : SameFacts s d d')
    (hsame : SameBesideModel c₁ c₂)
    {source : FactSource}
    {facts : List (String × Json)}
    (hfacts : source.facts host s d = .ok facts) :
    ∃ facts', source.facts host s d' = .ok facts' ∧
      SameBesideModel (enterFacts source c₁ facts).1 (enterFacts source c₂ facts').1 := by
  cases source with
  | host => exact ⟨facts, hfacts, hsame.enterFacts _ facts⟩
  | roleVariables =>
      rw [FactSource.facts, h.roles] at hfacts
      cases hfacts
      refine ⟨[], ?_, hsame⟩
      rw [FactSource.facts, h.roles']
      rfl
  | projectModel =>
      rw [FactSource.facts] at hfacts
      rcases h.project with ⟨hnone, hnone'⟩ | ⟨m, m', hfile, hfile', hload, hload', hmodel⟩
      · rw [hnone, if_neg Bool.false_ne_true] at hfacts
        cases hfacts
        refine ⟨[], ?_, hsame⟩
        rw [FactSource.facts, hnone', if_neg Bool.false_ne_true]
      · rw [if_pos hfile, hload] at hfacts
        cases hfacts
        refine ⟨modelFacts m', ?_, ?_⟩
        · rw [FactSource.facts, if_pos hfile', hload']
          rfl
        · rw [enterFacts_modelFacts, enterFacts_modelFacts, flatFacts_eq_of_sameOutside hmodel]
          exact ((SameBesideModel.insert_model _ _).symm.trans (hsame.enterFacts _ _)).trans
            (SameBesideModel.insert_model _ _)

theorem exists_askSources
    (h : SameFacts s d d')
    (hsame : SameBesideModel c₁ c₂)
    {sources : List FactSource}
    (hbuilt : (askSources host s d c₁ sources).2 = .ok c) :
    ∃ c', (askSources host s d' c₂ sources).2 = .ok c' ∧ SameBesideModel c c' := by
  induction sources generalizing c₁ c₂ with
  | nil =>
      cases hbuilt
      exact ⟨c₂, rfl, hsame⟩
  | cons source rest ih =>
      rw [askSources] at hbuilt ⊢
      cases hfacts : source.facts host s d with
      | error e =>
          rw [hfacts] at hbuilt
          cases hbuilt
      | ok facts =>
          rw [hfacts] at hbuilt
          obtain ⟨facts', hfacts', hentered⟩ := exists_facts h hsame hfacts
          obtain ⟨c', hc', hsame'⟩ := ih hentered hbuilt
          refine ⟨c', ?_, hsame'⟩
          rw [hfacts']
          exact hc'

/-- A context that is built on one disk can be built on the other one, and holds the same beside the
model. -/
theorem exists_buildContext
    (h : SameFacts s d d')
    {values : Dict String}
    {sources : List FactSource}
    (hbuilt : (buildContext host s d values sources).2 = .ok c) :
    ∃ c', (buildContext host s d' values sources).2 = .ok c' ∧ SameBesideModel c c' :=
  exists_askSources h (.refl _) hbuilt

/-- A source that is asked last has its facts entered last. -/
theorem exists_facts_of_askSources_concat
    {sources : List FactSource}
    {source : FactSource}
    (h : (askSources host s d c₁ (sources ++ [source])).2 = .ok c) :
    ∃ facts c₀, source.facts host s d = .ok facts ∧ c = Dict.insertAll c₀ facts := by
  induction sources generalizing c₁ with
  | nil =>
      rw [List.nil_append, askSources] at h
      cases hfacts : source.facts host s d with
      | error e =>
          rw [hfacts] at h
          cases h
      | ok facts =>
          rw [hfacts] at h
          simp only [askSources, Except.ok.injEq] at h
          exact ⟨facts, c₁, rfl, by rw [← h, enterFacts_eq_insertAll]⟩
  | cons first rest ih =>
      rw [List.cons_append, askSources] at h
      split at h
      · cases h
      · exact ih h

/-- A context that is built with the variables of the default role last has them. -/
theorem get?_of_buildContext
    {values : Dict String}
    {sources : List FactSource}
    (h : (buildContext host s d values (sources ++ [.roleVariables])).2 = .ok c) :
    ∃ vars, s.store.load d "" = .ok vars ∧
      ∀ key value, Dict.get? vars key = some value → Dict.get? c key = some (.string value) := by
  obtain ⟨facts, c₀, hfacts, rfl⟩ := exists_facts_of_askSources_concat h
  unfold FactSource.facts at hfacts
  cases hload : s.store.load d "" with
  | error e =>
      rw [hload] at hfacts
      cases hfacts
  | ok vars =>
      rw [hload] at hfacts
      cases hfacts
      refine ⟨vars, rfl, fun key value hvalue => ?_⟩
      have hkeys : (vars.map fun p => (p.1, Json.string p.2)).map Prod.fst = vars.map Prod.fst := by
        rw [List.map_map]
        rfl
      have hnodup : (vars.map Prod.fst).Nodup := (RoleStore.sorted_of_load hload).nodup
      refine Dict.get?_insertAll_of_nodup (hkeys ▸ hnodup) ?_ c₀
      exact List.mem_map.mpr ⟨_, Dict.mem_of_get? hvalue, rfl⟩

/-- Facts that do not name the model leave it. -/
theorem get?_enterFacts_of_ne
    {source : FactSource}
    {facts : List (String × Json)}
    (h : ∀ f ∈ facts, f.1 ≠ modelKey)
    (c : Context) :
    Dict.get? (enterFacts source c facts).1 modelKey = Dict.get? c modelKey := by
  rw [enterFacts_eq_insertAll]
  induction facts generalizing c with
  | nil => rfl
  | cons f rest ih =>
      rw [Dict.insertAll_cons, ih fun g hg => h g (List.mem_cons_of_mem _ hg)]
      exact Dict.get?_insert_of_ne _ _ (Ne.symm (h f List.mem_cons_self))

/-- No variable of the default role has the name of the project model. -/
def VariablesApart (s : Setting) (d : Disk) : Prop :=
  ∀ vars, s.store.load d "" = .ok vars → modelKey ∉ vars.map Prod.fst

theorem VariablesApart.of_load
    {vars : Dict String}
    (hload : s.store.load d "" = .ok vars)
    (h : modelKey ∉ vars.map Prod.fst) :
    VariablesApart s d := by
  intro vars' hvars
  obtain rfl := Except.ok.inj (hload.symm.trans hvars)
  exact h

/-- The facts of the host and of the default role leave the model. -/
theorem get?_enterFacts
    (hvars : VariablesApart s d)
    {source : FactSource}
    (hsource : source ≠ .projectModel)
    {facts : List (String × Json)}
    (hfacts : source.facts host s d = .ok facts)
    (c : Context) :
    Dict.get? (enterFacts source c facts).1 modelKey = Dict.get? c modelKey := by
  cases source with
  | projectModel => exact absurd rfl hsource
  | host =>
      cases hfacts
      exact get?_enterFacts_of_ne (by simp [modelKey]) c
  | roleVariables =>
      rw [FactSource.facts] at hfacts
      cases hload : s.store.load d "" with
      | error e =>
          rw [hload] at hfacts
          cases hfacts
      | ok vars =>
          rw [hload] at hfacts
          cases hfacts
          refine get?_enterFacts_of_ne (fun f hf heq => hvars vars hload ?_) c
          obtain ⟨p, hp, rfl⟩ := List.mem_map.mp hf
          exact List.mem_map.mpr ⟨p, hp, heq⟩

/-- What stands under the name of the model was there before, or is the model of the disk. -/
theorem get?_of_askSources
    (hvars : VariablesApart s d)
    {sources : List FactSource}
    {value : Json}
    (hbuilt : (askSources host s d c₁ sources).2 = .ok c)
    (h : Dict.get? c modelKey = some value) :
    Dict.get? c₁ modelKey = some value ∨
      ∃ m, d.isFile s.pomPath = true ∧ loadModel d s.pomPath = .ok m ∧ value = m.toJson := by
  induction sources generalizing c₁ with
  | nil =>
      cases hbuilt
      exact Or.inl h
  | cons source rest ih =>
      rw [askSources] at hbuilt
      cases hfacts : source.facts host s d with
      | error e =>
          rw [hfacts] at hbuilt
          cases hbuilt
      | ok facts =>
          rw [hfacts] at hbuilt
          rcases ih hbuilt with hentered | hmodel
          · by_cases hsource : source = .projectModel
            · subst hsource
              rw [FactSource.facts] at hfacts
              cases hfile : d.isFile s.pomPath with
              | false =>
                  rw [hfile, if_neg Bool.false_ne_true] at hfacts
                  cases hfacts
                  exact Or.inl hentered
              | true =>
                  cases hload : loadModel d s.pomPath with
                  | error e =>
                      rw [hfile, if_pos rfl, hload] at hfacts
                      cases hfacts
                  | ok m =>
                      rw [hfile, if_pos rfl, hload] at hfacts
                      cases hfacts
                      rw [enterFacts_modelFacts, Dict.get?_insert_self] at hentered
                      exact Or.inr ⟨m, rfl, rfl, (Option.some.inj hentered).symm⟩
            · rw [get?_enterFacts hvars hsource hfacts] at hentered
              exact Or.inl hentered
          · exact Or.inr hmodel

/-- The model of a document is loaded from its text. -/
theorem loadModel_of_readText
    {path : String}
    {doc : Pom.ProjectDocument}
    (h : d.readText path = .ok (String.ofList doc.write)) :
    loadModel d path = .ok (Pom.modelOf doc.content) := by
  rw [loadModel, h]
  dsimp only
  rw [String.toList_ofList, doc.parse?_write]

/-- The properties of a model that is loaded stand in order. -/
theorem sorted_of_loadModel
    {path : String}
    {m : Pom.Model}
    (h : loadModel d path = .ok m) :
    Dict.Sorted m.properties := by
  unfold loadModel at h
  split at h
  · cases h
  · split at h
    · cases h
    · rename_i hparse
      cases h
      exact Pom.sorted_of_parse? hparse

/-- A context that is built has no model but that of the disk. The value of an option is no model. -/
theorem loadModel_of_buildContext
    {m : Pom.Model}
    (hvars : VariablesApart s d)
    {values : Dict String}
    {sources : List FactSource}
    (hbuilt : (buildContext host s d values sources).2 = .ok c)
    (h : modelIn? c = some m) :
    d.isFile s.pomPath = true ∧ loadModel d s.pomPath = .ok m := by
  obtain ⟨value, hvalue, hmodel⟩ := Option.bind_eq_some_iff.mp h
  rcases get?_of_askSources hvars hbuilt hvalue with hoption | ⟨m', hfile, hload, rfl⟩
  · rw [optionFacts, Dict.get?_ofList, Option.map_eq_some_iff] at hoption
    obtain ⟨p, hp, rfl⟩ := hoption
    obtain ⟨q, -, rfl⟩ := List.mem_map.mp (List.mem_reverse.mp (List.mem_of_find?_eq_some hp))
    cases hmodel
  · rw [Pom.Model.ofJson?_toJson (sorted_of_loadModel hload)] at hmodel
    obtain rfl := Option.some.inj hmodel
    exact ⟨hfile, hload⟩

end Building

end Runbook
