import Runbook.Proofs.Pom.Parsing

/-!
# Merging entries

Merging entries into a project document gives a project document whose model is the model there was,
with the entries that were missing appended in order. Merging any of them again changes nothing.

Main statements: `exists_merge_stable` and `exists_merge_model`.
-/

namespace Runbook
namespace Pom

open Text Markup

/-! ## A small project -/

theorem isName_project :
    isName "project".toList = true := by
  decide

/-- A project with an empty tag for its dependencies. -/
def smallProject : ProjectDocument where
  before := []
  root :=
    .element (.ofString "project" (by decide)) .none
      [.empty (.ofString "dependencies" (by decide)) .none] .none
  after := []
  before_plain := elements_nil
  root_element := rfl
  after_plain := elements_nil
  named := by simp [Node.name?, Name.ofString]

/-- The entry of the coordinates `g:a:1.0`. -/
def smallEntry : Entry :=
  Entry.ofParts .dependency "g" "a" (some "1.0") none

theorem parseAll_smallEntry :
    Entry.parseAll .dependency "g:a:1.0".toList = .ok [smallEntry] := by
  rfl

theorem proper_smallEntry :
    smallEntry.Proper where
  oneLine := by
    have htexts : smallEntry.texts = ["g", "a", "1.0"] := by rfl
    unfold Entry.OneLine
    rw [htexts]
    decide
  parsed := by
    refine ⟨"g:a:1.0".toList, [smallEntry], parseAll_smallEntry, by simp, ?_, ?_⟩
    · intro h
      exact absurd (by rfl) h
    · intro _
      have htexts : smallEntry.texts = ["g", "a", "1.0"] := by rfl
      simp [htexts, Unmarked]

/-! ## Merging again -/

/-- After a merge each of the merged entries is there: merging them again, in any order and any
number of times, gives the same text. -/
theorem exists_merge_stable
    (d : ProjectDocument)
    (es : List Entry)
    (hes : ∀ e ∈ es, e.Proper) :
    ∃ out, merge d.write es = some out ∧ ∀ es' ⊆ es, merge out es' = some out := by
  have hwritten : ∀ e ∈ es, e.Written := fun e he => (hes e he).written
  obtain ⟨l, hl, hmerge⟩ := merge_write d es
  obtain ⟨d', hd', -, -, hkeys⟩ := exists_mergeAll hl es d hwritten
  refine ⟨d'.write, hmerge.trans hd', fun es' hsub => ?_⟩
  obtain ⟨l', hl', hmerge'⟩ := merge_write d' es'
  rw [hmerge']
  exact mergeAll_of_mem hl' d' es' fun e he => ⟨hwritten e (hsub he), hkeys e (hsub he)⟩

theorem exists_merge_stable_small :
    (∀ e ∈ [smallEntry], e.Proper) ∧ ∃ out, merge smallProject.write [smallEntry] = some out ∧
      ∀ es' ⊆ [smallEntry], merge out es' = some out := by
  have hproper : ∀ e ∈ [smallEntry], e.Proper := by
    intro e he
    rw [List.mem_singleton.mp he]
    exact proper_smallEntry
  exact ⟨hproper, exists_merge_stable smallProject [smallEntry] hproper⟩

/-! ## The model of a merge -/

/-- Whether two models differ at most in the lists of their entries. -/
def Model.SameOutside (m m' : Model) : Prop :=
  m' =
    { m with
      dependencies := m'.dependencies
      dependencyManagement := m'.dependencyManagement
      repositories := m'.repositories
      plugins := m'.plugins }

theorem Model.SameOutside.trans
    {m m' m'' : Model}
    (h : m.SameOutside m')
    (h' : m'.SameOutside m'') :
    m.SameOutside m'' := by
  cases m
  cases m'
  cases m''
  simp only [Model.SameOutside, Model.mk.injEq] at h h' ⊢
  simp_all

theorem Model.sameOutside_add
    (m : Model)
    (e : Entry) :
    m.SameOutside (m.add e) := by
  cases hk : e.kind <;> simp [Model.SameOutside, Model.add, hk]

/-- Missing entries are added to the lists of their kinds, and nowhere else. -/
theorem Model.sameOutside_addMissing
    (es : List Entry)
    (m : Model)
    (keys : EntryKind → List String) :
    m.SameOutside (m.addMissing keys es) := by
  induction es generalizing m keys with
  | nil => rfl
  | cons e rest ih =>
      by_cases hkey : e.key ∈ keys e.kind
      · rw [Model.addMissing, if_pos hkey]
        exact ih m keys
      · rw [Model.addMissing, if_neg hkey]
        exact (m.sameOutside_add e).trans (ih (m.add e) (withKey keys e))

/-- What is declared stays declared when another entry is added. -/
theorem Entry.isDeclaredIn_add
    {e : Entry}
    {m : Model}
    (h : e.isDeclaredIn m = true)
    (x : Entry) :
    e.isDeclaredIn (m.add x) = true := by
  cases hk : e.kind <;> cases hx : x.kind <;>
    simp only [Entry.isDeclaredIn, Model.add, hk, hx, List.any_append, Bool.or_eq_true] at h ⊢ <;>
    tauto

theorem Entry.isDeclaredIn_addMissing
    {e : Entry}
    {m : Model}
    (h : e.isDeclaredIn m = true)
    (keys : EntryKind → List String)
    (es : List Entry) :
    e.isDeclaredIn (m.addMissing keys es) = true := by
  induction es generalizing m keys with
  | nil => exact h
  | cons x rest ih =>
      rw [Model.addMissing]
      split
      · exact ih h keys
      · exact ih (Entry.isDeclaredIn_add h x) _

/-- The model of a document that entries have been merged into is the model of the document, with
each entry appended to the list of its kind whose key no entry of its section had; everything else
that the model says is the same. -/
theorem exists_merge_model
    (d : ProjectDocument)
    (es : List Entry)
    (hes : ∀ e ∈ es, e.Proper) :
    ∃ out m m', merge d.write es = some out ∧ Model.parse? d.write = some m ∧
      Model.parse? out = some m' ∧ m' = m.addMissing (keysOf d.content) es ∧ m.SameOutside m' := by
  obtain ⟨l, hl, hmerge⟩ := merge_write d es
  obtain ⟨d', hd', hmodel, -, -⟩ := exists_mergeAll hl es d fun e he => (hes e he).written
  refine ⟨d'.write, modelOf d.content, modelOf d'.content, hmerge.trans hd', d.parse?_write,
    d'.parse?_write, hmodel, ?_⟩
  rw [hmodel]
  exact Model.sameOutside_addMissing es _ _

theorem exists_merge_model_small :
    (∀ e ∈ [smallEntry], e.Proper) ∧
      ∃ out m m', merge smallProject.write [smallEntry] = some out ∧
        Model.parse? smallProject.write = some m ∧ Model.parse? out = some m' ∧
        m' = m.addMissing (keysOf smallProject.content) [smallEntry] ∧ m.SameOutside m' := by
  have hproper : ∀ e ∈ [smallEntry], e.Proper := by
    intro e he
    rw [List.mem_singleton.mp he]
    exact proper_smallEntry
  exact ⟨hproper, exists_merge_model smallProject [smallEntry] hproper⟩

end Pom
end Runbook
