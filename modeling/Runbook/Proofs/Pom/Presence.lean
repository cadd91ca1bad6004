import Runbook.Proofs.Pom.Steps
import Runbook.Proofs.Pom.Merging

/-!
# Whether an entry is there

Two checks tell whether a project has an entry: the model compares fields, and a merge compares keys,
in which fields are joined with colons. The two agree unless an entry of the section is mistaken for
the other one. Among artifacts whose fields hold no colons that happens only where the type of the
one is the classifier of the other.

Main statement: `exists_isDeclaredIn_iff`.
-/

namespace Runbook
namespace Pom

open Text Markup

namespace Entry

/-- The fields by which the model compares dependencies. -/
def SameArtifact (e x : Entry) : Prop :=
  x.groupId = e.groupId ∧ x.artifactId = e.artifactId ∧
    unusualPackaging? x.packaging = unusualPackaging? e.packaging ∧ x.classifier = e.classifier

/-- The entries of a section are mistaken for an entry by one of the checks only. -/
def Mistaken
    (xs : List Entry)
    (e : Entry) :
    Prop :=
  match e.kind with
  | .dependency | .managed =>
      (∃ x ∈ xs, x.key = e.key) ∧ ∀ x ∈ xs, ¬ e.SameArtifact x
  | .plugin =>
      (∃ x ∈ xs, x.key = e.key) ∧ ∀ x ∈ xs, x.key = e.key → x.artifactId = none
  | .repository =>
      match e.id with
      | some id => (∃ x ∈ xs, x.id = none ∧ x.url = some id) ∧ ∀ x ∈ xs, x.id ≠ some id
      | none =>
          ((∃ x ∈ xs, x.url = e.url) ∧ ∀ x ∈ xs, x.id.or x.url ≠ e.url) ∨
            ((∃ x ∈ xs, x.id = e.url) ∧ ∀ x ∈ xs, x.url ≠ e.url)

end Entry

/-! ## The check of the model -/

section Declared

variable {e : Entry}
variable {row : List Node}

/-- An artifact of a model is that of an entry with a name. -/
theorem any_filterMap_artifact?
    (xs : List Entry)
    (p : Artifact → Bool) :
    (xs.filterMap Entry.artifact?).any p = true ↔
      ∃ x ∈ xs, x.artifactId ≠ none ∧ p x.artifact = true := by
  rw [List.any_eq_true]
  constructor
  · rintro ⟨a, ha, hp⟩
    obtain ⟨x, hx, hxa⟩ := List.mem_filterMap.mp ha
    cases hid : x.artifactId with
    | none => simp [Entry.artifact?, hid] at hxa
    | some i =>
        have hsame : x.artifact = a := by
          simpa [Entry.artifact?, Entry.artifact, hid] using hxa
        exact ⟨x, hx, by simp [hid], by rw [hsame]; exact hp⟩
  · rintro ⟨x, hx, hid, hp⟩
    obtain ⟨i, hi⟩ := Option.ne_none_iff_exists'.mp hid
    refine ⟨x.artifact, List.mem_filterMap.mpr ⟨x, hx, ?_⟩, hp⟩
    simp [Entry.artifact?, Entry.artifact, hi]

theorem matchesArtifact_iff
    {x : Entry}
    (hid : x.artifactId ≠ none) :
    e.matchesArtifact x.artifact = true ↔ e.SameArtifact x := by
  obtain ⟨i, hi⟩ := Option.ne_none_iff_exists'.mp hid
  simp [Entry.matchesArtifact, Entry.artifact, Entry.SameArtifact, hi, and_assoc]

/-- Dependencies are declared when an entry has their fields. -/
theorem any_matchesArtifact
    (hid : e.artifactId ≠ none)
    (xs : List Entry) :
    (xs.filterMap Entry.artifact?).any e.matchesArtifact = true ↔
      ∃ x ∈ xs, e.SameArtifact x := by
  rw [any_filterMap_artifact?]
  constructor
  · rintro ⟨x, hx, hne, hmatch⟩
    exact ⟨x, hx, (matchesArtifact_iff hne).mp hmatch⟩
  · rintro ⟨x, hx, hsame⟩
    have hne : x.artifactId ≠ none := by
      rw [hsame.2.1]
      exact hid
    exact ⟨x, hx, hne, (matchesArtifact_iff hne).mpr hsame⟩

/-- Entries with the fields of a dependency have its key. -/
theorem Entry.SameArtifact.key_eq
    {x : Entry}
    (h : e.SameArtifact x)
    (hkind : x.kind = e.kind)
    (he : e.kind = .dependency ∨ e.kind = .managed) :
    x.key = e.key := by
  obtain ⟨hg, ha, ht, hc⟩ := h
  rcases he with he | he <;> simp [Entry.key, hkind, he, hg, ha, ht, hc]

end Declared

/-! ## The two checks -/

/-- Whether an entry of a section is what the model takes for another entry. -/
def Entry.Declares (e x : Entry) : Prop :=
  match e.kind with
  | .dependency | .managed => e.SameArtifact x
  | .plugin => x.artifactId ≠ none ∧ x.key = e.key
  | .repository =>
      match e.id with
      | some id => x.id = some id
      | none => x.url = e.url

section Checks

variable {e : Entry}
variable {row : List Node}

theorem kind_of_mem_sectionEntries
    {kind : EntryKind}
    {x : Entry}
    (hx : x ∈ sectionEntries kind row) :
    x.kind = kind := by
  obtain ⟨n, -, rfl⟩ := List.mem_map.mp hx
  rfl

/-- An entry is declared when an entry of its section declares it. -/
theorem isDeclaredIn_iff
    (hcomplete : e.missing? = none) :
    e.isDeclaredIn (modelOf row) = true ↔ ∃ x ∈ sectionEntries e.kind row, e.Declares x := by
  have hname : e.kind ≠ .repository → e.artifactId ≠ none := by
    intro hkind hid
    have h := Entry.artifact?_of_complete hcomplete hkind
    simp [Entry.artifact?, hid] at h
  cases hk : e.kind with
  | dependency =>
      simp only [Entry.isDeclaredIn, Entry.Declares, hk, modelOf]
      exact any_matchesArtifact (hname (by simp [hk])) _
  | managed =>
      simp only [Entry.isDeclaredIn, Entry.Declares, hk, modelOf]
      exact any_matchesArtifact (hname (by simp [hk])) _
  | plugin =>
      simp only [Entry.isDeclaredIn, Entry.Declares, hk, modelOf]
      rw [any_filterMap_artifact?]
      refine exists_congr fun x => and_congr_right fun hx => and_congr_right fun hid => ?_
      obtain ⟨i, hi⟩ := Option.ne_none_iff_exists'.mp hid
      have hkey : x.key = x.groupId.getD Entry.defaultPluginGroup ++ ":" ++ i := by
        simp [Entry.key, kind_of_mem_sectionEntries hx, hi]
      simp [Entry.artifact, hi, hkey]
  | repository =>
      simp only [Entry.isDeclaredIn, Entry.Declares, hk, modelOf]
      cases hid : e.id with
      | some id =>
          simp only [List.any_map, List.any_eq_true, Function.comp_apply, Entry.repository]
          exact exists_congr fun x => and_congr_right fun _ => decide_eq_true_iff
      | none =>
          simp only [List.any_map, List.any_eq_true, Function.comp_apply, Entry.repository]
          exact exists_congr fun x => and_congr_right fun _ => decide_eq_true_iff

/-- A key of a repository is its id, or its address when it has none. -/
theorem key_eq_iff_of_repository
    {x : Entry}
    (hx : x.kind = .repository)
    {v : String}
    (hv : v ≠ "") :
    x.key = v ↔ x.id.or x.url = some v := by
  simp only [Entry.key, hx]
  cases h : x.id.or x.url with
  | none => simpa [eq_comm] using hv
  | some w => simp

/-- Where what is declared is present, two checks differ when something is present that is not
declared. -/
theorem exists_iff_exists_iff
    {xs : List Entry}
    {declared present : Entry → Prop}
    (himp : ∀ x ∈ xs, declared x → present x) :
    ((∃ x ∈ xs, declared x) ↔ ∃ x ∈ xs, present x) ↔
      ¬ ((∃ x ∈ xs, present x) ∧ ∀ x ∈ xs, ¬ declared x) := by
  constructor
  · rintro hiff ⟨hpresent, hnone⟩
    obtain ⟨x, hx, hdeclared⟩ := hiff.mpr hpresent
    exact hnone x hx hdeclared
  · intro hnot
    refine ⟨fun ⟨x, hx, hdeclared⟩ => ⟨x, hx, himp x hx hdeclared⟩, fun hpresent => ?_⟩
    by_contra hnone
    exact hnot ⟨hpresent, fun x hx hdeclared => hnone ⟨x, hx, hdeclared⟩⟩

/-- The checks differ exactly where an entry is mistaken. -/
theorem checks_agree_iff
    {xs : List Entry}
    (hkinds : ∀ x ∈ xs, x.kind = e.kind)
    (hcomplete : e.missing? = none)
    (hne : ∀ v ∈ e.texts, v ≠ "") :
    ((∃ x ∈ xs, e.Declares x) ↔ ∃ x ∈ xs, x.key = e.key) ↔ ¬ e.Mistaken xs := by
  cases hk : e.kind with
  | dependency =>
      simp only [Entry.Declares, Entry.Mistaken, hk]
      exact exists_iff_exists_iff fun x hx hsame => hsame.key_eq (hkinds x hx) (Or.inl hk)
  | managed =>
      simp only [Entry.Declares, Entry.Mistaken, hk]
      exact exists_iff_exists_iff fun x hx hsame => hsame.key_eq (hkinds x hx) (Or.inr hk)
  | plugin =>
      simp only [Entry.Declares, Entry.Mistaken, hk]
      rw [exists_iff_exists_iff fun x _ h => h.2]
      refine not_congr (and_congr_right fun _ => forall_congr' fun x => forall_congr' fun _ => ?_)
      tauto
  | repository =>
      have hmem : ∀ v, e.id.or e.url = some v → v ≠ "" := by
        intro v hv
        refine hne v (Entry.mem_texts.mpr ?_)
        rcases Option.or_eq_some_iff.mp hv with hid | ⟨-, hurl⟩
        · simp [hid]
        · simp [hurl]
      have hpresent : ∀ v, e.id.or e.url = some v → ∀ x ∈ xs, x.key = e.key ↔
          x.id.or x.url = some v := by
        intro v hv x hx
        have hkey : e.key = v := (key_eq_iff_of_repository hk (hmem v hv)).mpr hv
        rw [hkey]
        exact key_eq_iff_of_repository ((hkinds x hx).trans hk) (hmem v hv)
      simp only [Entry.Declares, Entry.Mistaken, hk]
      cases hid : e.id with
      | some id =>
          have hkeys := hpresent id (by simp [hid])
          rw [exists_iff_exists_iff fun x hx h => (hkeys x hx).mpr (by simp [h])]
          refine not_congr (and_congr_left fun hnone => exists_congr fun x => ?_)
          refine and_congr_right fun hx => ?_
          rw [hkeys x hx, Option.or_eq_some_iff]
          simp [hnone x hx]
      | none =>
          obtain ⟨u, hu⟩ : ∃ u, e.url = some u := by
            refine Option.ne_none_iff_exists'.mp fun hnone => ?_
            simp [Entry.missing?, hk, hid, hnone] at hcomplete
          have hkeys := hpresent u (by simp [hid, hu])
          rw [hu]
          have hpresence : (∃ x ∈ xs, x.key = e.key) ↔ ∃ x ∈ xs, x.id.or x.url = some u :=
            exists_congr fun x => and_congr_right fun hx => hkeys x hx
          have hid_only : (∀ x ∈ xs, x.url ≠ some u) →
              ((∃ x ∈ xs, x.id.or x.url = some u) ↔ ∃ x ∈ xs, x.id = some u) := by
            intro hnone
            refine exists_congr fun x => and_congr_right fun hx => ?_
            rw [Option.or_eq_some_iff]
            simp [hnone x hx]
          rw [hpresence]
          by_cases hdeclared : ∃ x ∈ xs, x.url = some u
          · have hsome : ¬ ∀ x ∈ xs, x.url ≠ some u := by
              obtain ⟨x, hx, hxu⟩ := hdeclared
              exact fun hall => hall x hx hxu
            simp only [hdeclared, true_iff, true_and, hsome, and_false, or_false]
            push Not
            rfl
          · have hnone : ∀ x ∈ xs, x.url ≠ some u := by
              intro x hx hxu
              exact hdeclared ⟨x, hx, hxu⟩
            rw [← hid_only hnone]
            simp only [hdeclared, false_iff, false_and, false_or]
            exact not_congr (and_iff_left hnone).symm

end Checks

/-! ## Keys without colons -/

namespace Entry

/-- The fields that tell an artifact from others hold no colons. -/
def ColonFree (e : Entry) : Prop :=
  ∀ o ∈ [e.groupId, e.artifactId, e.packaging, e.classifier], ∀ v ∈ o, ':' ∉ v.toList

/-- One dependency has as its type what the other one has as its classifier. -/
def Trades (e x : Entry) : Prop :=
  x.groupId = e.groupId ∧ x.artifactId = e.artifactId ∧
    ((unusualPackaging? x.packaging = e.classifier ∧ x.classifier = none ∧
        unusualPackaging? e.packaging = none ∧ e.classifier ≠ none) ∨
      (x.classifier = unusualPackaging? e.packaging ∧ unusualPackaging? x.packaging = none ∧
        e.classifier = none ∧ unusualPackaging? e.packaging ≠ none))

/-- The parts that the key of a dependency is joined from. -/
def keyParts (e : Entry) : List String :=
  e.groupId.getD "" :: e.artifactId.getD "" ::
    ((unusualPackaging? e.packaging).toList ++ e.classifier.toList)

end Entry

section Keys

variable {e x : Entry}

theorem unusualPackaging?_eq_some
    {o : Option String}
    {t : String}
    (h : Entry.unusualPackaging? o = some t) :
    o = some t := by
  unfold Entry.unusualPackaging? at h
  split at h
  · cases h
  · exact h

theorem toList_key
    (he : e.kind = .dependency ∨ e.kind = .managed) :
    e.key.toList = joinWith [':'] (e.keyParts.map String.toList) := by
  rcases he with he | he <;>
    cases ht : Entry.unusualPackaging? e.packaging <;> cases hc : e.classifier <;>
      simp [Entry.key, Entry.keyParts, joinWith, he, ht, hc]

/-- The parts of a key hold no colons where the fields do not. -/
theorem colon_not_mem_keyParts
    (h : e.ColonFree) :
    ∀ p ∈ e.keyParts.map String.toList, ':' ∉ p := by
  intro p hp
  obtain ⟨v, hv, rfl⟩ := List.mem_map.mp hp
  have hget : ∀ o ∈ [e.groupId, e.artifactId, e.packaging, e.classifier],
      ':' ∉ (o.getD "").toList := by
    intro o ho
    cases o with
    | none => simp
    | some w => exact h _ ho w rfl
  simp only [Entry.keyParts, List.mem_cons, List.mem_append, Option.mem_toList] at hv
  rcases hv with rfl | rfl | ht | hc
  · exact hget _ (by simp)
  · exact hget _ (by simp)
  · exact h _ (by simp) v (unusualPackaging?_eq_some ht)
  · exact h _ (by simp) v hc

/-- Dependencies without colons have one key when their keys have the same parts. -/
theorem key_eq_iff_keyParts_eq
    (he : e.kind = .dependency ∨ e.kind = .managed)
    (hx : x.kind = e.kind)
    (hefree : e.ColonFree)
    (hxfree : x.ColonFree) :
    x.key = e.key ↔ x.keyParts = e.keyParts := by
  have hxkind : x.kind = .dependency ∨ x.kind = .managed := by
    rw [hx]
    exact he
  have hne : ∀ y : Entry, y.keyParts.map String.toList ≠ [] := by
    intro y
    simp [Entry.keyParts]
  constructor
  · intro hkey
    have hjoin := congrArg String.toList hkey
    rw [toList_key hxkind, toList_key he] at hjoin
    have hsplit := congrArg (splitOn ':') hjoin
    rw [splitOn_joinWith (hne x) (colon_not_mem_keyParts hxfree),
      splitOn_joinWith (hne e) (colon_not_mem_keyParts hefree)] at hsplit
    exact List.map_injective_iff.mpr (fun _ _ h => String.toList_injective h) hsplit
  · intro hparts
    refine String.toList_injective ?_
    rw [toList_key hxkind, toList_key he, hparts]

/-- Fields that are none or not empty are the same when their texts are. -/
theorem getD_eq_iff
    {o o' : Option String}
    (ho : ∀ v ∈ o, v ≠ "")
    (ho' : ∀ v ∈ o', v ≠ "") :
    o.getD "" = o'.getD "" ↔ o = o' := by
  cases o with
  | none =>
      cases o' with
      | none => simp
      | some v =>
          have hv := ho' v rfl
          simpa [eq_comm] using hv
  | some v =>
      cases o' with
      | none =>
          have hv := ho v rfl
          simpa using hv
      | some w => simp

/-- Two optional texts in a row are the same as two others, or the one that is there has moved. -/
theorem toList_append_toList_eq_iff
    {a b c d : Option String} :
    a.toList ++ b.toList = c.toList ++ d.toList ↔
      (a = c ∧ b = d) ∨ (a = d ∧ b = none ∧ c = none ∧ d ≠ none) ∨
        (b = c ∧ a = none ∧ d = none ∧ c ≠ none) := by
  cases a <;> cases b <;> cases c <;> cases d <;> simp

/-- The group and the name of an entry are not empty where none of its texts is. -/
theorem ne_empty_of_texts
    (h : ∀ v ∈ e.texts, v ≠ "") :
    (∀ v ∈ e.groupId, v ≠ "") ∧ ∀ v ∈ e.artifactId, v ≠ "" := by
  refine ⟨fun v hv => h v (Entry.mem_texts.mpr ?_), fun v hv => h v (Entry.mem_texts.mpr ?_)⟩
  · simp [Option.mem_def.mp hv]
  · simp [Option.mem_def.mp hv]

/-- The keys of dependencies are the same where the dependencies are, or where a type and a
classifier are traded. -/
theorem keyParts_eq_iff
    (he : ∀ v ∈ e.texts, v ≠ "")
    (hx : ∀ v ∈ x.texts, v ≠ "") :
    x.keyParts = e.keyParts ↔ e.SameArtifact x ∨ e.Trades x := by
  obtain ⟨hegroup, hename⟩ := ne_empty_of_texts he
  obtain ⟨hxgroup, hxname⟩ := ne_empty_of_texts hx
  simp only [Entry.keyParts, List.cons.injEq, getD_eq_iff hxgroup hegroup,
    getD_eq_iff hxname hename, toList_append_toList_eq_iff, Entry.SameArtifact, Entry.Trades]
  tauto

/-- Plugins without colons have one key when their groups and their names are the same. -/
theorem key_eq_iff_of_plugin
    (he : e.kind = .plugin)
    (hx : x.kind = .plugin)
    (hefree : e.ColonFree)
    (hxfree : x.ColonFree) :
    x.key = e.key ↔
      x.groupId.getD Entry.defaultPluginGroup = e.groupId.getD Entry.defaultPluginGroup ∧
        x.artifactId.getD "" = e.artifactId.getD "" := by
  have hparts : ∀ y : Entry, y.kind = .plugin →
      y.key.toList = joinWith [':']
        [(y.groupId.getD Entry.defaultPluginGroup).toList, (y.artifactId.getD "").toList] := by
    intro y hy
    simp [Entry.key, hy, joinWith]
  have hfree : ∀ y : Entry, y.ColonFree →
      ∀ p ∈ [(y.groupId.getD Entry.defaultPluginGroup).toList, (y.artifactId.getD "").toList],
        ':' ∉ p := by
    intro y hy p hp
    simp only [List.mem_cons, List.not_mem_nil, or_false] at hp
    rcases hp with rfl | rfl
    · cases hg : y.groupId with
      | none => decide
      | some g => exact hy _ (by simp) g hg
    · cases ha : y.artifactId with
      | none => simp
      | some a => exact hy _ (by simp) a ha
  constructor
  · intro hkey
    have hsplit := congrArg (fun s : String => splitOn ':' s.toList) hkey
    simp only [hparts x hx, hparts e he] at hsplit
    rw [splitOn_joinWith (by simp) (hfree x hxfree), splitOn_joinWith (by simp) (hfree e hefree)]
      at hsplit
    obtain ⟨hgroup, hrest⟩ := List.cons_eq_cons.mp hsplit
    exact ⟨String.toList_injective hgroup,
      String.toList_injective (List.cons_eq_cons.mp hrest).1⟩
  · rintro ⟨hgroup, hname⟩
    refine String.toList_injective ?_
    rw [hparts x hx, hparts e he, hgroup, hname]

/-- Among dependencies without colons an entry is mistaken where a type and a classifier are
traded; plugins without colons are never mistaken. -/
theorem mistaken_iff_trades
    {xs : List Entry}
    (hkind : e.kind ≠ .repository)
    (hkinds : ∀ x ∈ xs, x.kind = e.kind)
    (hcomplete : e.missing? = none)
    (hene : ∀ v ∈ e.texts, v ≠ "")
    (hxne : ∀ x ∈ xs, ∀ v ∈ x.texts, v ≠ "")
    (hefree : e.ColonFree)
    (hxfree : ∀ x ∈ xs, x.ColonFree) :
    e.Mistaken xs ↔
      e.kind ≠ .plugin ∧ (∃ x ∈ xs, e.Trades x) ∧ ∀ x ∈ xs, ¬ e.SameArtifact x := by
  have hdependency : e.kind = .dependency ∨ e.kind = .managed →
      (((∃ x ∈ xs, x.key = e.key) ∧ ∀ x ∈ xs, ¬ e.SameArtifact x) ↔
        (∃ x ∈ xs, e.Trades x) ∧ ∀ x ∈ xs, ¬ e.SameArtifact x) := by
    intro he
    refine and_congr_left fun hnone => exists_congr fun x => and_congr_right fun hx => ?_
    rw [key_eq_iff_keyParts_eq he (hkinds x hx) hefree (hxfree x hx),
      keyParts_eq_iff hene (hxne x hx)]
    have hnot := hnone x hx
    tauto
  cases hk : e.kind with
  | dependency =>
      simpa [Entry.Mistaken, hk] using hdependency (Or.inl hk)
  | managed =>
      simpa [Entry.Mistaken, hk] using hdependency (Or.inr hk)
  | repository => exact absurd hk hkind
  | plugin =>
      have hid : e.artifactId ≠ none := by
        intro hnone
        simp [Entry.missing?, hk, hnone] at hcomplete
      simp only [Entry.Mistaken, hk, ne_eq, not_true_eq_false, false_and, iff_false, not_and]
      rintro ⟨x, hx, hkey⟩ hall
      -- The name of a parsed plugin is not empty, so an element without one has another key.
      obtain ⟨a, ha⟩ := Option.ne_none_iff_exists'.mp hid
      have hname :=
        ((key_eq_iff_of_plugin hk ((hkinds x hx).trans hk) hefree (hxfree x hx)).mp hkey).2
      rw [hall x hx hkey, ha] at hname
      exact (ne_empty_of_texts hene).2 a ha hname.symm

end Keys

/-! ## Presence -/

/-- What a merge takes for an entry that is there, where no field holds a colon. -/
def Entry.TakenFor (e x : Entry) : Prop :=
  match e.kind with
  | .dependency | .managed => e.SameArtifact x ∨ e.Trades x
  | .plugin =>
      x.groupId.getD Entry.defaultPluginGroup = e.groupId.getD Entry.defaultPluginGroup ∧
        x.artifactId = e.artifactId
  | .repository => x.key = e.key

/-- What a merge takes for an entry has its key. -/
theorem key_eq_iff_takenFor
    {e x : Entry}
    (hkind : x.kind = e.kind)
    (hene : ∀ v ∈ e.texts, v ≠ "")
    (hxne : ∀ v ∈ x.texts, v ≠ "")
    (hefree : e.ColonFree)
    (hxfree : x.ColonFree) :
    x.key = e.key ↔ e.TakenFor x := by
  cases hk : e.kind with
  | dependency =>
      rw [key_eq_iff_keyParts_eq (Or.inl hk) hkind hefree hxfree, keyParts_eq_iff hene hxne]
      simp [Entry.TakenFor, hk]
  | managed =>
      rw [key_eq_iff_keyParts_eq (Or.inr hk) hkind hefree hxfree, keyParts_eq_iff hene hxne]
      simp [Entry.TakenFor, hk]
  | plugin =>
      rw [key_eq_iff_of_plugin hk (hkind.trans hk) hefree hxfree,
        getD_eq_iff (ne_empty_of_texts hxne).2 (ne_empty_of_texts hene).2]
      simp [Entry.TakenFor, hk]
  | repository => simp [Entry.TakenFor, hk]

/-- No field of an entry of a section is empty. -/
theorem ne_empty_of_mem_sectionEntries
    {kind : EntryKind}
    {row : List Node}
    {x : Entry}
    (hx : x ∈ sectionEntries kind row) :
    ∀ v ∈ x.texts, v ≠ "" := by
  obtain ⟨n, -, rfl⟩ := List.mem_map.mp hx
  intro v hv
  have hfield : ∀ name, some v = field? n.content name → v ≠ "" := by
    intro name hsome
    simpa using (Option.filter_eq_some_iff.mp hsome.symm).2
  have ho := Entry.mem_texts.mp hv
  simp only [entryOf, List.mem_cons, List.not_mem_nil, or_false] at ho
  rcases ho with ho | ho | ho | ho | ho | ho | ho | ho <;> exact hfield _ ho

/-- The check of the model and the check of a merge agree on an entry exactly when it is not
mistaken. Where no field holds a colon, a merge takes an entry to be there when one with its fields
is, or one with its type and classifier traded; only the latter is mistaken for it. -/
theorem exists_isDeclaredIn_iff
    (d : ProjectDocument)
    (e : Entry)
    (he : e.Parsed) :
    ∃ m, Model.parse? d.write = some m ∧
      ((e.isDeclaredIn m = true ↔ merge d.write [e] = some d.write) ↔
        ¬ e.Mistaken (sectionEntries e.kind d.content)) ∧
      (e.kind ≠ .repository → e.ColonFree →
        (∀ x ∈ sectionEntries e.kind d.content, x.ColonFree) →
        (merge d.write [e] = some d.write ↔
          ∃ x ∈ sectionEntries e.kind d.content, e.TakenFor x) ∧
        (e.Mistaken (sectionEntries e.kind d.content) ↔
          e.kind ≠ .plugin ∧ (∃ x ∈ sectionEntries e.kind d.content, e.Trades x) ∧
            ∀ x ∈ sectionEntries e.kind d.content, ¬ e.SameArtifact x)) := by
  obtain ⟨l, hl, hmerge⟩ := merge_write d [e]
  have hkinds : ∀ x ∈ sectionEntries e.kind d.content, x.kind = e.kind :=
    fun x hx => kind_of_mem_sectionEntries hx
  have hene : ∀ v ∈ e.texts, v ≠ "" := fun v hv => he.ne_empty hv
  have hpresent : merge d.write [e] = some d.write ↔
      ∃ x ∈ sectionEntries e.kind d.content, x.key = e.key := by
    have hone : mergeAll l d.write [e] = mergeOne l d.write e := by
      simp [mergeAll]
    rw [hmerge, hone, mergeOne_eq_self_iff hl, keysOf, List.mem_map]
  refine ⟨modelOf d.content, d.parse?_write, ?_, fun hkind hefree hxfree => ⟨?_, ?_⟩⟩
  · rw [isDeclaredIn_iff he.complete, hpresent]
    exact checks_agree_iff hkinds he.complete hene
  · rw [hpresent]
    refine exists_congr fun x => and_congr_right fun hx => ?_
    exact key_eq_iff_takenFor (hkinds x hx) hene (ne_empty_of_mem_sectionEntries hx) hefree
      (hxfree x hx)
  · exact mistaken_iff_trades hkind hkinds he.complete hene
      (fun x hx => ne_empty_of_mem_sectionEntries hx) hefree hxfree

theorem exists_isDeclaredIn_iff_small :
    smallEntry.Parsed ∧
      ¬ smallEntry.Mistaken (sectionEntries smallEntry.kind smallProject.content) ∧
      ∃ m, Model.parse? smallProject.write = some m ∧
        (smallEntry.isDeclaredIn m = true ↔
          merge smallProject.write [smallEntry] = some smallProject.write) := by
  have hparsed : smallEntry.Parsed :=
    ⟨"g:a:1.0".toList, [smallEntry], parseAll_smallEntry, by simp⟩
  have hempty : sectionEntries smallEntry.kind smallProject.content = [] := by
    rfl
  have hagree : ¬ smallEntry.Mistaken (sectionEntries smallEntry.kind smallProject.content) := by
    rw [hempty]
    rintro ⟨⟨x, hx, -⟩, -⟩
    cases hx
  obtain ⟨m, hm, hiff, -⟩ := exists_isDeclaredIn_iff smallProject smallEntry hparsed
  exact ⟨hparsed, hagree, m, hm, hiff.mpr hagree⟩

end Pom
end Runbook
