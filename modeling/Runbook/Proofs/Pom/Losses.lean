import Runbook.Proofs.Text.Positions
import Runbook.Proofs.Pom.Merging

/-!
# Edits that lose text

Two of the edits of a merge replace a part of the document: an empty tag that is opened loses its
attributes, and an element without children loses its content when a section is created in it. All
other edits insert. So a merge extends a document, whatever the document and the entries are, as long
as no step discards such attributes or such content.

Main statements: `stepKeeps_iff` and `extended_mergeAll`.
-/

namespace Runbook
namespace Pom

open Text Markup

/-! ## Edits of any document -/

/-- An edit keeps what it replaces. -/
def Edit.Keeps
    (doc : List Char)
    (edit : Edit) :
    Prop :=
  ∀ old, slice? doc edit.span = some old → Kept old edit.text

/-- The text of an empty tag of a name without attributes. -/
def IsBareTag
    (name : String)
    (s : List Char) :
    Prop :=
  ∃ gap, allBlank gap = true ∧ s = '<' :: (name.toList ++ (gap ++ ['/', '>']))

/-- An element has something visible that the edit for a path ending there replaces: attributes of
an empty tag, or the content where a section is missing and no child is there. -/
def Discards
    (doc : List Char)
    (parent : Element)
    (missing : List String) :
    Prop :=
  (parent.selfClosing = true ∧
      ∃ old, slice? doc parent.outer = some old ∧ allBlank old = false ∧
        ¬ IsBareTag parent.name old) ∨
    (parent.selfClosing = false ∧ missing ≠ [] ∧ (parent.children doc).isEmpty = true ∧
      ∃ old, slice? doc parent.inner = some old ∧ allBlank old = false)

/-- Texts in front of the first occurrences of a character are the same in the same text. -/
theorem eq_of_append_cons_eq
    {c : Char}
    {u v r s : List Char}
    (hu : c ∉ u)
    (hv : c ∉ v)
    (h : u ++ c :: r = v ++ c :: s) :
    u = v := by
  induction u generalizing v with
  | nil =>
      cases v with
      | nil => rfl
      | cons d v =>
          have hd : c = d := (List.cons_eq_cons.mp h).1
          exact absurd (hd ▸ List.mem_cons_self) hv
  | cons d u ih =>
      cases v with
      | nil =>
          have hd : d = c := (List.cons_eq_cons.mp h).1
          exact absurd (hd ▸ List.mem_cons_self) hu
      | cons e v =>
          obtain ⟨rfl, hrest⟩ := List.cons_eq_cons.mp h
          simp only [List.mem_cons, not_or] at hu hv
          rw [ih hu.2 hv.2 hrest]

section Edits

variable {l : Layout}
variable {doc : List Char}
variable {parent : Element}

/-- Opening an empty tag keeps what it replaces when the tag has no attributes. -/
theorem kept_enclosed_iff
    {name : String}
    (hname : ∀ c ∈ name.toList, continuesName c = true)
    (l : Layout)
    (old block indent : List Char) :
    Kept old (enclosed l name block indent) ↔ allBlank old = true ∨ IsBareTag name old := by
  have hplain : ∀ c ∈ name.toList, c ≠ '<' ∧ c ≠ '>' := fun c hc =>
    ⟨continuesName_ne (hname c hc) (by decide), continuesName_ne (hname c hc) (by decide)⟩
  have hshape : enclosed l name block indent =
      '<' :: (name.toList ++ [] ++ '>' ::
        (l.newline ++ block ++ l.newline ++ indent ++ '<' :: '/' :: (name.toList ++ ['>']))) := by
    simp [enclosed]
  constructor
  · intro h
    rw [hshape] at h
    generalize hnew : '<' :: (name.toList ++ [] ++ '>' ::
      (l.newline ++ block ++ l.newline ++ indent ++ '<' :: '/' :: (name.toList ++ ['>']))) =
        new at h
    cases h with
    | blank hblank => exact Or.inl hblank
    | @opened name' attributes gap inside plain hblank =>
        right
        refine ⟨gap, hblank, ?_⟩
        have hrest := (List.cons_eq_cons.mp hnew).2
        rw [List.append_nil] at hrest
        have hsame := eq_of_append_cons_eq (fun h => (hplain _ h).2 rfl)
          (fun h => (plain _ h).2 rfl) hrest
        rw [hsame]
  · rintro (hblank | ⟨gap, hblank, rfl⟩)
    · exact Kept.blank hblank
    · rw [hshape]
      have hkept : ∀ inside : List Char,
          Kept ('<' :: (name.toList ++ [] ++ (gap ++ ['/', '>'])))
            ('<' :: (name.toList ++ [] ++ '>' :: (inside ++ '<' :: '/' :: (name.toList ++ ['>'])))) :=
        fun _ => Kept.opened (by simpa using hplain) hblank
      simpa using hkept (l.newline ++ block ++ l.newline ++ indent)

/-- What begins with a blank is no tag that has been opened. -/
theorem kept_iff_of_blank
    {lead new old : List Char}
    (hlead : IsBreak lead) :
    Kept old (lead ++ new) ↔ allBlank old = true := by
  constructor
  · intro h
    cases hl : lead with
    | nil => exact absurd hl hlead.ne_nil
    | cons c lead' =>
        have hc : isBlank c = true := hlead.head_blank (by simp [hl])
        rw [hl, List.cons_append] at h
        generalize htail : lead' ++ new = tail at h
        cases h with
        | blank hblank => exact hblank
        | opened plain hblank => exact absurd hc (by decide)
  · exact Kept.blank

/-- An insertion replaces nothing. -/
theorem keeps_insertion
    (doc : List Char)
    (position : Nat)
    (text : List Char) :
    (Edit.insertion position text).Keeps doc := by
  intro old hold
  obtain ⟨before, after, -, hstart, hstop⟩ := exists_of_slice?_eq_some hold
  refine Kept.blank ?_
  cases old with
  | nil => rfl
  | cons c old =>
      have hpos := c.utf8Size_pos
      simp only [Edit.insertion, byteSize_cons] at hstart hstop
      omega

/-- An empty tag is opened without loss exactly when nothing is discarded. -/
theorem keeps_enclosed_iff
    (hname : ∀ c ∈ parent.name.toList, continuesName c = true)
    (hself : parent.selfClosing = true)
    (l : Layout)
    (block indent : List Char)
    (missing : List String) :
    Edit.Keeps doc ⟨parent.outer, enclosed l parent.name block indent⟩ ↔
      ¬ Discards doc parent missing := by
  have hdiscards : Discards doc parent missing ↔
      ∃ old, slice? doc parent.outer = some old ∧ allBlank old = false ∧
        ¬ IsBareTag parent.name old := by
    simp [Discards, hself]
  rw [hdiscards, not_exists]
  refine forall_congr' fun old => ?_
  rw [kept_enclosed_iff hname]
  cases hblank : allBlank old with
  | true => simp
  | false => simp

/-- The edit for an entry keeps what it replaces exactly when nothing is discarded. -/
theorem entryEdit_keeps_iff
    (hname : ∀ c ∈ parent.name.toList, continuesName c = true)
    (l : Layout)
    (entry : List Char) :
    (entryEdit l doc parent entry).Keeps doc ↔ ¬ Discards doc parent [] := by
  by_cases hself : parent.selfClosing = true
  · rw [entryEdit, if_pos hself]
    exact keeps_enclosed_iff hname hself l _ _ []
  · have hkeeps : (entryEdit l doc parent entry).Keeps doc := by
      rw [entryEdit, if_neg hself]
      split
      · exact keeps_insertion _ _ _
      · exact keeps_insertion _ _ _
    simp [hkeeps, Discards, hself]

/-- The edit for a section keeps what it replaces exactly when nothing is discarded. -/
theorem sectionEdit_keeps_iff
    (hl : l.IsBlank)
    (hname : ∀ c ∈ parent.name.toList, continuesName c = true)
    (name : String)
    (rest : List String)
    (block : List Char) :
    (sectionEdit l doc parent name block).Keeps doc ↔ ¬ Discards doc parent (name :: rest) := by
  by_cases hself : parent.selfClosing = true
  · rw [sectionEdit, if_pos hself]
    exact keeps_enclosed_iff hname hself l _ _ _
  · by_cases hchildren : (parent.children doc).isEmpty = true
    · have hdiscards : Discards doc parent (name :: rest) ↔
          ∃ old, slice? doc parent.inner = some old ∧ allBlank old = false := by
        simp [Discards, hself, hchildren]
      rw [hdiscards, not_exists]
      simp only [sectionEdit, if_neg hself, if_pos hchildren]
      refine forall_congr' fun old => ?_
      simp only [List.append_assoc]
      rw [kept_iff_of_blank hl.newline]
      cases hblank : allBlank old with
      | true => simp
      | false => simp
    · have hkeeps : (sectionEdit l doc parent name block).Keeps doc := by
        simp only [sectionEdit, if_neg hself, if_neg hchildren]
        exact keeps_insertion _ _ _
      simp [hkeeps, Discards, hself, hchildren]

/-- The element where a path ends is named as a tag is read. -/
theorem continues_of_descend :
    ∀ (path : List String) {e parent : Element} {missing : List String},
      descend doc e path = (parent, missing) → (∀ c ∈ e.name.toList, continuesName c = true) →
      ∀ c ∈ parent.name.toList, continuesName c = true
  | [], e, parent, missing, h, he => by
      cases h
      exact he
  | name :: rest, e, parent, missing, h, he => by
      rw [descend] at h
      split at h
      · rename_i child hchild
        have hmem := List.mem_of_find?_eq_some hchild
        exact continues_of_descend rest h (continues_of_mem_elementsIn hmem)
      · cases h
        exact he

/-- The edit of a merge keeps what it replaces exactly when nothing is discarded. -/
theorem editFor_keeps_iff
    (hl : l.IsBlank)
    {project : Element}
    {e : Entry}
    {edit : Edit}
    {missing : List String}
    (hproject : project? doc = some project)
    (hdescend : descend doc project e.kind.sectionPath = (parent, missing))
    (hedit : editFor l doc project e = some edit) :
    edit.Keeps doc ↔ ¬ Discards doc parent missing := by
  have hroot : root? doc = some project := (Option.filter_eq_some_iff.mp hproject).1
  have hname := continues_of_descend _ hdescend
    (continues_of_mem_elementsIn (List.mem_of_head? hroot))
  rw [editFor, hdescend] at hedit
  cases missing with
  | nil =>
      simp only at hedit
      split at hedit
      · cases hedit
      · cases hedit
        exact entryEdit_keeps_iff hname l _
  | cons name rest =>
      cases hedit
      exact sectionEdit_keeps_iff hl hname name rest _

end Edits

/-! ## Steps of any merge -/

/-- The step of a merge keeps what it replaces. -/
def StepKeeps
    (l : Layout)
    (doc : List Char)
    (e : Entry) :
    Prop :=
  ∀ project edit, project? doc = some project → editFor l doc project e = some edit →
    edit.Keeps doc

/-- The step of a merge discards something visible. -/
def StepDiscards
    (l : Layout)
    (doc : List Char)
    (e : Entry) :
    Prop :=
  ∃ project parent missing, project? doc = some project ∧
    descend doc project e.kind.sectionPath = (parent, missing) ∧
    (editFor l doc project e).isSome = true ∧ Discards doc parent missing

theorem stepKeeps_iff
    {l : Layout}
    (hl : l.IsBlank)
    (doc : List Char)
    (e : Entry) :
    StepKeeps l doc e ↔ ¬ StepDiscards l doc e := by
  constructor
  · rintro hkeeps ⟨project, parent, missing, hproject, hdescend, hsome, hdiscards⟩
    obtain ⟨edit, hedit⟩ := Option.isSome_iff_exists.mp hsome
    exact (editFor_keeps_iff hl hproject hdescend hedit).mp (hkeeps project edit hproject hedit)
      hdiscards
  · intro hnot project edit hproject hedit
    refine (editFor_keeps_iff hl hproject rfl hedit).mpr fun hdiscards => hnot ?_
    exact ⟨project, _, _, hproject, rfl, by simp [hedit], hdiscards⟩

/-- Something holds at every step of a merge. -/
def AllSteps
    (l : Layout)
    (holds : List Char → Entry → Prop) :
    List Char → List Entry → Prop
  | _, [] => True
  | doc, e :: rest =>
      holds doc e ∧ ∀ next, mergeOne l doc e = some next → AllSteps l holds next rest

theorem allSteps_congr
    {l : Layout}
    {p q : List Char → Entry → Prop}
    (h : ∀ doc e, p doc e ↔ q doc e) :
    ∀ (es : List Entry) (doc : List Char), AllSteps l p doc es ↔ AllSteps l q doc es
  | [], _ => Iff.rfl
  | e :: rest, doc =>
      and_congr (h doc e) (forall_congr' fun next => imp_congr_right fun _ =>
        allSteps_congr h rest next)

/-- One step that keeps what it replaces extends the document. -/
theorem extended_mergeOne
    {l : Layout}
    {doc next s : List Char}
    {e : Entry}
    (hs : Extended s doc)
    (hkeeps : StepKeeps l doc e)
    (h : mergeOne l doc e = some next) :
    Extended s next := by
  rw [mergeOne, Option.map_eq_some_iff] at h
  obtain ⟨project, hproject, hnext⟩ := h
  cases hedit : editFor l doc project e with
  | none =>
      rw [hedit] at hnext
      exact hnext ▸ hs
  | some edit =>
      rw [hedit] at hnext
      exact hnext ▸ hs.splice (hkeeps project edit hproject hedit)

/-- Steps that all keep what they replace extend the document. -/
theorem extended_mergeAll
    {l : Layout}
    {s out : List Char} :
    ∀ (es : List Entry) (doc : List Char), Extended s doc → AllSteps l (StepKeeps l) doc es →
      mergeAll l doc es = some out → Extended s out
  | [], doc, hs, _, h => by
      cases h
      exact hs
  | e :: rest, doc, hs, hkeeps, h => by
      rw [mergeAll, Option.bind_eq_some_iff] at h
      obtain ⟨next, hnext, hrest⟩ := h
      exact extended_mergeAll rest next (extended_mergeOne hs hkeeps.1 hnext)
        (hkeeps.2 next hnext) hrest

end Pom
end Runbook
