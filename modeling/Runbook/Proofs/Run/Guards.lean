import Runbook.Proofs.Files.Growth
import Runbook.Proofs.Text.Breaks
import Runbook.Proofs.Text.Lines
import Runbook.Run.Actions

/-!
# Texts by which an injection is skipped

A text is put into a file where a line begins or at the end of the file. So a text of one line that
stands in the file stands there afterwards, and the new text stands there as well. On the disk such a
text stays where a path leads when other files are made, when another file is replaced, and when this one
gets a text put in.

Main statements: `exists_cutAt_of_insert`, `occursIn_insert`, `Shows.replace` and `Shows.replace_apart`.
-/

namespace Runbook

open Text

/-! ## Putting a text in -/

/-- A text without a character is on one side of it. -/
theorem infix_append_cons
    {needle u v : List Char}
    {c : Char}
    (hc : c ∉ needle)
    (h : needle <:+: u ++ c :: v) :
    needle <:+: u ∨ needle <:+: v := by
  obtain ⟨front, back, hparts⟩ := h
  rcases List.append_eq_append_iff.mp hparts with ⟨rest, hu, -⟩ | ⟨rest, hfront, hv⟩
  · exact Or.inl ⟨front, rest, hu.symm⟩
  · rcases List.append_eq_append_iff.mp hfront with ⟨rest', hu, hneedle⟩ | ⟨rest', hu, hrest⟩
    · cases rest with
      | nil => exact Or.inl ⟨front, [], by simpa using hfront⟩
      | cons d rest =>
          obtain ⟨rfl, -⟩ := List.cons_eq_cons.mp hv
          have hmem : c ∈ needle := by
            rw [hneedle]
            exact List.mem_append_right _ List.mem_cons_self
          exact absurd hmem hc
    · cases rest' with
      | nil =>
          cases rest with
          | nil => exact Or.inl ⟨front, [], by simpa using hfront⟩
          | cons d rest =>
              obtain ⟨rfl, -⟩ := List.cons_eq_cons.mp hv
              have hmem : c ∈ needle := by
                rw [← List.nil_append needle, ← hrest]
                exact List.mem_cons_self
              exact absurd hmem hc
      | cons d rest' =>
          rw [hrest] at hv
          obtain ⟨rfl, rfl⟩ := List.cons_eq_cons.mp hv
          exact Or.inr ⟨rest', back, by simp⟩

namespace Inject

/-- What a text lacks to be made of complete lines. -/
def gap (s : List Char) : List Char :=
  if s = [] ∨ s.getLast? = some '\n' then [] else ['\n']

theorem exists_completed (s : List Char) :
    ∃ rest, completed s = s ++ rest := by
  unfold completed
  split
  · exact ⟨[], (List.append_nil s).symm⟩
  · exact ⟨['\n'], rfl⟩

theorem completed_ne_nil (s : List Char) :
    completed s ≠ [] := by
  unfold completed
  split
  · rename_i hlast
    rintro rfl
    cases hlast
  · simp

theorem completed_eq
    {s : List Char}
    (hs : s ≠ []) :
    completed s = s ++ gap s := by
  by_cases hlast : s.getLast? = some '\n'
  · simp [completed, gap, hlast]
  · simp [completed, gap, hlast, hs]

/-- Lines before a last one do not matter for what is lacking. -/
theorem gap_append
    {line : List Char}
    (hline : line ≠ [])
    (front : List Char) :
    gap (front ++ line) = gap line := by
  cases hlast : line.getLast? with
  | none => exact absurd (List.getLast?_eq_none_iff.mp hlast) hline
  | some c => simp [gap, hline, List.getLast?_append, hlast]

theorem besideMarker_eq_none_iff
    {marker block : List Char}
    {isAfter : Bool}
    {lines : List (List Char)} :
    besideMarker marker block isAfter lines = none ↔
      ∀ line ∈ lines, ¬ marker <:+: line := by
  induction lines with
  | nil => simp [besideMarker]
  | cons line rest ih =>
      rw [besideMarker, List.forall_mem_cons, ← occursIn_iff]
      split
      · rename_i hhere
        simp only [hhere, not_true_eq_false, false_and, iff_false]
        cases isAfter <;> simp
      · rename_i hnot
        simp [hnot, ih]

/-- A block beside a line stands before it or behind it, and the line is the first one with the
marker. -/
theorem exists_line_of_besideMarker
    {marker block out : List Char}
    {isAfter : Bool}
    {lines : List (List Char)}
    (h : besideMarker marker block isAfter lines = some out) :
    ∃ front line rest, lines = front ++ line :: rest ∧
      (∀ other ∈ front, ¬ marker <:+: other) ∧ marker <:+: line ∧
      out = front.flatten ++
        (if isAfter then completed line ++ block else block ++ line) ++ rest.flatten := by
  induction lines generalizing out with
  | nil => cases h
  | cons line rest ih =>
      rw [besideMarker] at h
      split at h
      · rename_i hhere
        refine ⟨[], line, rest, rfl, by simp, occursIn_iff.mp hhere, ?_⟩
        cases isAfter <;> simpa [eq_comm] using h
      · rename_i hnot
        obtain ⟨out', hout', rfl⟩ := Option.map_eq_some_iff.mp h
        obtain ⟨front, line', rest', rfl, hfirst, hhere, rfl⟩ := ih hout'
        refine ⟨line :: front, line', rest', rfl, ?_, hhere, by simp⟩
        exact List.forall_mem_cons.mpr ⟨fun hinfix => hnot (occursIn_iff.mpr hinfix), hfirst⟩

/-- Where a text is cut to put something in: at its end, before the first line with the marker of the
anchor, or behind that line. -/
inductive CutAt (content : List Char) : Option Anchor → List Char → List Char → Prop
  | atEnd : CutAt content none content []
  | before {marker : String} {front rest : List (List Char)} {line : List Char}
      (lines : lineSegments content = front ++ line :: rest)
      (first : ∀ other ∈ front, ¬ marker.toList <:+: other)
      (here : marker.toList <:+: line) :
      CutAt content (some (.before marker)) front.flatten (line ++ rest.flatten)
  | after {marker : String} {front rest : List (List Char)} {line : List Char}
      (lines : lineSegments content = front ++ line :: rest)
      (first : ∀ other ∈ front, ¬ marker.toList <:+: other)
      (here : marker.toList <:+: line) :
      CutAt content (some (.after marker)) (front.flatten ++ line) rest.flatten

namespace CutAt

variable {content u v : List Char}
variable {anchor : Option Anchor}

theorem append_eq
    (h : CutAt content anchor u v) :
    content = u ++ v := by
  cases h with
  | atEnd => exact (List.append_nil content).symm
  | before lines first here =>
      rw [← lineSegments_flatten content, lines]
      simp
  | after lines first here =>
      rw [← lineSegments_flatten content, lines]
      simp

/-- No line is cut apart. -/
theorem between
    (h : CutAt content anchor u v) :
    u = [] ∨ u.getLast? = some '\n' ∨ v = [] := by
  cases h with
  | atEnd => exact Or.inr (Or.inr rfl)
  | before lines first here =>
      rcases flatten_of_lineSegments_eq lines with hnil | hfeed
      · exact Or.inl hnil
      · exact Or.inr (Or.inl hfeed)
  | @after marker front rest line lines first here =>
      rw [List.append_cons] at lines
      rcases rest with _ | ⟨next, rest⟩
      · exact Or.inr (Or.inr rfl)
      · rcases flatten_of_lineSegments_eq lines with hnil | hfeed
        · exact Or.inl (by simpa using hnil)
        · exact Or.inr (Or.inl (by simpa using hfeed))

end CutAt

/-- A text is put in where the anchor tells, behind a complete line. -/
theorem exists_cutAt_of_insert
    {content text updated : List Char}
    {anchor : Option Anchor}
    (h : insert content text anchor = some updated) :
    ∃ u v, CutAt content anchor u v ∧ updated = u ++ gap u ++ completed text ++ v := by
  unfold insert at h
  dsimp only at h
  split at h
  · cases h
    refine ⟨content, [], .atEnd, ?_⟩
    by_cases hcontent : content = []
    · simp [hcontent, gap]
    · simp [hcontent, completed_eq hcontent]
  · obtain ⟨front, line, rest, hlines, hfirst, hhere, rfl⟩ := exists_line_of_besideMarker h
    have hline : line ≠ [] := ne_nil_of_mem_lineSegments (s := content) (by simp [hlines])
    exact ⟨_, _, .after hlines hfirst hhere, by simp [completed_eq hline, gap_append hline]⟩
  · obtain ⟨front, line, rest, hlines, hfirst, hhere, rfl⟩ := exists_line_of_besideMarker h
    have hgap : gap front.flatten = [] := if_pos (flatten_of_lineSegments_eq hlines)
    exact ⟨_, _, .before hlines hfirst hhere, by simp [hgap]⟩

/-- A text is put in where a line begins, or at the end. -/
theorem exists_of_insert
    {content text updated : List Char}
    {anchor : Option Anchor}
    (h : insert content text anchor = some updated) :
    ∃ u rest v, content = u ++ v ∧ updated = u ++ rest ++ completed text ++ v ∧
      (u = [] ∨ u.getLast? = some '\n' ∨ v = []) := by
  obtain ⟨u, v, hcut, rfl⟩ := exists_cutAt_of_insert h
  exact ⟨u, gap u, v, hcut.append_eq, rfl, hcut.between⟩

/-- A text of one line that stands in a file stands there after another text has been put in. -/
theorem occursIn_insert
    {content text updated needle : List Char}
    {anchor : Option Anchor}
    (h : insert content text anchor = some updated)
    (hline : '\n' ∉ needle)
    (hneedle : occursIn needle content = true) :
    occursIn needle updated = true := by
  obtain ⟨u, gap, v, rfl, rfl, hplace⟩ := exists_of_insert h
  rw [occursIn_iff] at hneedle ⊢
  have hsides : needle <:+: u ∨ needle <:+: v := by
    rcases hplace with rfl | hfeed | rfl
    · exact Or.inr (by simpa using hneedle)
    · obtain ⟨u', rfl⟩ := List.getLast?_eq_some_iff.mp hfeed
      rw [List.append_assoc, List.singleton_append] at hneedle
      exact (infix_append_cons hline hneedle).imp_left
        fun hu => hu.trans (List.prefix_append u' ['\n']).isInfix
    · exact Or.inl (by simpa using hneedle)
  rcases hsides with hu | hv
  · rw [List.append_assoc, List.append_assoc]
    exact hu.trans (List.prefix_append u _).isInfix
  · exact hv.trans (List.suffix_append _ v).isInfix

/-- What has been put into a file stands there, the blanks at its end aside. -/
theorem occursIn_insert_self
    {content text updated : List Char}
    {anchor : Option Anchor}
    (h : insert content text anchor = some updated) :
    occursIn (trimRight text) updated = true := by
  obtain ⟨u, gap, v, -, rfl, -⟩ := exists_of_insert h
  obtain ⟨gap', hgap⟩ := exists_completed text
  obtain ⟨w, hw, -⟩ := exists_trimRight text
  rw [occursIn_iff, hgap]
  refine ⟨u ++ gap, w ++ gap' ++ v, ?_⟩
  conv_rhs => rw [hw]
  simp

end Inject

/-! ## Texts in files -/

namespace Disk

/-- The file that a path leads to holds a text. -/
def Shows
    (d : Disk)
    (path : String)
    (guard : List Char) :
    Prop :=
  ∃ place text traits, d.locate path = .ok (.found place (.file (.text text) traits)) ∧
    occursIn guard text.toList = true

/-- Two paths lead to one place. -/
def Meets
    (d : Disk)
    (path other : String) :
    Prop :=
  ∃ place t, d.locate path = .ok (.found place t) ∧ d.locate other = .ok (.found place t)

theorem Meets.symm
    {d : Disk}
    {path other : String}
    (h : Meets d path other) :
    Meets d other path := by
  obtain ⟨place, t, hpath, hother⟩ := h
  exact ⟨place, t, hother, hpath⟩

section Changes

variable {d d' : Disk}
variable {path other edited : String}
variable {guard : List Char}

theorem Shows.extends
    (h : Shows d path guard)
    (hd : Extends d d') :
    Shows d' path guard := by
  obtain ⟨place, text, traits, hlocate, hguard⟩ := h
  exact ⟨place, text, traits, hd.locate_file hlocate, hguard⟩

/-- A text stays where it stands when a file is replaced in which it stays. -/
theorem Shows.replace
    {old new : String}
    (h : Shows d path guard)
    (hread : d.readText edited = .ok old)
    (hreplace : d.replace edited (.text new) = (d', .ok ()))
    (hkept : occursIn guard old.toList = true → occursIn guard new.toList = true) :
    Shows d' path guard := by
  obtain ⟨place, text, traits, hlocate, hguard⟩ := h
  obtain ⟨entry, -, hpaths⟩ := exists_entry_of_replace hread hreplace
  rcases hpaths path place _ hlocate with ⟨-, t', ht', rfl | ⟨hdirectory, -⟩⟩ | ⟨hedited, hnew⟩
  · exact ⟨place, text, traits, ht', hguard⟩
  · cases hdirectory
  · have hold := readText_of_locate hedited
    rw [hread] at hold
    cases hold
    exact ⟨entry, new, .secluded, hnew, hkept hguard⟩

end Changes

end Disk

end Runbook
