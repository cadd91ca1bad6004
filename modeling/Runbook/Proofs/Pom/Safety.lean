import Mathlib.Data.List.ReduceOption
import Runbook.Proofs.Markup.Ranges
import Runbook.Proofs.Pom.Acceptance

/-!
# Merging without faults

A merge takes differences of widths, divides them, and replaces ranges of a text that changes under it.
Here each of these operations is checked: a difference must not fall below zero, a divisor must not be
zero, and a range must run forwards between two positions of the text as it stands. With all checks made
a merge comes to its end, and gives what it gives without them, for every text and all entries.

Main statement: `Checked.merge_eq_ok`.
-/

namespace Runbook
namespace Pom

open Text Markup

/-- What an operation on numbers or on a text cannot do. -/
inductive Fault where
  | belowZero (a b : Nat)
  | byZero (a : Nat)
  | outside (range : Span)
  deriving DecidableEq, Repr

namespace Checked

/-! ## Checked operations -/

/-- A difference that does not fall below zero. -/
def difference (a b : Nat) : Except Fault Nat :=
  if b ≤ a then .ok (a - b) else .error (.belowZero a b)

/-- A quotient by a number other than zero. -/
def quotient (a b : Nat) : Except Fault Nat :=
  if b = 0 then .error (.byZero a) else .ok (a / b)

/-- The document after an edit whose range runs forwards between two positions of the text. -/
def apply
    (e : Edit)
    (doc : List Char) :
    Except Fault (List Char) :=
  match splitAt? e.span.start doc, splitAt? e.span.stop doc with
  | some (before, _), some (_, after) =>
      if e.span.start ≤ e.span.stop then .ok (before ++ e.text ++ after)
      else .error (.outside e.span)
  | _, _ => .error (.outside e.span)

/-! ## A merge with all checks -/

/-- The width of a line less that of the line without the blanks in front. -/
def width (line : List Char) : Except Fault Nat :=
  difference (byteSize line) (byteSize (trimLeft line))

/-- The steps of the lines after the first. -/
def stepsOf
    (lines : List (List Char)) :
    Except Fault Layout.Steps := do
  let widths ← ((lines.drop 1).filter fun l => !allBlank l).mapM width
  let base := widths.min?.getD 0
  let beyond ← widths.mapM fun w => difference w base
  return ⟨base, (beyond.filter (0 < ·)).min?.getD 1⟩

/-- The level of a line. -/
def level
    (s : Layout.Steps)
    (line : List Char) :
    Except Fault Nat := do
  let w ← width line
  let beyond ← difference w s.base
  quotient beyond s.step

/-- A line at its level; the level of a blank line is not asked for. -/
def place
    (l : Layout)
    (indent : List Char)
    (level : Except Fault Nat)
    (line : List Char) :
    Except Fault (Option (List Char)) :=
  if allBlank line then
    return none
  else do
    let n ← level
    return some (indent ++ Layout.repeated n l.unit ++ trim line)

/-- The lines of an entry brought to an indentation. -/
def reindent
    (l : Layout)
    (indent : List Char) :
    List (List Char) → Except Fault (List Char)
  | [] => return joinWith l.newline []
  | first :: rest => do
      let steps ← stepsOf (first :: rest)
      let head ← place l indent (.ok 0) first
      let others ← rest.mapM fun line => place l indent (level steps line) line
      return joinWith l.newline (head.toList ++ others.reduceOption)

/-- An entry brought to an indentation. -/
def renderEntry
    (l : Layout)
    (entry indent : List Char) :
    Except Fault (List Char) :=
  let rows := lines entry
  match if rows.length = 1 then l.expandLine? entry indent else none with
  | some expanded => return expanded
  | none => reindent l indent rows

/-- An entry inside sections that do not exist yet. -/
def renderChain
    (l : Layout)
    (entry : List Char) :
    List String → List Char → Except Fault (List Char)
  | [], indent => renderEntry l entry indent
  | name :: rest, indent => do
      let inner ← renderChain l entry rest (indent ++ l.unit)
      return indent ++ '<' :: name.toList ++ ['>'] ++ l.newline ++ inner ++ l.newline ++
        indent ++ '<' :: '/' :: name.toList ++ ['>']

/-- What merging an entry into a project does. -/
def editFor
    (l : Layout)
    (doc : List Char)
    (project : Element)
    (entry : Entry) :
    Except Fault (Option Edit) :=
  match descend doc project entry.kind.sectionPath with
  | (parent, name :: rest) => do
      let block ← renderChain l entry.xml.toList (name :: rest) (l.childIndent doc parent)
      return some (sectionEdit l doc parent name block)
  | (parent, []) =>
      if sectionHas doc parent entry then
        return none
      else do
        let text ← renderEntry l entry.xml.toList (l.childIndent doc parent)
        return some (entryEdit l doc parent text)

/-- The document with an entry merged into it. -/
def mergeOne
    (l : Layout)
    (doc : List Char)
    (entry : Entry) :
    Except Fault (Option (List Char)) :=
  match project? doc with
  | none => return none
  | some project => do
      match ← editFor l doc project entry with
      | some e => return some (← apply e doc)
      | none => return some doc

/-- The document with entries merged into it one after another. -/
def mergeAll
    (l : Layout) :
    List Char → List Entry → Except Fault (Option (List Char))
  | doc, [] => return some doc
  | doc, e :: rest => do
      match ← mergeOne l doc e with
      | some next => mergeAll l next rest
      | none => return none

/-- The document with entries merged into it. -/
def merge
    (doc : List Char)
    (entries : List Entry) :
    Except Fault (Option (List Char)) :=
  match project? doc with
  | none => return none
  | some project => mergeAll (Layout.detect doc project) doc entries

/-! ## Widths -/

theorem ok_bind
    {α β : Type}
    (a : α)
    (f : α → Except Fault β) :
    ((.ok a : Except Fault α) >>= f) = f a := by
  rfl

theorem difference_of_le
    {a b : Nat}
    (h : b ≤ a) :
    difference a b = .ok (a - b) :=
  if_pos h

theorem quotient_of_pos
    {a b : Nat}
    (h : 0 < b) :
    quotient a b = .ok (a / b) :=
  if_neg (Nat.ne_of_gt h)

/-- Checks that all succeed along a list. -/
theorem mapM_eq_ok
    {α β : Type}
    {f : α → Except Fault β}
    {g : α → β} :
    ∀ {items : List α}, (∀ a ∈ items, f a = .ok (g a)) → items.mapM f = .ok (items.map g)
  | [], _ => rfl
  | a :: rest, h => by
      rw [List.mapM_cons, h a List.mem_cons_self, ok_bind,
        mapM_eq_ok fun b hb => h b (List.mem_cons_of_mem _ hb)]
      rfl

theorem width_eq_ok
    (line : List Char) :
    width line = .ok (Layout.blankWidth line) := by
  have hline : byteSize line = Layout.blankWidth line + byteSize (trimLeft line) := by
    rw [Layout.blankWidth, trimLeft, ← byteSize_append, List.takeWhile_append_dropWhile]
  rw [width, difference_of_le (hline ▸ Nat.le_add_left _ _), hline, Nat.add_sub_cancel]

/-- The widths that the steps are counted by. -/
def widths (lines : List (List Char)) : List Nat :=
  ((lines.drop 1).filter fun l => !allBlank l).map Layout.blankWidth

theorem base_le_of_mem_widths
    {lines : List (List Char)}
    {w : Nat}
    (h : w ∈ widths lines) :
    (Layout.stepsOf lines).base ≤ w := by
  have hbase : (Layout.stepsOf lines).base = (widths lines).min?.getD 0 := rfl
  rw [hbase]
  cases hmin : (widths lines).min? with
  | none => exact Nat.zero_le w
  | some m => exact (List.min?_eq_some_iff.mp hmin).2 w h

theorem step_pos
    (lines : List (List Char)) :
    0 < (Layout.stepsOf lines).step := by
  have hstep : (Layout.stepsOf lines).step =
      (((widths lines).map (· - (Layout.stepsOf lines).base)).filter (0 < ·)).min?.getD 1 := rfl
  rw [hstep]
  cases hmin : (((widths lines).map (· - (Layout.stepsOf lines).base)).filter (0 < ·)).min? with
  | none => exact Nat.one_pos
  | some m =>
      have hmem := (List.min?_eq_some_iff.mp hmin).1
      simpa using List.of_mem_filter hmem

theorem stepsOf_eq_ok
    (lines : List (List Char)) :
    stepsOf lines = .ok (Layout.stepsOf lines) := by
  have hwidths : ((lines.drop 1).filter fun l => !allBlank l).mapM width = .ok (widths lines) :=
    mapM_eq_ok fun line _ => width_eq_ok line
  have hbeyond : ((widths lines).mapM fun w => difference w ((widths lines).min?.getD 0)) =
      .ok ((widths lines).map (· - (widths lines).min?.getD 0)) :=
    mapM_eq_ok fun w hw => difference_of_le (base_le_of_mem_widths hw)
  rw [stepsOf, hwidths, ok_bind]
  dsimp only
  rw [hbeyond]
  rfl

/-- A line after the first that is not blank has a level. -/
theorem level_eq_ok
    (first : List Char)
    {line : List Char}
    {rest : List (List Char)}
    (hline : line ∈ rest)
    (hblank : allBlank line = false) :
    level (Layout.stepsOf (first :: rest)) line =
      .ok ((Layout.stepsOf (first :: rest)).level line) := by
  have hmem : Layout.blankWidth line ∈ widths (first :: rest) :=
    List.mem_map_of_mem (List.mem_filter.mpr ⟨hline, by simp [hblank]⟩)
  rw [level, width_eq_ok, ok_bind, difference_of_le (base_le_of_mem_widths hmem), ok_bind,
    quotient_of_pos (step_pos _), Layout.Steps.level]

/-! ## Rendering -/

variable (l : Layout)

theorem place_eq_ok
    (indent : List Char)
    {level : Except Fault Nat}
    (n : Nat)
    {line : List Char}
    (h : allBlank line = false → level = .ok n) :
    place l indent level line =
      .ok (if allBlank line then none
        else some (indent ++ Layout.repeated n l.unit ++ trim line)) := by
  rw [place]
  cases hblank : allBlank line with
  | true => rfl
  | false =>
      rw [h hblank]
      rfl

theorem reindent_eq_ok
    (indent : List Char)
    (lines : List (List Char)) :
    reindent l indent lines = .ok (l.reindent lines indent) := by
  cases lines with
  | nil => rfl
  | cons first rest =>
      have hothers := mapM_eq_ok fun line (hline : line ∈ rest) =>
        place_eq_ok l indent _ fun hblank => level_eq_ok first hline hblank
      rw [reindent, stepsOf_eq_ok, ok_bind, place_eq_ok l indent 0 fun _ => rfl, ok_bind, hothers,
        ok_bind, List.reduceOption, List.filterMap_map]
      rfl

theorem renderEntry_eq_ok
    (entry indent : List Char) :
    renderEntry l entry indent = .ok (l.renderEntry entry indent) := by
  rw [renderEntry, Layout.renderEntry]
  split
  · rename_i expanded hexpanded
    rw [hexpanded]
    rfl
  · rename_i hnone
    rw [hnone, reindent_eq_ok]
    rfl

theorem renderChain_eq_ok
    (entry : List Char) :
    ∀ (names : List String) (indent : List Char),
      renderChain l entry names indent = .ok (l.renderChain entry names indent)
  | [], indent => renderEntry_eq_ok l entry indent
  | name :: rest, indent => by
      rw [renderChain, renderChain_eq_ok entry rest, ok_bind]
      rfl

/-! ## Edits -/

section Edits

variable {doc : List Char}
variable {e : Element}

theorem forward_sectionEdit
    (he : e.Ordered)
    (name : String)
    (block : List Char) :
    (sectionEdit l doc e name block).span.start ≤ (sectionEdit l doc e name block).span.stop := by
  have houter : e.outer.start ≤ e.outer.stop := (he.opens.trans he.content).trans he.closes
  simp only [sectionEdit]
  split
  · exact houter
  · split
    · exact he.content
    · exact Nat.le_refl _

theorem forward_entryEdit
    (he : e.Ordered)
    (entry : List Char) :
    (entryEdit l doc e entry).span.start ≤ (entryEdit l doc e entry).span.stop := by
  have houter : e.outer.start ≤ e.outer.stop := (he.opens.trans he.content).trans he.closes
  simp only [entryEdit]
  split
  · exact houter
  · split
    · exact Nat.le_refl _
    · exact Nat.le_refl _

/-- The range that an edit replaces runs forwards. -/
theorem forward_placement
    (he : Found doc e)
    (entry : Entry) :
    (placement l doc e entry).span.start ≤ (placement l doc e entry).span.stop := by
  obtain ⟨range, hparent⟩ := found_descend entry.kind.sectionPath he
  have hordered := ordered_of_mem_elementsIn hparent
  rw [placement]
  rcases hend : descend doc e entry.kind.sectionPath with ⟨parent, _ | ⟨name, rest⟩⟩
  · rw [hend] at hordered
    exact forward_entryEdit l hordered _
  · rw [hend] at hordered
    exact forward_sectionEdit l hordered _ _

theorem editFor_eq_ok
    (doc : List Char)
    (project : Element)
    (entry : Entry) :
    editFor l doc project entry = .ok (Pom.editFor l doc project entry) := by
  rw [editFor, Pom.editFor]
  rcases descend doc project entry.kind.sectionPath with ⟨parent, _ | ⟨name, rest⟩⟩
  · simp only [renderEntry_eq_ok, ok_bind]
    split <;> rfl
  · simp only [renderChain_eq_ok, ok_bind]
    rfl

theorem exists_splitAt?_of_clean
    {position : Nat}
    (h : Clean doc position) :
    ∃ u v, splitAt? position doc = some (u, v) := by
  obtain ⟨u, v, rfl, rfl, -⟩ := h
  exact ⟨u, v, splitAt?_append u v⟩

/-- An edit between clean positions succeeds when it runs forwards. -/
theorem apply_eq_ok
    {x : Edit}
    (hclean : x.IsClean doc)
    (hle : x.span.start ≤ x.span.stop) :
    apply x doc = .ok (x.apply doc) := by
  obtain ⟨u, v, hstart⟩ := exists_splitAt?_of_clean hclean.1
  obtain ⟨u', v', hstop⟩ := exists_splitAt?_of_clean hclean.2
  simp only [apply, Edit.apply, splice, hstart, hstop, if_pos hle]

/-- What is planned for a text as it stands can be done to it. -/
theorem apply_editFor_eq_ok
    {entry : Entry}
    {x : Edit}
    (he : project? doc = some e)
    (hx : Pom.editFor l doc e entry = some x) :
    apply x doc = .ok (x.apply doc) := by
  have hfound := found_project? he
  rw [editFor_eq] at hx
  split at hx
  · cases hx
  · cases hx
    exact apply_eq_ok (isClean_placement l hfound.fits entry) (forward_placement l hfound entry)

end Edits

/-! ## Merging -/

theorem mergeOne_eq_ok
    (doc : List Char)
    (entry : Entry) :
    mergeOne l doc entry = .ok (Pom.mergeOne l doc entry) := by
  rw [mergeOne, Pom.mergeOne]
  cases hproject : project? doc with
  | none => rfl
  | some project =>
      simp only [editFor_eq_ok, ok_bind, Option.map_some]
      cases hedit : Pom.editFor l doc project entry with
      | none => rfl
      | some x =>
          dsimp only
          rw [apply_editFor_eq_ok l hproject hedit]
          rfl

theorem mergeAll_eq_ok :
    ∀ (entries : List Entry) (doc : List Char),
      mergeAll l doc entries = .ok (Pom.mergeAll l doc entries)
  | [], _ => rfl
  | e :: rest, doc => by
      rw [mergeAll, mergeOne_eq_ok, ok_bind, Pom.mergeAll]
      cases Pom.mergeOne l doc e with
      | none => rfl
      | some next => exact mergeAll_eq_ok rest next

/-- A merge of any entries into any text passes all checks: it does what it does without them. -/
theorem merge_eq_ok
    (doc : List Char)
    (entries : List Entry) :
    merge doc entries = .ok (Pom.merge doc entries) := by
  rw [merge, Pom.merge]
  cases project? doc with
  | none => rfl
  | some project => exact mergeAll_eq_ok _ entries doc

end Checked

end Pom
end Runbook
