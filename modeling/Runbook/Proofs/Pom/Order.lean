import Mathlib.Tactic
import Mathlib.Data.List.Basic
import Runbook.Pom.Merge

/-!
# The order of siblings

The children of a project and of its `build` have an order of their own. Names are in order when those
that have a place in it stand as it has them, whatever stands between them. A section that is created
goes behind the last sibling that comes before it in the order, so names in order stay in order.

Main statements: `InOrder.insert` and `exists_sectionPosition_split`.
-/

namespace Runbook
namespace Pom

open Markup

/-- Names stand in an order: those that have a place in it do, and others may stand anywhere. -/
def InOrder (order names : List String) : Prop :=
  (names.filter fun n => n ∈ order).Pairwise fun a b => order.idxOf a ≤ order.idxOf b

/-- One name comes before another in an order. -/
def Precedes (order : List String) (a b : String) : Prop :=
  a ∈ order ∧ b ∈ order ∧ order.idxOf a < order.idxOf b

/-- A place for a name among others: right behind a name that comes before it, or in front, and with no
such name after it. A name without a place in the order may stand anywhere else. -/
structure Placed
    (order : List String)
    (name : String)
    (before after : List String) : Prop where
  behind : name ∈ order → ∀ a, before.getLast? = some a → Precedes order a name
  ahead : ∀ b ∈ after, ¬ Precedes order b name

theorem inOrder_of_length_le_one
    {order names : List String}
    (h : names.length ≤ 1) :
    InOrder order names := by
  match names, h with
  | [], _ => exact List.Pairwise.nil
  | [a], _ => exact (List.pairwise_singleton _ a).sublist List.filter_sublist

/-- Names in order stay in order when a name is put among them at its place. -/
theorem InOrder.insert
    {order before after : List String}
    {name : String}
    (h : InOrder order (before ++ after))
    (placed : Placed order name before after) :
    InOrder order (before ++ name :: after) := by
  rw [InOrder, List.filter_append] at h ⊢
  by_cases hname : name ∈ order
  · rw [List.filter_cons_of_pos (by simpa using hname)]
    rw [List.pairwise_append] at h ⊢
    obtain ⟨hbefore, hafter, hacross⟩ := h
    have hlate : ∀ b ∈ after.filter fun n => n ∈ order, order.idxOf name ≤ order.idxOf b := by
      intro b hb
      obtain ⟨hb, hplace⟩ := List.mem_filter.mp hb
      exact Nat.le_of_not_lt fun hlt =>
        placed.ahead b hb ⟨by simpa using hplace, hname, hlt⟩
    have hearly : ∀ a ∈ before.filter fun n => n ∈ order, order.idxOf a ≤ order.idxOf name := by
      intro a ha
      rcases List.eq_nil_or_concat before with rfl | ⟨front, last, rfl⟩
      · simp at ha
      · -- All before it stand no later than the last of them, which comes before the name.
        rw [List.concat_eq_append] at placed hbefore ha
        obtain ⟨hlast, -, hlt⟩ := placed.behind hname last (by simp)
        rw [List.filter_append, List.filter_cons_of_pos (by simpa using hlast), List.filter_nil,
          List.pairwise_append] at hbefore
        rw [List.filter_append, List.filter_cons_of_pos (by simpa using hlast), List.filter_nil,
          List.mem_append, List.mem_singleton] at ha
        rcases ha with ha | rfl
        · exact (hbefore.2.2 a ha last (by simp)).trans hlt.le
        · exact hlt.le
    refine ⟨hbefore, List.pairwise_cons.mpr ⟨hlate, hafter⟩, fun a ha b hb => ?_⟩
    rcases List.mem_cons.mp hb with rfl | hb
    · exact hearly a ha
    · exact hacross a ha b hb
  · rwa [List.filter_cons_of_neg (by simpa using hname)]

/-! ## The position of a new section -/

/-- The last member of a list that has a property. -/
theorem exists_of_getLast?_filter
    {α : Type}
    {p : α → Bool}
    {l : List α}
    {a : α}
    (h : (l.filter p).getLast? = some a) :
    ∃ front back, l = front ++ [a] ++ back ∧ p a = true ∧ ∀ b ∈ back, ¬ p b = true := by
  obtain ⟨kept, hkept⟩ := List.getLast?_eq_some_iff.mp h
  obtain ⟨front, rest, rfl, -, hrest⟩ := List.filter_eq_append_iff.mp hkept
  obtain ⟨skipped, back, rfl, -, ha, hback⟩ := List.filter_eq_cons_iff.mp hrest
  exact ⟨front ++ skipped, back, by simp, ha, List.filter_eq_nil_iff.mp hback⟩

/-- Where a name stands in an order. -/
theorem findIdx?_eq_some_iff_idxOf
    {order : List String}
    {name : String}
    {r : Nat} :
    order.findIdx? (fun o => o = name) = some r ↔ name ∈ order ∧ order.idxOf name = r := by
  have hidx : order.findIdx (fun o => decide (o = name)) = order.idxOf name := by
    simp only [List.idxOf, beq_eq_decide]
  rw [List.findIdx?_eq_some_iff_findIdx_eq, hidx, ← List.idxOf_lt_length_iff]
  refine and_congr_left fun h => ?_
  rw [h]

theorem findIdx?_eq_none_iff_not_mem
    {order : List String}
    {name : String} :
    order.findIdx? (fun o => o = name) = none ↔ name ∉ order := by
  simp only [List.findIdx?_eq_none_iff, decide_eq_false_iff_not]
  exact ⟨fun h hmem => h name hmem rfl, fun h o ho heq => h (heq ▸ ho)⟩

/-- One name comes before another exactly when both have a place and its place is the earlier one. -/
theorem precedes_iff_exists_places
    {order : List String}
    {a b : String} :
    Precedes order a b ↔
      ∃ r t, order.findIdx? (fun o => o = a) = some r ∧
        order.findIdx? (fun o => o = b) = some t ∧ r < t := by
  simp only [findIdx?_eq_some_iff_idxOf]
  constructor
  · rintro ⟨ha, hb, hlt⟩
    exact ⟨_, _, ⟨ha, rfl⟩, ⟨hb, rfl⟩, hlt⟩
  · rintro ⟨r, t, ⟨ha, rfl⟩, ⟨hb, rfl⟩, hlt⟩
    exact ⟨ha, hb, hlt⟩

/-- A new section goes to the front of its parent or behind one of its children, and there it has its
place among them. -/
theorem exists_sectionPosition_split
    (parent : Element)
    (children : List Element)
    (name : String) :
    ∃ before after, children = before ++ after ∧
      sectionPosition parent children name =
        (before.getLast?.map fun c => c.outer.stop).getD parent.inner.start ∧
      Placed (childOrder parent.name) name (before.map Element.name) (after.map Element.name) := by
  generalize horder : childOrder parent.name = order
  simp only [sectionPosition, horder]
  split
  · rename_i anchor hanchor
    obtain ⟨front, back, rfl, hbefore, hback⟩ := exists_of_getLast?_filter hanchor
    refine ⟨front ++ [anchor], back, rfl, by simp, ?_, ?_⟩
    · intro _ a ha
      obtain rfl : anchor.name = a := by simpa using ha
      split at hbefore
      · rename_i r t hr ht
        exact precedes_iff_exists_places.mpr ⟨r, t, hr, ht, by simpa using hbefore⟩
      · cases hbefore
    · intro b hb h
      obtain ⟨c, hc, rfl⟩ := List.mem_map.mp hb
      obtain ⟨r, t, hr, ht, hlt⟩ := precedes_iff_exists_places.mp h
      exact hback c hc (by simp [hr, ht, hlt])
  · rename_i hnone _
    refine ⟨[], children, rfl, rfl, by simp, ?_⟩
    intro b hb h
    obtain ⟨c, hc, rfl⟩ := List.mem_map.mp hb
    obtain ⟨r, t, hr, ht, hlt⟩ := precedes_iff_exists_places.mp h
    rw [List.getLast?_eq_none_iff, List.filter_eq_nil_iff] at hnone
    exact hnone c hc (by simp [hr, ht, hlt])
  · rename_i _ hrank
    refine ⟨children, [], by simp, ?_, ?_, by simp⟩
    · cases children.getLast? <;> rfl
    · exact fun hmem => absurd hmem (findIdx?_eq_none_iff_not_mem.mp hrank)

end Pom
end Runbook
