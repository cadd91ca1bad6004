import Runbook.Proofs.Markup.Recovery
import Runbook.Proofs.Markup.Veil

/-!
# Clean positions

A position is clean when it lies at an end of the text, before a `<`, or behind a `>` or a line feed.
The elements that are found in a text begin and end at clean positions, whatever the text is, and texts
that are read alike can be cut and joined there. So they have the same children, and the same edits
make texts of them that are read alike again.

Main statements: `Veiled.elementsIn_eq`, `Veiled.splice` and `fits_of_mem_elementsIn`.
-/

namespace Runbook
namespace Markup

open Text

/-! ## Cuts -/

/-- A cut at an end of a text, before a `<`, or behind a `>` or a line feed. -/
def CleanCut (u v : List Char) : Prop :=
  u = [] ∨ v = [] ∨ v.head? = some '<' ∨ u.getLast? = some '>' ∨ u.getLast? = some '\n'

/-- A position where a text has a clean cut. -/
def Clean
    (s : List Char)
    (position : Nat) :
    Prop :=
  ∃ u v, s = u ++ v ∧ byteSize u = position ∧ CleanCut u v

theorem CleanCut.of_cons
    {c : Char}
    {u v : List Char}
    (h : CleanCut (c :: u) v) :
    CleanCut u v := by
  cases u with
  | nil => exact Or.inl rfl
  | cons d u =>
      rcases h with h | h | h | h | h
      · cases h
      · exact Or.inr (Or.inl h)
      · exact Or.inr (Or.inr (Or.inl h))
      · exact Or.inr (Or.inr (Or.inr (Or.inl (by simpa using h))))
      · exact Or.inr (Or.inr (Or.inr (Or.inr (by simpa using h))))

theorem Clean.cleanCut
    {u v : List Char}
    (h : Clean (u ++ v) (byteSize u)) :
    CleanCut u v := by
  obtain ⟨u', v', hcut, hsize, hclean⟩ := h
  have h₁ := splitAt?_append u v
  have h₂ := splitAt?_append u' v'
  rw [hsize, ← hcut, h₁, Option.some.injEq, Prod.mk.injEq] at h₂
  rw [h₂.1, h₂.2]
  exact hclean

namespace Veiled

variable {s t u' v' : List Char}

theorem head?_eq
    (h : Veiled s t)
    (ht : t.head? = some '<') :
    s.head? = some '<' := by
  cases h with
  | nil => exact ht
  | keep c rest => exact ht
  | hide inert rest => cases ht

theorem eq_nil
    (h : Veiled s []) :
    s = [] := by
  cases h
  rfl

/-- Texts that are read alike can be cut alike. -/
theorem exists_cut
    (h : Veiled s (u' ++ v'))
    (hcut : CleanCut u' v') :
    ∃ u v, s = u ++ v ∧ Veiled u u' ∧ Veiled v v' := by
  induction u' generalizing s with
  | nil => exact ⟨[], s, rfl, nil, h⟩
  | cons c u' ih =>
      rw [List.cons_append] at h
      cases h with
      | keep _ rest =>
          obtain ⟨u, v, rfl, hu, hv⟩ := ih rest hcut.of_cons
          exact ⟨c :: u, v, rfl, keep c hu, hv⟩
      | hide inert rest =>
          obtain ⟨u, v, rfl, hu, hv⟩ := ih rest hcut.of_cons
          refine ⟨'<' :: u, v, rfl, hide (inert.of_append fun hshort => ?_) hu, hv⟩
          have hlast : ('=' :: u').getLast? = some '=' ∨ ('=' :: u').getLast? = some '/' := by
            rcases hshort with rfl | rfl
            · cases hu
              exact Or.inl rfl
            · cases hu with
              | keep _ inner =>
                  cases inner
                  exact Or.inr rfl
          rcases hcut with h | rfl | h | h | h
          · cases h
          · exact Or.inl hv.eq_nil
          · exact Or.inr (hv.head?_eq h)
          · rw [h] at hlast
            simp at hlast
          · rw [h] at hlast
            simp at hlast

/-- What a range with clean ends holds of two texts that are read alike is read alike. -/
theorem slice?_cases
    {r : Span}
    (h : Veiled s t)
    (hstart : Clean t r.start)
    (hstop : Clean t r.stop) :
    (slice? s r = none ∧ slice? t r = none) ∨
      ∃ x x', slice? s r = some x ∧ slice? t r = some x' ∧ Veiled x x' := by
  cases hslice : slice? t r with
  | none =>
      left
      have hsame := slice?_map_dim s r
      rw [h.map_dim_eq, slice?_map_dim, hslice, Option.map_none, eq_comm,
        Option.map_eq_none_iff] at hsame
      exact ⟨hsame, rfl⟩
  | some x' =>
      right
      obtain ⟨before', after', rfl, hbefore, hend⟩ := exists_of_slice?_eq_some hslice
      rw [← hend, ← byteSize_append] at hstop
      rw [← hbefore, List.append_assoc] at hstart
      obtain ⟨m, after, rfl, hm, -⟩ := h.exists_cut hstop.cleanCut
      have hfront : CleanCut before' x' := by
        rcases hstart.cleanCut with h | h | h | h | h
        · exact Or.inl h
        · exact Or.inr (Or.inl (List.append_eq_nil_iff.mp h).1)
        · cases x' with
          | nil => exact Or.inr (Or.inl rfl)
          | cons c x' => exact Or.inr (Or.inr (Or.inl h))
        · exact Or.inr (Or.inr (Or.inr (Or.inl h)))
        · exact Or.inr (Or.inr (Or.inr (Or.inr h)))
      obtain ⟨before, x, rfl, hb, hx⟩ := hm.exists_cut hfront
      refine ⟨x, x', ?_, rfl, hx⟩
      have hstands : StandsAt (before ++ x ++ after) r.start x :=
        ⟨before, after, rfl, by rw [hb.byteSize_eq, hbefore]⟩
      have hr : r = ⟨r.start, r.start + byteSize x⟩ := by
        rw [hx.byteSize_eq, ← hbefore, hend, hbefore]
      rw [hr]
      exact hstands.slice?_eq

/-- Texts that are read alike have the same elements in a range with clean ends. -/
theorem elementsIn_eq
    {r : Span}
    (h : Veiled s t)
    (hstart : Clean t r.start)
    (hstop : Clean t r.stop) :
    elementsIn s r = elementsIn t r := by
  rcases h.slice?_cases hstart hstop with ⟨hs, ht⟩ | ⟨x, x', hs, ht, hx⟩
  · simp only [elementsIn, tagsIn, hs, ht]
  · simp only [elementsIn, tagsIn, hs, ht, hx.tagsOf_eq]

/-- Texts that are read alike are cut alike at a clean position. -/
theorem exists_splitAt?
    {position : Nat}
    (h : Veiled s t)
    (hclean : Clean t position) :
    ∃ u v u' v', splitAt? position s = some (u, v) ∧ splitAt? position t = some (u', v') ∧
      Veiled u u' ∧ Veiled v v' := by
  obtain ⟨u', v', rfl, rfl, hcut⟩ := hclean
  obtain ⟨u, v, rfl, hu, hv⟩ := h.exists_cut hcut
  refine ⟨u, v, u', v', ?_, splitAt?_append u' v', hu, hv⟩
  rw [← hu.byteSize_eq]
  exact splitAt?_append u v

/-- Texts that are read alike still are with the same text put between two clean positions. -/
theorem splice
    {r : Span}
    (h : Veiled s t)
    (hstart : Clean t r.start)
    (hstop : Clean t r.stop)
    (new : List Char) :
    Veiled (Text.splice s r new) (Text.splice t r new) := by
  obtain ⟨u₁, v₁, u₁', v₁', hs₁, ht₁, hu₁, -⟩ := h.exists_splitAt? hstart
  obtain ⟨u₂, v₂, u₂', v₂', hs₂, ht₂, -, hv₂⟩ := h.exists_splitAt? hstop
  simp only [Text.splice, hs₁, hs₂, ht₁, ht₂]
  by_cases hle : r.start ≤ r.stop
  · rw [if_pos hle, if_pos hle]
    exact (hu₁.append (refl new)).append hv₂
  · rw [if_neg hle, if_neg hle]
    exact h

end Veiled

/-! ## Elements begin and end at clean positions -/

/-- A tag ends with a `>`. -/
theorem exists_of_tagEnd?
    {s : List Char}
    {p : Bool × Nat}
    (h : tagEnd? s = some p) :
    ∃ u v, s = u ++ '>' :: v ∧ p.2 = u.length + 1 := by
  fun_induction tagEnd? s generalizing p with
  | case1 => cases h
  | case2 s =>
      cases h
      exact ⟨[], s, rfl, rfl⟩
  | case3 => cases h
  | case4 s =>
      cases h
      exact ⟨['/'], s, rfl, rfl⟩
  | case5 c s hc ih =>
      obtain ⟨q, hq, rfl⟩ := Option.map_eq_some_iff.mp h
      obtain ⟨u, v, rfl, hlen⟩ := ih hq
      exact ⟨'/' :: c :: u, v, rfl, by simp [hlen]⟩
  | case6 c s _ _ _ _ ih =>
      obtain ⟨q, hq, rfl⟩ := Option.map_eq_some_iff.mp h
      obtain ⟨u, v, rfl, hlen⟩ := ih hq
      exact ⟨c :: u, v, rfl, by simp [hlen]⟩

theorem exists_of_tagBody?
    {closing : Bool}
    {taken : Nat}
    {s : List Char}
    {form : TagForm}
    (h : tagBody? closing taken s = some form) :
    ∃ u v, s = u ++ '>' :: v ∧ form.length = taken + u.length + 1 := by
  cases s with
  | nil => cases h
  | cons c s =>
      simp only [tagBody?] at h
      split at h
      · obtain ⟨p, hp, rfl⟩ := Option.map_eq_some_iff.mp h
        obtain ⟨u, v, hrest, hlen⟩ := exists_of_tagEnd? hp
        refine ⟨c :: (s.takeWhile continuesName ++ u), v, ?_, ?_⟩
        · rw [List.cons_append, List.append_assoc, ← hrest, List.takeWhile_append_dropWhile]
        · simp [hlen]
          omega
      · cases h

/-- A tag begins with a `<` and ends with a `>`. -/
theorem exists_of_tagAt?
    {s : List Char}
    {form : TagForm}
    (h : tagAt? s = some form) :
    ∃ u v, s = '<' :: u ++ '>' :: v ∧ form.length = u.length + 2 := by
  unfold tagAt? at h
  split at h
  · obtain ⟨u, v, rfl, hlen⟩ := exists_of_tagBody? h
    exact ⟨'/' :: u, v, rfl, by simp [hlen]; omega⟩
  · obtain ⟨u, v, rfl, hlen⟩ := exists_of_tagBody? h
    exact ⟨u, v, rfl, by omega⟩
  · cases h

/-- Where a tag stands that is found. -/
theorem exists_of_mem_tagsFrom :
    ∀ {s : List Char} {offset skip : Nat} {x : Tag}, x ∈ tagsFrom offset skip s →
      ∃ before u after, s = before ++ ('<' :: u ++ ['>']) ++ after ∧
        x.span = ⟨offset + byteSize before, offset + byteSize (before ++ ('<' :: u ++ ['>']))⟩
  | [], offset, skip, x, h => by simp [tagsFrom] at h
  | c :: s, offset, skip + 1, x, h => by
      obtain ⟨before, u, after, rfl, hspan⟩ :=
        exists_of_mem_tagsFrom (s := s) (by simpa [tagsFrom] using h)
      exact ⟨c :: before, u, after, rfl, by simp [hspan, Nat.add_assoc]⟩
  | c :: s, offset, 0, x, h => by
      cases htag : tagAt? (c :: s) with
      | none =>
          rw [tagsFrom_of_none offset htag] at h
          obtain ⟨before, u, after, rfl, hspan⟩ := exists_of_mem_tagsFrom h
          exact ⟨c :: before, u, after, rfl, by simp [hspan, Nat.add_assoc]⟩
      | some form =>
          simp only [tagsFrom, htag, List.mem_cons] at h
          rcases h with rfl | h
          · obtain ⟨u, v, hs, hlen⟩ := exists_of_tagAt? htag
            refine ⟨[], u, v, by simpa using hs, ?_⟩
            have htake : (c :: s).take form.length = '<' :: u ++ ['>'] := by
              have hmark : u ++ '>' :: v = (u ++ ['>']) ++ v := by simp
              rw [hs, hlen, List.cons_append, List.take_succ_cons, hmark,
                show u.length + 1 = (u ++ ['>']).length by simp, List.take_left]
              rfl
            simp only [htake, List.nil_append, byteSize_nil, Nat.add_zero]
          · obtain ⟨before, u, after, rfl, hspan⟩ := exists_of_mem_tagsFrom h
            exact ⟨c :: before, u, after, rfl, by simp [hspan, Nat.add_assoc]⟩

/-- A tag that is found in a range begins and ends at clean positions. -/
theorem clean_of_mem_tagsIn
    {doc : List Char}
    {range : Span}
    {x : Tag}
    (h : x ∈ tagsIn doc range) :
    Clean doc x.span.start ∧ Clean doc x.span.stop := by
  unfold tagsIn at h
  split at h
  · simp at h
  · rename_i s hslice
    obtain ⟨front, back, rfl, hfront, -⟩ := exists_of_slice?_eq_some hslice
    rw [tagsOf, List.mem_filter] at h
    obtain ⟨before, u, after, rfl, hspan⟩ := exists_of_mem_tagsFrom h.1
    rw [hspan, ← hfront]
    refine ⟨⟨front ++ before, '<' :: u ++ ['>'] ++ after ++ back, by simp, by simp, ?_⟩,
      ⟨front ++ before ++ ('<' :: u ++ ['>']), after ++ back, by simp, by simp, ?_⟩⟩
    · exact Or.inr (Or.inr (Or.inl rfl))
    · refine Or.inr (Or.inr (Or.inr (Or.inl ?_)))
      rw [← List.append_assoc, List.getLast?_concat]

/-- All ends of an element and of its content are clean. -/
structure Element.Fits
    (doc : List Char)
    (e : Element) : Prop where
  outer_start : Clean doc e.outer.start
  outer_stop : Clean doc e.outer.stop
  inner_start : Clean doc e.inner.start
  inner_stop : Clean doc e.inner.stop

theorem fits_of_mem_elementsIn
    {doc : List Char}
    {range : Span}
    {e : Element}
    (h : e ∈ elementsIn doc range) :
    e.Fits doc := by
  rcases exists_tags_of_mem_elementsOf h with ⟨x, hx, rfl⟩ | ⟨x, hx, y, hy, rfl⟩
  · obtain ⟨hstart, hstop⟩ := clean_of_mem_tagsIn hx
    exact ⟨hstart, hstop, hstop, hstop⟩
  · rw [List.append_nil] at hx
    have hopen := clean_of_mem_tagsIn hx
    have hclose := clean_of_mem_tagsIn hy
    exact ⟨hopen.1, hclose.2, hopen.2, hclose.1⟩

end Markup
end Runbook
