import Runbook.Proofs.Markup.Reading

/-!
# Elements of any text

A text need not be well formed for elements to be found in it. Both scans of a text can be taken up
again where a tag was found, so an element that is found anywhere in a text, and whose own text is
written from a tree, is read as that tree.

Main statement: `represents_of_slice?`.
-/

namespace Runbook
namespace Markup

open Text

/-! ## Taking up a scan -/

/-- The scan for tags can be taken up at every tag that it finds. -/
theorem exists_tagsFrom_split :
    ∀ (s : List Char) (offset skip : Nat) (t : Tag), t ∈ tagsFrom offset skip s →
      ∃ u v found, s = u ++ v ∧ skip ≤ u.length ∧ v ≠ [] ∧
        t.span.start = offset + byteSize u ∧
        tagsFrom offset skip s = found ++ tagsFrom (offset + byteSize u) 0 v ∧
        ∀ x ∈ found, x.span.start < offset + byteSize u
  | [], _, _, t, h => by simp [tagsFrom] at h
  | c :: s, offset, skip + 1, t, h => by
      obtain ⟨u, v, found, rfl, hskip, hv, hstart, hsplit, hfound⟩ :=
        exists_tagsFrom_split s (offset + c.utf8Size) skip t (by simpa [tagsFrom] using h)
      refine ⟨c :: u, v, found, rfl, by simpa using hskip, hv, ?_, ?_, ?_⟩
      · simpa [Nat.add_assoc] using hstart
      · simpa [tagsFrom, Nat.add_assoc] using hsplit
      · simpa [Nat.add_assoc] using hfound
  | c :: s, offset, 0, t, h => by
      have hpos := c.utf8Size_pos
      cases htag : tagAt? (c :: s) with
      | none =>
          rw [tagsFrom_of_none offset htag] at h ⊢
          obtain ⟨u, v, found, rfl, -, hv, hstart, hsplit, hfound⟩ :=
            exists_tagsFrom_split s (offset + c.utf8Size) 0 t h
          refine ⟨c :: u, v, found, rfl, Nat.zero_le _, hv, ?_, ?_, ?_⟩
          · simpa [Nat.add_assoc] using hstart
          · simpa [Nat.add_assoc] using hsplit
          · simpa [Nat.add_assoc] using hfound
      | some form =>
          have hscan : tagsFrom offset 0 (c :: s) =
              ⟨String.ofList form.name,
                ⟨offset, offset + byteSize ((c :: s).take form.length)⟩, form.closing,
                form.selfClosing⟩ ::
                tagsFrom (offset + c.utf8Size) (form.length - 1) s := by
            simp [tagsFrom, htag]
          rw [hscan] at h
          rcases List.mem_cons.mp h with rfl | h
          · exact ⟨[], c :: s, [], rfl, Nat.zero_le _, by simp, rfl, rfl, by simp⟩
          · obtain ⟨u, v, found, rfl, -, hv, hstart, hsplit, hfound⟩ :=
              exists_tagsFrom_split s (offset + c.utf8Size) (form.length - 1) t h
            refine ⟨c :: u, v,
              ⟨String.ofList form.name,
                ⟨offset, offset + byteSize ((c :: (u ++ v)).take form.length)⟩, form.closing,
                form.selfClosing⟩ :: found,
              rfl, Nat.zero_le _, hv, ?_, ?_, ?_⟩
            · simpa [Nat.add_assoc] using hstart
            · rw [hscan, hsplit, List.cons_append, byteSize_cons, Nat.add_assoc]
            · intro x hx
              rcases List.mem_cons.mp hx with rfl | hx
              · simp only [byteSize_cons]
                omega
              · have hlt := hfound x hx
                simp only [byteSize_cons]
                omega

/-- The scan for shields can be taken up at every position that no shield covers. -/
theorem exists_shieldsFrom_split :
    ∀ (u v : List Char) (offset skip : Nat), skip ≤ u.length → v ≠ [] →
      (∀ r ∈ shieldsFrom offset skip (u ++ v), r.covers (offset + byteSize u) = false) →
      ∃ found, shieldsFrom offset skip (u ++ v) =
          found ++ shieldsFrom (offset + byteSize u) 0 v ∧
        ∀ r ∈ found, r.stop ≤ offset + byteSize u
  | [], v, offset, skip, hskip, _, _ => by
      have hzero : skip = 0 := Nat.le_zero.mp hskip
      subst hzero
      exact ⟨[], by simp, by simp⟩
  | c :: u, v, offset, skip + 1, hskip, hv, h => by
      have hsize : offset + c.utf8Size + byteSize u = offset + byteSize (c :: u) := by
        simp [Nat.add_assoc]
      have hcover := h
      simp only [List.cons_append, shieldsFrom] at hcover ⊢
      rw [← hsize] at hcover ⊢
      exact exists_shieldsFrom_split u v (offset + c.utf8Size) skip (by simpa using hskip) hv hcover
  | c :: u, v, offset, 0, _, hv, h => by
      have hsize : offset + c.utf8Size + byteSize u = offset + byteSize (c :: u) := by
        simp [Nat.add_assoc]
      rw [List.cons_append] at h ⊢
      rw [← hsize] at h ⊢
      cases hshield : shieldAt? (c :: (u ++ v)) with
      | none =>
          rw [shieldsFrom_of_none offset hshield] at h ⊢
          exact exists_shieldsFrom_split u v (offset + c.utf8Size) 0 (Nat.zero_le _) hv h
      | some k =>
          have hscan : shieldsFrom offset 0 (c :: (u ++ v)) =
              ⟨offset, offset + byteSize ((c :: (u ++ v)).take k)⟩ ::
                shieldsFrom (offset + c.utf8Size) (k - 1) (u ++ v) := by
            simp [shieldsFrom, hshield]
          rw [hscan] at h ⊢
          have hfirst := h _ List.mem_cons_self
          -- A shield that ends where the position is, or before, skips no further than there.
          have hstop : byteSize ((c :: (u ++ v)).take k) ≤ byteSize (c :: u) := by
            simp only [Span.covers, Bool.and_eq_false_iff, decide_eq_false_iff_not] at hfirst
            simp only [byteSize_cons] at hfirst ⊢
            omega
          have hskip : k - 1 ≤ u.length := by
            by_contra hlt
            have hk : k = (c :: u).length + (k - (u.length + 1)) := by
              simp only [List.length_cons]
              omega
            have htake : (c :: (u ++ v)).take k =
                (c :: u) ++ v.take (k - (u.length + 1)) := by
              rw [hk, ← List.cons_append, List.take_length_add_append]
              congr 2
              simp
            have hne : v.take (k - (u.length + 1)) ≠ [] := by
              cases v with
              | nil => exact absurd rfl hv
              | cons d v =>
                  obtain ⟨j, hj⟩ : ∃ j, k - (u.length + 1) = j + 1 := ⟨k - (u.length + 2), by omega⟩
                  rw [hj]
                  simp
            have hpos := byteSize_pos hne
            rw [htake, byteSize_append] at hstop
            omega
          obtain ⟨found, hsplit, hfound⟩ :=
            exists_shieldsFrom_split u v (offset + c.utf8Size) (k - 1) hskip hv
              fun r hr => h r (List.mem_cons_of_mem _ hr)
          refine ⟨_ :: found, by rw [hsplit, List.cons_append], ?_⟩
          intro r hr
          rcases List.mem_cons.mp hr with rfl | hr
          · simp only [byteSize_cons] at hstop ⊢
            omega
          · exact hfound r hr

/-- The tags of a text from one of them on are those of the text from there on. -/
theorem exists_tagsOf_split
    {s : List Char}
    {offset : Nat}
    {t : Tag}
    (h : t ∈ tagsOf offset s) :
    ∃ u v found, s = u ++ v ∧ t.span.start = offset + byteSize u ∧
      tagsOf offset s = found ++ tagsOf (offset + byteSize u) v ∧
      ∀ x ∈ found, x.span.start < offset + byteSize u := by
  rw [tagsOf, List.mem_filter] at h
  obtain ⟨hmem, hfree⟩ := h
  obtain ⟨u, v, found, rfl, -, hv, hstart, htags, hfound⟩ :=
    exists_tagsFrom_split s offset 0 t hmem
  have hcovers : ∀ r ∈ shieldsFrom offset 0 (u ++ v), r.covers (offset + byteSize u) = false := by
    intro r hr
    simp only [Bool.not_eq_true', List.any_eq_false, hstart] at hfree
    simpa using hfree r hr
  obtain ⟨shields, hshields, hends⟩ :=
    exists_shieldsFrom_split u v offset 0 (Nat.zero_le _) hv hcovers
  refine ⟨u, v, found.filter fun x =>
    !(shieldsFrom offset 0 (u ++ v)).any fun r => r.covers x.span.start, rfl, hstart, ?_, ?_⟩
  · simp only [tagsOf]
    rw [htags, List.filter_append]
    congr 1
    refine List.filter_congr fun x hx => ?_
    have hbefore : (shields.any fun r => r.covers x.span.start) = false :=
      any_covers_eq_false fun r hr => Or.inl (by
        have h₁ := start_of_mem_tagsFrom v _ _ x hx
        have h₂ := hends r hr
        omega)
    rw [hshields, List.any_append, hbefore, Bool.false_or]
  · intro x hx
    exact hfound x (List.mem_of_mem_filter hx)

/-! ## Elements by their tags -/

/-- An element begins where one of the tags begins, and has its name. -/
theorem exists_tag_of_mem_elementsOf
    {tags stack : List Tag}
    {e : Element}
    (h : e ∈ elementsOf tags stack) :
    ∃ t ∈ tags ++ stack, t.span.start = e.outer.start ∧ t.name = e.name := by
  rcases exists_tags_of_mem_elementsOf h with ⟨x, hx, rfl⟩ | ⟨x, hx, y, -, rfl⟩
  · exact ⟨x, List.mem_append_left _ hx, rfl, rfl⟩
  · exact ⟨x, hx, rfl, rfl⟩

/-- A tag is named as a tag is read. -/
theorem continues_of_tagAt?
    {s : List Char}
    {form : TagForm}
    (h : tagAt? s = some form) :
    ∀ c ∈ form.name, continuesName c = true := by
  have hbody : ∀ {closing taken s}, tagBody? closing taken s = some form →
      ∀ c ∈ form.name, continuesName c = true := by
    intro closing taken s hs
    cases s with
    | nil => simp [tagBody?] at hs
    | cons d s =>
        simp only [tagBody?] at hs
        split at hs
        · rename_i hd
          obtain ⟨p, -, rfl⟩ := Option.map_eq_some_iff.mp hs
          intro c hc
          rcases List.mem_cons.mp hc with rfl | hc
          · exact continuesName_of_startsName hd
          · exact List.all_eq_true.mp List.all_takeWhile c hc
        · cases hs
  unfold tagAt? at h
  split at h
  · exact hbody h
  · exact hbody h
  · cases h

theorem continues_of_mem_tagsFrom :
    ∀ (s : List Char) (offset skip : Nat) (t : Tag), t ∈ tagsFrom offset skip s →
      ∀ c ∈ t.name.toList, continuesName c = true
  | [], _, _, t, h => by simp [tagsFrom] at h
  | c :: s, offset, skip + 1, t, h => by
      rw [tagsFrom] at h
      exact continues_of_mem_tagsFrom s _ skip t h
  | c :: s, offset, 0, t, h => by
      rw [tagsFrom] at h
      cases htag : tagAt? (c :: s) with
      | none =>
          rw [htag] at h
          exact continues_of_mem_tagsFrom s _ 0 t h
      | some form =>
          rw [htag] at h
          rcases List.mem_cons.mp h with rfl | h
          · simpa using continues_of_tagAt? htag
          · exact continues_of_mem_tagsFrom s _ _ t h

/-- What is found in any text is named as a tag is read. -/
theorem continues_of_mem_elementsIn
    {doc : List Char}
    {range : Span}
    {e : Element}
    (h : e ∈ elementsIn doc range) :
    ∀ c ∈ e.name.toList, continuesName c = true := by
  obtain ⟨t, ht, -, hname⟩ := exists_tag_of_mem_elementsOf h
  rw [List.append_nil, tagsIn] at ht
  split at ht
  · simp at ht
  · rw [← hname]
    exact continues_of_mem_tagsFrom _ _ _ t (List.mem_of_mem_filter ht)

/-- An element that begins at a position is found from the tags at that position on, with some tags
still open. -/
theorem exists_stack_of_mem_elementsOf
    {front tail stack : List Tag}
    {e : Element}
    (hfront : ∀ t ∈ front, t.span.start < e.outer.start)
    (hstack : ∀ t ∈ stack, t.span.start < e.outer.start)
    (h : e ∈ elementsOf (front ++ tail) stack) :
    ∃ stack', (∀ t ∈ stack', t.span.start < e.outer.start) ∧ e ∈ elementsOf tail stack' := by
  induction front generalizing stack with
  | nil => exact ⟨stack, hstack, h⟩
  | cons t rest ih =>
      have hopen : ∀ x ∈ t :: stack, x.span.start < e.outer.start := by
        intro x hx
        rcases List.mem_cons.mp hx with rfl | hx
        · exact hfront _ (by simp)
        · exact hstack x hx
      rcases mem_elementsOf_cons h with rfl | ⟨x, hx, rfl⟩ | ⟨stack', hsub, hmem⟩
      · exact absurd rfl (Nat.ne_of_lt (hopen t List.mem_cons_self))
      · exact absurd rfl (Nat.ne_of_lt (hopen x (List.mem_cons_of_mem _ hx)))
      · exact ih (fun x hx => hfront x (List.mem_cons_of_mem _ hx)) (fun x hx => hopen x (hsub hx))
          hmem

/-- The tags of a node make the element that begins where they do. -/
theorem element?_of_mem_elementsOf
    {n : Node}
    {rest stack : List Tag}
    {e : Element}
    (hstack : ∀ t ∈ stack, t.span.start < e.outer.start)
    (hrest : ∀ t ∈ rest, e.outer.start < t.span.start)
    (h : e ∈ elementsOf (n.tags e.outer.start ++ rest) stack) :
    n.element? e.outer.start = some e := by
  have hlate : e ∉ elementsOf rest stack := by
    intro hmem
    obtain ⟨t, ht, hstart, -⟩ := exists_tag_of_mem_elementsOf hmem
    rcases List.mem_append.mp ht with ht | ht
    · have h₁ := hrest t ht
      omega
    · have h₁ := hstack t ht
      omega
  rw [elementsOf_node] at h
  by_cases hnil : stack.isEmpty = true
  · rw [if_pos hnil] at h
    rcases List.mem_append.mp h with h | h
    · exact Option.mem_toList.mp h
    · exact absurd h hlate
  · rw [if_neg hnil] at h
    exact absurd h hlate

/-- An element found in a text, whose own text is written from a node, stands for the node. -/
theorem represents_of_slice?
    {s : List Char}
    {e : Element}
    {n : Node}
    (hn : n.isElement = true)
    (he : e ∈ elementsIn s ⟨0, byteSize s⟩)
    (h : slice? s e.outer = some n.write) :
    Represents s e n := by
  have hall : slice? s ⟨0, byteSize s⟩ = some s := by
    simpa using (StandsAt.whole s).slice?_eq
  simp only [elementsIn, tagsIn, hall] at he
  obtain ⟨t, ht, hstart, -⟩ := exists_tag_of_mem_elementsOf he
  rw [List.append_nil] at ht
  obtain ⟨u, v, found, rfl, hu, htags, hfound⟩ := exists_tagsOf_split ht
  obtain ⟨before, after, hcut, hbefore, -⟩ := exists_of_slice?_eq_some h
  -- The tag that opens the element and the text of the element begin at the same position.
  have hposition : 0 + byteSize u = e.outer.start := hu.symm.trans hstart
  have hsame : u = before ∧ v = n.write ++ after := by
    have h₁ := splitAt?_append u v
    have h₂ := splitAt?_append before (n.write ++ after)
    have hsize : byteSize u = byteSize before := by omega
    rw [List.append_assoc] at hcut
    rw [hcut, hsize, h₂] at h₁
    simpa [eq_comm] using h₁
  obtain ⟨rfl, rfl⟩ := hsame
  have hread : n.element? e.outer.start = some e := by
    rw [htags, (scans_node n).tagsOf_append, hposition] at he
    rw [hposition] at hfound
    obtain ⟨stack, hstack, hmem⟩ := exists_stack_of_mem_elementsOf hfound (by simp) he
    refine element?_of_mem_elementsOf hstack (fun x hx => ?_) hmem
    have hpos := byteSize_pos (Node.write_ne_nil hn)
    have hfrom := start_of_mem_tagsFrom after _ 0 x (List.mem_of_mem_filter hx)
    omega
  exact ⟨e.outer.start, ⟨u, after, by simp, by simpa using hposition⟩, hread⟩

end Markup
end Runbook
