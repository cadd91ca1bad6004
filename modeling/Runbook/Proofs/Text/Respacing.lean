import Runbook.Proofs.Text.Trimming

/-!
# Respacing a text

A text is respaced when some of its stretches of blanks, each with a line feed in it, are exchanged
for other such stretches. Everything else stays, so a respaced text is made of the same parts as the
text was, each part respaced, and parts without a line feed are unchanged.
-/

namespace Runbook
namespace Text

/-- A stretch of blanks that breaks a line. -/
def IsBreak (s : List Char) : Prop :=
  allBlank s = true ∧ '\n' ∈ s

/-- The second text is the first one with line breaks, and the blanks around them, exchanged for
other ones. -/
inductive Respaced : List Char → List Char → Prop
  | nil : Respaced [] []
  | keep (c : Char) {s t : List Char} (rest : Respaced s t) : Respaced (c :: s) (c :: t)
  | gap {u v s t : List Char} (hu : IsBreak u) (hv : IsBreak v) (rest : Respaced s t) :
      Respaced (u ++ s) (v ++ t)

namespace IsBreak

variable {s u v : List Char}

theorem ne_nil
    (h : IsBreak s) :
    s ≠ [] := by
  rintro rfl
  simp [IsBreak] at h

theorem append_right
    (h : IsBreak s)
    (hv : allBlank v = true) :
    IsBreak (s ++ v) :=
  ⟨by simp [hv, h.1], by simp [h.2]⟩

theorem head_blank
    (h : IsBreak s)
    {c : Char}
    (hc : s.head? = some c) :
    isBlank c = true :=
  isBlank_of_mem h.1 (List.mem_of_head? hc)

theorem last_blank
    (h : IsBreak s)
    {c : Char}
    (hc : s.getLast? = some c) :
    isBlank c = true :=
  isBlank_of_mem h.1 (List.mem_of_getLast? hc)

end IsBreak

namespace Respaced

variable {s t x y z : List Char}

theorem refl :
    ∀ s : List Char, Respaced s s
  | [] => nil
  | c :: s => keep c (refl s)

theorem symm
    (h : Respaced s t) :
    Respaced t s := by
  induction h with
  | nil => exact nil
  | keep c _ ih => exact keep c ih
  | gap hu hv _ ih => exact gap hv hu ih

theorem append
    (hst : Respaced s t)
    (hxy : Respaced x y) :
    Respaced (s ++ x) (t ++ y) := by
  induction hst with
  | nil => exact hxy
  | keep c _ ih => exact keep c ih
  | gap hu hv _ ih =>
      rw [List.append_assoc, List.append_assoc]
      exact gap hu hv ih

/-- A kept front part. -/
theorem append_left
    (u : List Char)
    (h : Respaced s t) :
    Respaced (u ++ s) (u ++ t) :=
  (refl u).append h

/-- A text is respaced part by part, where a part does not end inside a stretch of blanks. -/
theorem split
    (h : Respaced (x ++ y) z)
    (hclean : ∀ c d, x.getLast? = some c → y.head? = some d →
      isBlank c = false ∨ isBlank d = false) :
    ∃ x' y', z = x' ++ y' ∧ Respaced x x' ∧ Respaced y y' := by
  generalize hs : x ++ y = s at h
  induction h generalizing x with
  | nil =>
      obtain ⟨rfl, rfl⟩ := List.append_eq_nil_iff.mp hs
      exact ⟨[], [], rfl, nil, nil⟩
  | @keep c s t rest ih =>
      cases x with
      | nil =>
          rw [List.nil_append] at hs
          exact ⟨[], c :: t, rfl, nil, hs ▸ keep c rest⟩
      | cons d x =>
          obtain ⟨rfl, rfl⟩ := List.cons_eq_cons.mp hs
          have hclean' : ∀ c d, x.getLast? = some c → y.head? = some d →
              isBlank c = false ∨ isBlank d = false := by
            intro a b ha hb
            refine hclean a b ?_ hb
            rw [List.getLast?_cons, ha]
            rfl
          obtain ⟨x', y', rfl, hx, hy⟩ := ih hclean' rfl
          exact ⟨d :: x', y', rfl, keep d hx, hy⟩
  | @gap u v s t hu hv rest ih =>
      rcases List.append_eq_append_iff.mp hs with ⟨a, rfl, rfl⟩ | ⟨a, rfl, rfl⟩
      · -- The part ends inside the stretch, so it is empty or ends with the stretch.
        rcases List.eq_nil_or_concat x with rfl | ⟨w, c, rfl⟩
        · exact ⟨[], v ++ t, rfl, nil, gap hu hv rest⟩
        · cases a with
          | nil =>
              rw [List.append_nil] at hu
              have hgap := gap hu hv nil
              rw [List.append_nil, List.append_nil] at hgap
              exact ⟨v, t, rfl, hgap, rest⟩
          | cons d a =>
              have hc : isBlank c = true := isBlank_of_mem hu.1 (by simp)
              have hd : isBlank d = true := isBlank_of_mem hu.1 (by simp)
              rcases hclean c d (by simp) rfl with h | h
              · rw [hc] at h
                cases h
              · rw [hd] at h
                cases h
      · have hclean' : ∀ c d, a.getLast? = some c → y.head? = some d →
            isBlank c = false ∨ isBlank d = false := by
          intro c d hc hd
          refine hclean c d ?_ hd
          rw [List.getLast?_append, hc]
          rfl
        obtain ⟨x', y', rfl, hx, hy⟩ := ih hclean' rfl
        exact ⟨v ++ x', y', by simp, gap hu hv hx, hy⟩

/-- Parts that a character other than a blank keeps apart. -/
theorem split_of_last
    (h : Respaced (x ++ y) z)
    (hx : ∀ c, x.getLast? = some c → isBlank c = false) :
    ∃ x' y', z = x' ++ y' ∧ Respaced x x' ∧ Respaced y y' :=
  h.split fun c _ hc _ => Or.inl (hx c hc)

theorem split_of_head
    (h : Respaced (x ++ y) z)
    (hy : ∀ c, y.head? = some c → isBlank c = false) :
    ∃ x' y', z = x' ++ y' ∧ Respaced x x' ∧ Respaced y y' :=
  h.split fun _ d _ hd => Or.inr (hy d hd)

/-- A text of one line stays. -/
theorem eq_of_no_break
    (h : Respaced s t)
    (hs : '\n' ∉ s) :
    t = s := by
  induction h with
  | nil => rfl
  | keep c _ ih =>
      simp only [List.mem_cons, not_or] at hs
      rw [ih hs.2]
  | gap hu _ _ _ =>
      simp only [List.mem_append, not_or] at hs
      exact absurd hu.2 hs.1

/-- A text without blanks stays. -/
theorem eq_of_no_blank
    (h : Respaced s t)
    (hs : ∀ c ∈ s, isBlank c = false) :
    t = s := by
  refine h.eq_of_no_break fun hn => ?_
  have hblank := hs '\n' hn
  exact absurd hblank (by decide)

theorem allBlank
    (h : Respaced s t)
    (hs : allBlank s = true) :
    Text.allBlank t = true := by
  induction h with
  | nil => rfl
  | keep c _ ih =>
      simp only [allBlank_cons, Bool.and_eq_true] at hs ⊢
      exact ⟨hs.1, ih hs.2⟩
  | gap _ hv _ ih =>
      simp only [allBlank_append, Bool.and_eq_true] at hs ⊢
      exact ⟨hv.1, ih hs.2⟩

/-- Characters other than blanks are neither added nor lost. -/
theorem mem_of_mem
    (h : Respaced s t)
    {c : Char}
    (hc : isBlank c = false)
    (ht : c ∈ t) :
    c ∈ s := by
  induction h with
  | nil => exact ht
  | keep d _ ih =>
      rcases List.mem_cons.mp ht with rfl | ht
      · simp
      · exact List.mem_cons_of_mem _ (ih ht)
  | gap _ hv _ ih =>
      rcases List.mem_append.mp ht with ht | ht
      · rw [isBlank_of_mem hv.1 ht] at hc
        cases hc
      · exact List.mem_append_right _ (ih ht)

theorem eq_nil
    (h : Respaced s []) :
    s = [] := by
  generalize ht : ([] : List Char) = t at h
  cases h with
  | nil => rfl
  | keep c _ => cases ht
  | gap _ hv _ =>
      have hv' := (List.append_eq_nil_iff.mp ht.symm).1
      exact absurd hv' hv.ne_nil

/-- A respaced text begins as the text did, or with a blank. -/
theorem head?_eq
    (h : Respaced s t)
    {c : Char}
    (hc : t.head? = some c) :
    s.head? = some c ∨ isBlank c = true := by
  cases h with
  | nil => exact Or.inl hc
  | keep d _ => exact Or.inl hc
  | @gap u v s t _ hv _ =>
      right
      refine hv.head_blank ?_
      cases v with
      | nil => exact absurd rfl hv.ne_nil
      | cons d v => simpa using hc

/-- A respaced text ends as the text did, or with a blank. -/
theorem getLast?_eq
    (h : Respaced s t)
    {c : Char}
    (hc : t.getLast? = some c) :
    s.getLast? = some c ∨ isBlank c = true := by
  induction h with
  | nil => exact Or.inl hc
  | @keep d s t rest ih =>
      cases t with
      | nil =>
          rw [rest.eq_nil]
          exact Or.inl hc
      | cons e t =>
          have hc' : (e :: t).getLast? = some c := by simpa using hc
          rcases ih hc' with h | h
          · left
            rw [List.getLast?_cons, h]
            rfl
          · exact Or.inr h
  | @gap u v s t _ hv rest ih =>
      cases t with
      | nil =>
          rw [List.append_nil] at hc
          exact Or.inr (hv.last_blank hc)
      | cons e t =>
          have hc' : (e :: t).getLast? = some c := by
            rw [List.getLast?_append] at hc
            cases hlast : (e :: t).getLast? with
            | none => simp at hlast
            | some a => simpa [hlast] using hc
          rcases ih hc' with h | h
          · left
            rw [List.getLast?_append, h]
            rfl
          · exact Or.inr h

/-- A mark without blanks is not made by respacing. -/
theorem infix_of_infix
    {mark : List Char}
    (h : Respaced s t)
    (hmark : ∀ c ∈ mark, isBlank c = false)
    (ht : mark <:+: t) :
    mark <:+: s := by
  obtain ⟨front, back, rfl⟩ := ht
  rcases List.eq_nil_or_concat mark with rfl | ⟨m, c, rfl⟩
  · exact ⟨[], s, rfl⟩
  · rw [List.concat_eq_append] at h hmark ⊢
    have hlast : ∀ d, (front ++ (m ++ [c])).getLast? = some d → isBlank d = false := by
      intro d hd
      rw [← List.append_assoc, List.getLast?_concat] at hd
      cases hd
      exact hmark _ (by simp)
    obtain ⟨left, back', rfl, hleft, -⟩ := h.symm.split_of_last hlast
    have hhead : ∀ d, (m ++ [c]).head? = some d → isBlank d = false := fun d hd =>
      hmark d (List.mem_of_head? hd)
    obtain ⟨front', mark', rfl, -, hm⟩ := hleft.split_of_head hhead
    rw [hm.eq_of_no_blank hmark]
    exact ⟨front', back', rfl⟩

/-- What is left after trimming stays when it is of one line. -/
theorem trim_eq
    (h : Respaced s t)
    (hs : '\n' ∉ trim s) :
    trim t = trim s := by
  obtain ⟨u, w, hsplit, hu, htight, hw⟩ := exists_trim s
  rcases List.eq_nil_or_concat (trim s) with hnil | ⟨m, c, hm⟩
  · have hblank : Text.allBlank s = true := by
      rw [hsplit, hnil]
      simp [hu, hw]
    rw [trim_blank (h.allBlank hblank), hnil]
  · have hhead : ∀ d, (trim s ++ w).head? = some d → isBlank d = false := by
      intro d hd
      refine htight.head d ?_
      cases htrim : trim s with
      | nil => simp [hm] at htrim
      | cons e r => simpa [htrim] using hd
    generalize trim s = core at *
    subst hsplit
    rw [List.append_assoc] at h
    obtain ⟨u', rest, rfl, hu', hrest⟩ := h.split_of_head hhead
    obtain ⟨core', w', rfl, hcore, hw'⟩ := hrest.split_of_last htight.last
    rw [hcore.eq_of_no_break hs, ← List.append_assoc]
    exact trim_append (hu'.allBlank hu) htight (hw'.allBlank hw)

end Respaced

end Text
end Runbook
