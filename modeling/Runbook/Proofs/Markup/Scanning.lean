import Runbook.Proofs.Markup.Tags

/-!
# Scanning a row of nodes

Tags and shields are found by two scans of the same text, and tags that begin inside a shield do not
count. On a written tree both scans start afresh at each node, so the tags of a row are the tags of
its nodes one after another, whatever the row is followed by.

Main statement: `tagsOf_row`.
-/

namespace Runbook
namespace Markup

open Text

/-! ## Bounds -/

/-- Tags are found where the text is. -/
theorem start_of_mem_tagsFrom :
    ∀ (s : List Char) (offset skip : Nat) (t : Tag),
      t ∈ tagsFrom offset skip s → offset ≤ t.span.start
  | [], _, _, t, h => by simp [tagsFrom] at h
  | c :: s, offset, skip + 1, t, h => by
      have hle := start_of_mem_tagsFrom s (offset + c.utf8Size) skip t (by simpa [tagsFrom] using h)
      omega
  | c :: s, offset, 0, t, h => by
      simp only [tagsFrom] at h
      split at h
      · rcases List.mem_cons.mp h with rfl | h
        · exact Nat.le_refl _
        · have hle := start_of_mem_tagsFrom s _ _ t h
          omega
      · have hle := start_of_mem_tagsFrom s _ _ t h
        omega

/-- Shields are found where the text is. -/
theorem start_of_mem_shieldsFrom :
    ∀ (s : List Char) (offset skip : Nat) (r : Span),
      r ∈ shieldsFrom offset skip s → offset ≤ r.start
  | [], _, _, r, h => by simp [shieldsFrom] at h
  | c :: s, offset, skip + 1, r, h => by
      have hle :=
        start_of_mem_shieldsFrom s (offset + c.utf8Size) skip r (by simpa [shieldsFrom] using h)
      omega
  | c :: s, offset, 0, r, h => by
      simp only [shieldsFrom] at h
      split at h
      · rcases List.mem_cons.mp h with rfl | h
        · exact Nat.le_refl _
        · have hle := start_of_mem_shieldsFrom s _ _ r h
          omega
      · have hle := start_of_mem_shieldsFrom s _ _ r h
        omega

/-! ## Skipped and plain text -/

theorem tagsFrom_of_none
    {c : Char}
    {s : List Char}
    (offset : Nat)
    (h : tagAt? (c :: s) = none) :
    tagsFrom offset 0 (c :: s) = tagsFrom (offset + c.utf8Size) 0 s := by
  simp [tagsFrom, h]

theorem shieldsFrom_of_none
    {c : Char}
    {s : List Char}
    (offset : Nat)
    (h : shieldAt? (c :: s) = none) :
    shieldsFrom offset 0 (c :: s) = shieldsFrom (offset + c.utf8Size) 0 s := by
  simp [shieldsFrom, h]

theorem tagsFrom_skip
    (s rest : List Char)
    (offset : Nat) :
    tagsFrom offset s.length (s ++ rest) = tagsFrom (offset + byteSize s) 0 rest := by
  induction s generalizing offset with
  | nil => simp
  | cons c s ih => simp [tagsFrom, ih, Nat.add_assoc]

theorem shieldsFrom_skip
    (s rest : List Char)
    (offset : Nat) :
    shieldsFrom offset s.length (s ++ rest) = shieldsFrom (offset + byteSize s) 0 rest := by
  induction s generalizing offset with
  | nil => simp
  | cons c s ih => simp [shieldsFrom, ih, Nat.add_assoc]

/-- A tag is found where it stands, and the scan goes on behind it. -/
theorem tagsFrom_tag
    {s rest : List Char}
    {t : TagForm}
    (offset : Nat)
    (h : tagAt? (s ++ rest) = some t)
    (hlen : t.length = s.length)
    (hs : s ≠ []) :
    tagsFrom offset 0 (s ++ rest) =
      ⟨String.ofList t.name, ⟨offset, offset + byteSize s⟩, t.closing, t.selfClosing⟩ ::
        tagsFrom (offset + byteSize s) 0 rest := by
  cases s with
  | nil => exact absurd rfl hs
  | cons c s =>
      have hskip := tagsFrom_skip s rest (offset + c.utf8Size)
      rw [List.cons_append] at h
      have htake : (c :: (s ++ rest)).take t.length = c :: s := by simp [hlen]
      have hpred : t.length - 1 = s.length := by simp [hlen]
      simp only [List.cons_append, tagsFrom, h, htake, hpred, hskip]
      simp [Nat.add_assoc]

/-- A shield is found where it stands, and the scan goes on behind it. -/
theorem shieldsFrom_shield
    {s rest : List Char}
    (offset : Nat)
    (h : shieldAt? (s ++ rest) = some s.length)
    (hs : s ≠ []) :
    shieldsFrom offset 0 (s ++ rest) =
      ⟨offset, offset + byteSize s⟩ :: shieldsFrom (offset + byteSize s) 0 rest := by
  cases s with
  | nil => exact absurd rfl hs
  | cons c s =>
      have hskip := shieldsFrom_skip s rest (offset + c.utf8Size)
      rw [List.cons_append] at h
      have htake : (c :: (s ++ rest)).take (c :: s).length = c :: s := by simp
      have hpred : (c :: s).length - 1 = s.length := by simp
      simp only [List.cons_append, shieldsFrom, h, htake, hpred, hskip]
      simp [Nat.add_assoc]

theorem shieldAt?_eq_none
    {c : Char}
    (hc : c ≠ '<')
    (s : List Char) :
    shieldAt? (c :: s) = none := by
  simp [shieldAt?, hc]

theorem tagsFrom_plain
    (s rest : List Char)
    (offset : Nat)
    (hs : '<' ∉ s) :
    tagsFrom offset 0 (s ++ rest) = tagsFrom (offset + byteSize s) 0 rest := by
  induction s generalizing offset with
  | nil => simp
  | cons c s ih =>
      simp only [List.mem_cons, not_or] at hs
      have hc : c ≠ '<' := fun h => hs.1 h.symm
      rw [List.cons_append, tagsFrom_of_none offset (tagAt?_eq_none hc _), ih _ hs.2]
      simp [Nat.add_assoc]

theorem shieldsFrom_plain
    (s rest : List Char)
    (offset : Nat)
    (hs : '<' ∉ s) :
    shieldsFrom offset 0 (s ++ rest) = shieldsFrom (offset + byteSize s) 0 rest := by
  induction s generalizing offset with
  | nil => simp
  | cons c s ih =>
      simp only [List.mem_cons, not_or] at hs
      have hc : c ≠ '<' := fun h => hs.1 h.symm
      rw [List.cons_append, shieldsFrom_of_none offset (shieldAt?_eq_none hc _), ih _ hs.2]
      simp [Nat.add_assoc]

/-- A `<` without an exclamation mark after it begins no shield. -/
theorem shieldsFrom_markup
    {c : Char}
    {s : List Char}
    (rest : List Char)
    (offset : Nat)
    (hc : c ≠ '!')
    (hs : '<' ∉ c :: s) :
    shieldsFrom offset 0 ('<' :: c :: s ++ rest) =
      shieldsFrom (offset + byteSize ('<' :: c :: s)) 0 rest := by
  have hnone : shieldAt? ('<' :: c :: (s ++ rest)) = none := by
    simp [shieldAt?, hc]
  have hrest := shieldsFrom_plain (c :: s) rest (offset + '<'.utf8Size) hs
  rw [List.cons_append, List.cons_append, shieldsFrom_of_none offset hnone]
  rw [List.cons_append] at hrest
  rw [hrest]
  simp [Nat.add_assoc]

/-! ## Shields -/

/-- A mark whose last character occurs only at its end is not met astride what it ends. -/
theorem lengthThrough?_mark
    (front : List Char)
    (z : Char)
    (hz : z ∉ front) :
    ∀ (body rest : List Char), ¬ (front ++ [z]) <:+: body →
      lengthThrough? (front ++ [z]) (body ++ (front ++ [z]) ++ rest) =
        some (body.length + (front ++ [z]).length)
  | [], rest, _ => by
      cases front with
      | nil => simp [lengthThrough?]
      | cons c front => simp [lengthThrough?]
  | c :: body, rest, hbody => by
      have hnot : ¬ (front ++ [z]) <+: c :: body ++ (front ++ [z]) ++ rest := by
        intro hp
        have hwhole : c :: body <+: c :: body ++ (front ++ [z]) ++ rest := by
          simp [List.append_assoc]
        rcases List.prefix_or_prefix_of_prefix hp hwhole with hin | ⟨w, hw⟩
        · exact hbody hin.isInfix
        · -- The mark reaches beyond the body, so its end is read at its own front.
          have hp' : w <+: front ++ [z] ++ rest := by
            rw [← List.prefix_append_right_inj (c :: body), hw]
            simpa only [List.append_assoc] using hp
          have hlen : w.length ≤ front.length := by
            have h := congrArg List.length hw
            simp only [List.length_append, List.length_cons, List.length_nil] at h
            omega
          have hfront : w <+: front := by
            have hf : front <+: front ++ [z] ++ rest := by simp [List.append_assoc]
            exact List.prefix_of_prefix_length_le hp' hf hlen
          rcases List.eq_nil_or_concat w with rfl | ⟨v, y, rfl⟩
          · exact hbody ⟨[], [], by simpa using hw.symm⟩
          · have hy : y = z := by
              have h := congrArg List.getLast? hw
              rw [List.concat_eq_append, ← List.append_assoc, List.getLast?_concat,
                List.getLast?_concat] at h
              exact Option.some.inj h
            subst hy
            exact hz (hfront.subset (by simp))
      have hno : (front ++ [z]).isPrefixOf (c :: (body ++ (front ++ [z]) ++ rest)) = false := by
        rw [← Bool.not_eq_true, List.isPrefixOf_iff_prefix]
        simpa using hnot
      have hbody' : ¬ (front ++ [z]) <:+: body := fun h =>
        hbody (h.trans (List.suffix_cons c body).isInfix)
      have ih := lengthThrough?_mark front z hz body rest hbody'
      have hstep :
          lengthThrough? (front ++ [z]) (c :: (body ++ (front ++ [z]) ++ rest)) =
            (lengthThrough? (front ++ [z]) (body ++ (front ++ [z]) ++ rest)).map (· + 1) := by
        rw [lengthThrough?, hno]
        rfl
      rw [List.cons_append, List.cons_append, hstep, ih]
      simp
      omega

/-- A comment is read up to its end. -/
theorem shieldAt?_comment
    (body rest : List Char)
    (h : ¬ ['-', '-', '>'] <:+: body) :
    shieldAt? (['<', '!', '-', '-'] ++ body ++ ['-', '-', '>'] ++ rest) =
      some (['<', '!', '-', '-'] ++ body ++ ['-', '-', '>']).length := by
  have hend := lengthThrough?_mark ['-', '-'] '>' (by decide) body rest h
  simp only [List.cons_append, List.nil_append, List.append_assoc] at hend
  simp [shieldAt?, hend]

/-- Character data is read up to its end. -/
theorem shieldAt?_characterData
    (body rest : List Char)
    (h : ¬ [']', ']', '>'] <:+: body) :
    shieldAt? (['<', '!', '[', 'C', 'D', 'A', 'T', 'A', '['] ++ body ++ [']', ']', '>'] ++ rest) =
      some (['<', '!', '[', 'C', 'D', 'A', 'T', 'A', '['] ++ body ++ [']', ']', '>']).length := by
  have hend := lengthThrough?_mark [']', ']'] '>' (by decide) body rest h
  simp only [List.cons_append, List.nil_append, List.append_assoc] at hend
  simp [shieldAt?, hend]

/-- What ends in a `>` keeps the tags that begin in it to itself. -/
theorem tagsFrom_closed
    (rest : List Char) :
    ∀ (s : List Char) (offset skip : Nat), skip ≤ s.length → (s = [] ∨ s.getLast? = some '>') →
      ∃ inside, tagsFrom offset skip (s ++ rest) =
          inside ++ tagsFrom (offset + byteSize s) 0 rest ∧
        ∀ t ∈ inside, t.span.start < offset + byteSize s
  | [], offset, skip, hskip, _ => by
      have hzero : skip = 0 := by simpa using hskip
      exact ⟨[], by simp [hzero]⟩
  | c :: s, offset, skip, hskip, hlast => by
      have hlast' : s = [] ∨ s.getLast? = some '>' := by
        cases s with
        | nil => exact Or.inl rfl
        | cons d s => simpa using hlast
      have hsize : offset + c.utf8Size + byteSize s = offset + byteSize (c :: s) := by
        simp [Nat.add_assoc]
      cases skip with
      | succ skip =>
          obtain ⟨inside, hscan, hin⟩ :=
            tagsFrom_closed rest s (offset + c.utf8Size) skip (by simpa using hskip) hlast'
          rw [hsize] at hscan hin
          exact ⟨inside, by simp [tagsFrom, hscan], hin⟩
      | zero =>
          cases htag : tagAt? (c :: (s ++ rest)) with
          | none =>
              obtain ⟨inside, hscan, hin⟩ :=
                tagsFrom_closed rest s (offset + c.utf8Size) 0 (Nat.zero_le _) hlast'
              rw [hsize] at hscan hin
              exact ⟨inside, by rw [List.cons_append, tagsFrom_of_none offset htag, hscan], hin⟩
          | some t =>
              have hfits : t.length - 1 ≤ s.length := by
                obtain ⟨u, hu⟩ : ∃ u, c :: s = u ++ ['>'] := by
                  rcases hlast with h | h
                  · cases h
                  · exact List.getLast?_eq_some_iff.mp h
                have hread : tagAt? (u ++ '>' :: rest) = some t := by
                  rw [← htag, ← List.cons_append, hu]
                  simp
                have hle := tagAt?_length_le hread
                have hlen := congrArg List.length hu
                simp only [List.length_cons, List.length_append, List.length_nil] at hlen
                omega
              obtain ⟨inside, hscan, hin⟩ :=
                tagsFrom_closed rest s (offset + c.utf8Size) (t.length - 1) hfits hlast'
              rw [hsize] at hscan hin
              refine ⟨_ :: inside, by rw [List.cons_append, tagsFrom]; simp only [htag, hscan]; rfl, ?_⟩
              intro x hx
              rcases List.mem_cons.mp hx with rfl | hx
              · have hpos := c.utf8Size_pos
                simp only [byteSize_cons]
                omega
              · exact hin x hx

/-! ## Texts that are scanned on their own -/

/-- A text whose tags are known by where it stands, whatever follows it. -/
def Scans
    (s : List Char)
    (tags : Nat → List Tag) :
    Prop :=
  ∀ (offset : Nat) (rest : List Char), ∃ found shields,
    tagsFrom offset 0 (s ++ rest) = found ++ tagsFrom (offset + byteSize s) 0 rest ∧
      shieldsFrom offset 0 (s ++ rest) = shields ++ shieldsFrom (offset + byteSize s) 0 rest ∧
      (∀ t ∈ found, offset ≤ t.span.start ∧ t.span.start < offset + byteSize s) ∧
      (∀ r ∈ shields, offset ≤ r.start ∧ r.stop ≤ offset + byteSize s) ∧
      found.filter (fun t => !shields.any fun r => r.covers t.span.start) = tags offset

/-- Shields that end before a tag or begin after it do not cover it. -/
theorem any_covers_eq_false
    {shields : List Span}
    {position : Nat}
    (h : ∀ r ∈ shields, r.stop ≤ position ∨ position < r.start) :
    (shields.any fun r => r.covers position) = false := by
  rw [List.any_eq_false]
  intro r hr
  rcases h r hr with hr | hr
  · simp [Span.covers]
    omega
  · simp [Span.covers]
    omega

namespace Scans

variable {s u : List Char}
variable {tags tags' : Nat → List Tag}

theorem append
    (hs : Scans s tags)
    (hu : Scans u tags') :
    Scans (s ++ u) (fun offset => tags offset ++ tags' (offset + byteSize s)) := by
  intro offset rest
  obtain ⟨found, shields, htags, hshields, hfound, hcover, hfilter⟩ := hs offset (u ++ rest)
  obtain ⟨found', shields', htags', hshields', hfound', hcover', hfilter'⟩ :=
    hu (offset + byteSize s) rest
  have hsize : offset + byteSize s + byteSize u = offset + byteSize (s ++ u) := by
    simp [Nat.add_assoc]
  rw [hsize] at htags' hshields' hfound' hcover'
  refine ⟨found ++ found', shields ++ shields', ?_, ?_, ?_, ?_, ?_⟩
  · rw [List.append_assoc, htags, htags', List.append_assoc]
  · rw [List.append_assoc, hshields, hshields', List.append_assoc]
  · intro t ht
    simp only [byteSize_append] at hfound' ⊢
    rcases List.mem_append.mp ht with ht | ht
    · have h := hfound t ht
      omega
    · have h := hfound' t ht
      omega
  · intro r hr
    simp only [byteSize_append] at hcover' ⊢
    rcases List.mem_append.mp hr with hr | hr
    · have h := hcover r hr
      omega
    · have h := hcover' r hr
      omega
  · show _ = tags offset ++ tags' (offset + byteSize s)
    rw [List.filter_append, ← hfilter, ← hfilter']
    congr 1
    · refine List.filter_congr fun t ht => ?_
      have hafter : (shields'.any fun r => r.covers t.span.start) = false :=
        any_covers_eq_false fun r hr => Or.inr (by
          have h₁ := hfound t ht
          have h₂ := hcover' r hr
          omega)
      simp [hafter]
    · refine List.filter_congr fun t ht => ?_
      have hbefore : (shields.any fun r => r.covers t.span.start) = false :=
        any_covers_eq_false fun r hr => Or.inl (by
          have h₁ := hfound' t ht
          have h₂ := hcover r hr
          omega)
      simp [hbefore]

/-- The tags of a text come before those of what follows it. -/
theorem tagsOf_append
    (hs : Scans s tags)
    (offset : Nat)
    (rest : List Char) :
    tagsOf offset (s ++ rest) = tags offset ++ tagsOf (offset + byteSize s) rest := by
  obtain ⟨found, shields, htags, hshields, hfound, hcover, hfilter⟩ := hs offset rest
  rw [tagsOf, tagsOf, htags, hshields, List.filter_append, ← hfilter]
  congr 1
  · refine List.filter_congr fun t ht => ?_
    have hafter :
        ((shieldsFrom (offset + byteSize s) 0 rest).any fun r => r.covers t.span.start) = false :=
      any_covers_eq_false fun r hr => Or.inr (by
        have h₁ := hfound t ht
        have h₂ := start_of_mem_shieldsFrom rest _ _ r hr
        omega)
    simp [hafter]
  · refine List.filter_congr fun t ht => ?_
    have hbefore : (shields.any fun r => r.covers t.span.start) = false :=
      any_covers_eq_false fun r hr => Or.inl (by
        have h₁ := start_of_mem_tagsFrom rest _ _ t ht
        have h₂ := hcover r hr
        omega)
    simp [hbefore]

end Scans

end Markup
end Runbook
