import Runbook.Proofs.Markup.Scanning

/-!
# Texts that are read alike

A `<` begins something only before a slash, an exclamation mark or a character that a name may start
with. Where it begins nothing it may as well be another character: a text and the text with an equals
sign in the place of such a `<` have the same tags at the same positions, the same lines and the same
indentation. So what is known of written trees carries over to documents with tags that are not read,
such as `<é/>`.

Main statements: `Veiled.tagsOf_eq` and `Veiled.root?_eq`.
-/

namespace Runbook
namespace Markup

open Text

/-! ## What does not tell `<` from an equals sign -/

/-- A character, with an equals sign for `<`. -/
def dim (c : Char) : Char :=
  if c = '<' then '=' else c

theorem dim_of_ne
    {c : Char}
    (hc : c ≠ '<') :
    dim c = c :=
  if_neg hc

theorem dim_eq_iff
    {c d : Char}
    (h₁ : d ≠ '<')
    (h₂ : d ≠ '=') :
    dim c = d ↔ c = d := by
  by_cases hc : c = '<'
  · subst hc
    exact ⟨fun h => absurd h.symm h₂, fun h => absurd h.symm h₁⟩
  · rw [dim_of_ne hc]

theorem apply_dim
    {α : Type}
    {f : Char → α}
    (h : f '=' = f '<')
    (c : Char) :
    f (dim c) = f c := by
  by_cases hc : c = '<'
  · subst hc
    exact h
  · rw [dim_of_ne hc]

theorem utf8Size_dim (c : Char) :
    (dim c).utf8Size = c.utf8Size :=
  apply_dim (by decide) c

theorem map_dim_of_plain
    {s : List Char}
    (hs : '<' ∉ s) :
    s.map dim = s := by
  induction s with
  | nil => rfl
  | cons c s ih =>
      simp only [List.mem_cons, not_or] at hs
      rw [List.map_cons, dim_of_ne fun h => hs.1 h.symm, ih hs.2]

theorem byteSize_map_dim (s : List Char) :
    byteSize (s.map dim) = byteSize s := by
  induction s with
  | nil => rfl
  | cons c s ih => simp [utf8Size_dim, ih]

theorem splitAt?_map_dim :
    ∀ (n : Nat) (s : List Char),
      splitAt? n (s.map dim) = (splitAt? n s).map fun p => (p.1.map dim, p.2.map dim)
  | 0, s => by simp [splitAt?]
  | n + 1, [] => rfl
  | n + 1, c :: s => by
      rw [List.map_cons, splitAt?, splitAt?, utf8Size_dim]
      by_cases hc : c.utf8Size ≤ n + 1
      · rw [if_pos hc, if_pos hc, splitAt?_map_dim (n + 1 - c.utf8Size) s]
        cases splitAt? (n + 1 - c.utf8Size) s <;> simp
      · rw [if_neg hc, if_neg hc]
        rfl

theorem slice?_map_dim
    (s : List Char)
    (r : Span) :
    slice? (s.map dim) r = (slice? s r).map (List.map dim) := by
  rw [slice?, slice?]
  by_cases hle : r.start ≤ r.stop
  · rw [if_pos hle, if_pos hle, splitAt?_map_dim]
    cases splitAt? r.start s with
    | none => rfl
    | some p =>
        simp only [Option.map_some, splitAt?_map_dim, Option.map_map]
        rfl
  · rw [if_neg hle, if_neg hle]
    rfl

theorem tagEnd?_map_dim :
    ∀ s : List Char, tagEnd? (s.map dim) = tagEnd? s
  | [] => rfl
  | [c] => by
      by_cases hc : c = '<'
      · subst hc
        rfl
      · simp [dim_of_ne hc]
  | c :: d :: s => by
      have ih := tagEnd?_map_dim s
      have ih' := tagEnd?_map_dim (d :: s)
      by_cases hgt : c = '>'
      · subst hgt
        rfl
      by_cases hslash : c = '/'
      · subst hslash
        by_cases hd : d = '>'
        · subst hd
          rfl
        · have hd' : dim d ≠ '>' := fun h => hd ((dim_eq_iff (by decide) (by decide)).mp h)
          simp [tagEnd?, ih, dim_of_ne (show ('/' : Char) ≠ '<' by decide)]
      · have hgt' : dim c ≠ '>' := fun h => hgt ((dim_eq_iff (by decide) (by decide)).mp h)
        have hslash' : dim c ≠ '/' := fun h => hslash ((dim_eq_iff (by decide) (by decide)).mp h)
        have hstep : tagEnd? (c :: d :: s) = (tagEnd? (d :: s)).map fun p => (p.1, p.2 + 1) := by
          simp [tagEnd?, hslash]
        have hstep' : tagEnd? ((c :: d :: s).map dim) =
            (tagEnd? ((d :: s).map dim)).map fun p => (p.1, p.2 + 1) := by
          simp [tagEnd?, hslash']
        rw [hstep, hstep', ih']

theorem takeWhile_map_dim
    (s : List Char) :
    (s.map dim).takeWhile continuesName = s.takeWhile continuesName ∧
      (s.map dim).dropWhile continuesName = (s.dropWhile continuesName).map dim := by
  induction s with
  | nil => exact ⟨rfl, rfl⟩
  | cons c s ih =>
      by_cases hc : continuesName c = true
      · have hne : c ≠ '<' := continuesName_ne hc (by decide)
        simp [dim_of_ne hne, hc, ih]
      · have hdim : continuesName (dim c) = continuesName c := apply_dim (by decide) c
        simp [hdim, hc]

theorem tagBody?_map_dim
    (closing : Bool)
    (taken : Nat)
    (s : List Char) :
    tagBody? closing taken (s.map dim) = tagBody? closing taken s := by
  cases s with
  | nil => rfl
  | cons c s =>
      by_cases hc : startsName c = true
      · have hne : c ≠ '<' := startsName_ne hc (by decide)
        obtain ⟨htake, hdrop⟩ := takeWhile_map_dim s
        simp [tagBody?, dim_of_ne hne, hc, htake, hdrop, tagEnd?_map_dim]
      · have hdim : startsName (dim c) = startsName c := apply_dim (by decide) c
        simp [tagBody?, hdim, hc]

/-- What a `<` begins does not depend on which of the characters after it are `<`. -/
theorem tagAt?_cons_map_dim (s : List Char) :
    tagAt? ('<' :: s.map dim) = tagAt? ('<' :: s) := by
  by_cases hslash : ∃ r, s = '/' :: r
  · obtain ⟨r, rfl⟩ := hslash
    exact tagBody?_map_dim true 2 r
  · have hopen : tagAt? ('<' :: s) = tagBody? false 1 s := by
      cases s with
      | nil => rfl
      | cons c r =>
          have hc : c ≠ '/' := fun h => hslash ⟨r, by rw [h]⟩
          simp [tagAt?, hc]
    have hopen' : tagAt? ('<' :: s.map dim) = tagBody? false 1 (s.map dim) := by
      cases s with
      | nil => rfl
      | cons c r =>
          have hc : dim c ≠ '/' := fun h =>
            hslash ⟨r, by rw [(dim_eq_iff (by decide) (by decide)).mp h]⟩
          simp [tagAt?, hc]
    rw [hopen, hopen', tagBody?_map_dim]

theorem isPrefixOf_map_dim
    {mark : List Char}
    (h₁ : '<' ∉ mark)
    (h₂ : '=' ∉ mark)
    (s : List Char) :
    mark.isPrefixOf (s.map dim) = mark.isPrefixOf s := by
  induction mark generalizing s with
  | nil => rfl
  | cons d mark ih =>
      simp only [List.mem_cons, not_or] at h₁ h₂
      cases s with
      | nil => rfl
      | cons c s =>
          have hiff : (d == dim c) = (d == c) := by
            rw [Bool.eq_iff_iff, beq_iff_eq, beq_iff_eq, eq_comm,
              dim_eq_iff (fun h => h₁.1 h.symm) (fun h => h₂.1 h.symm), eq_comm]
          rw [List.map_cons, List.isPrefixOf, List.isPrefixOf, hiff, ih h₁.2 h₂.2]

theorem lengthThrough?_map_dim
    {mark : List Char}
    (h₁ : '<' ∉ mark)
    (h₂ : '=' ∉ mark)
    (s : List Char) :
    lengthThrough? mark (s.map dim) = lengthThrough? mark s := by
  induction s with
  | nil => rfl
  | cons c s ih =>
      have hprefix := isPrefixOf_map_dim h₁ h₂ (c :: s)
      rw [List.map_cons] at hprefix ⊢
      rw [lengthThrough?, lengthThrough?, hprefix, ih]

/-- A shield by the marks that a text may begin with after its `<`. -/
theorem shieldAt?_cons (s : List Char) :
    shieldAt? ('<' :: s) =
      if ['!', '-', '-'].isPrefixOf s then
        (lengthThrough? ['-', '-', '>'] (s.drop 3)).map (· + 4)
      else if ['!', '[', 'C', 'D', 'A', 'T', 'A', '['].isPrefixOf s then
        (lengthThrough? [']', ']', '>'] (s.drop 8)).map (· + 9)
      else
        none := by
  by_cases hcomment : ['!', '-', '-'].isPrefixOf s = true
  · obtain ⟨r, rfl⟩ := List.isPrefixOf_iff_prefix.mp hcomment
    rfl
  · rw [if_neg hcomment]
    by_cases hdata : ['!', '[', 'C', 'D', 'A', 'T', 'A', '['].isPrefixOf s = true
    · obtain ⟨r, rfl⟩ := List.isPrefixOf_iff_prefix.mp hdata
      rfl
    · rw [if_neg hdata]
      unfold shieldAt?
      split
      · rename_i r heq
        rw [(List.cons.inj heq).2] at hcomment
        simp at hcomment
      · rename_i r heq
        rw [(List.cons.inj heq).2] at hdata
        simp at hdata
      · rfl

theorem shieldAt?_cons_map_dim (s : List Char) :
    shieldAt? ('<' :: s.map dim) = shieldAt? ('<' :: s) := by
  have hcomment := @isPrefixOf_map_dim ['!', '-', '-'] (by decide) (by decide) s
  have hdata :=
    @isPrefixOf_map_dim ['!', '[', 'C', 'D', 'A', 'T', 'A', '['] (by decide) (by decide) s
  rw [shieldAt?_cons, shieldAt?_cons, hcomment, hdata, ← List.map_drop, ← List.map_drop,
    lengthThrough?_map_dim (by decide) (by decide), lengthThrough?_map_dim (by decide) (by decide)]

theorem lastLine_map_dim (s : List Char) :
    lastLine (s.map dim) = (lastLine s).map dim := by
  induction s using List.reverseRecOn with
  | nil => rfl
  | append_singleton s c ih =>
      rw [List.map_append, List.map_singleton, lastLine_concat, lastLine_concat]
      by_cases hc : c = '\n'
      · subst hc
        rfl
      · have hdim : dim c ≠ '\n' := fun h => hc ((dim_eq_iff (by decide) (by decide)).mp h)
        rw [if_neg hc, if_neg hdim, ih, List.map_append, List.map_singleton]

theorem indentAfter_map_dim (s : List Char) :
    indentAfter (s.map dim) = indentAfter s := by
  have hall : ((lastLine s).map dim).all indents = (lastLine s).all indents := by
    rw [List.all_map]
    exact List.all_congr rfl fun c => apply_dim (by decide) c
  rw [indentAfter, indentAfter, lastLine_map_dim, hall]
  by_cases h : (lastLine s).all indents = true
  · have hplain : '<' ∉ lastLine s := fun hmem =>
      absurd (List.all_eq_true.mp h _ hmem) (by decide)
    rw [if_pos h, if_pos h, map_dim_of_plain hplain]
  · rw [if_neg h, if_neg h]

theorem lineIndent_map_dim
    (s : List Char)
    (offset : Nat) :
    lineIndent (s.map dim) offset = lineIndent s offset := by
  have hcut := splitAt?_map_dim offset s
  rw [lineIndent, lineIndent]
  cases h : splitAt? offset s with
  | none =>
      rw [h] at hcut
      rw [hcut]
      rfl
  | some p =>
      rw [h] at hcut
      rw [hcut]
      exact indentAfter_map_dim p.1

theorem lineStart_map_dim
    (s : List Char)
    (offset : Nat) :
    lineStart (s.map dim) offset = lineStart s offset := by
  have hcut := splitAt?_map_dim offset s
  rw [lineStart, lineStart]
  cases h : splitAt? offset s with
  | none =>
      rw [h] at hcut
      rw [hcut]
      rfl
  | some p =>
      rw [h] at hcut
      rw [hcut]
      simp only [Option.map_some, lastLine_map_dim, byteSize_map_dim]

/-! ## Veiled texts -/

/-- A character that begins neither a tag nor a shield nor a declaration after a `<`. -/
def startsNothing (c : Char) : Bool :=
  !startsName c && c != '/' && c != '!' && c != '<'

/-- A text that a `<` before it makes nothing of. -/
inductive Inert : List Char → Prop
  | opening {c : Char} {s : List Char} (hc : startsNothing c = true) : Inert (c :: s)
  | closing {c : Char} {s : List Char} (hc : startsNothing c = true) : Inert ('/' :: c :: s)

/-- A text, and the same text with equals signs in the place of some `<` that begin nothing. -/
inductive Veiled : List Char → List Char → Prop
  | nil : Veiled [] []
  | keep {s t : List Char} (c : Char) (rest : Veiled s t) : Veiled (c :: s) (c :: t)
  | hide {s t : List Char} (inert : Inert s) (rest : Veiled s t) : Veiled ('<' :: s) ('=' :: t)

theorem startsName_of_startsNothing
    {c : Char}
    (hc : startsNothing c = true) :
    startsName c = false := by
  simp only [startsNothing, Bool.and_eq_true, Bool.not_eq_true'] at hc
  exact hc.1.1.1

theorem ne_of_startsNothing
    {c : Char}
    (hc : startsNothing c = true) :
    c ≠ '/' ∧ c ≠ '!' ∧ c ≠ '<' := by
  simp only [startsNothing, Bool.and_eq_true, bne_iff_ne] at hc
  exact ⟨hc.1.1.2, hc.1.2, hc.2⟩

namespace Inert

variable {s u v : List Char}

theorem append
    (h : Inert s)
    (u : List Char) :
    Inert (s ++ u) := by
  cases h with
  | opening hc => exact opening hc
  | closing hc => exact closing hc

theorem tagAt?_eq_none (h : Inert s) :
    tagAt? ('<' :: s) = none := by
  cases h with
  | @opening c s hc =>
      have hslash := (ne_of_startsNothing hc).1
      simp [tagAt?, tagBody?, hslash, startsName_of_startsNothing hc]
  | @closing c s hc => simp [tagAt?, tagBody?, startsName_of_startsNothing hc]

theorem shieldAt?_eq_none (h : Inert s) :
    shieldAt? ('<' :: s) = none := by
  cases h with
  | @opening c s hc =>
      have hmark := (ne_of_startsNothing hc).2.1
      simp [shieldAt?, hmark]
  | closing hc => simp [shieldAt?]

/-- What makes nothing of a `<` still does when the end is cut off, unless too little is left. -/
theorem of_append
    (h : Inert (u ++ v))
    (hshort : u = [] ∨ u = ['/'] → v = [] ∨ v.head? = some '<') :
    Inert u := by
  match u, h, hshort with
  | [], h, hshort =>
      rcases hshort (Or.inl rfl) with rfl | hv
      · cases h
      · obtain ⟨r, rfl⟩ : ∃ r, v = '<' :: r := List.head?_eq_some_iff.mp hv
        cases h with
        | opening hc => exact absurd hc (by decide)
  | [c], h, hshort =>
      cases h with
      | opening hc => exact opening hc
      | @closing d s hd =>
          exfalso
          rcases hshort (Or.inr rfl) with h | h
          · cases h
          · rw [List.head?_cons, Option.some.injEq] at h
            exact (ne_of_startsNothing hd).2.2 h
  | c :: d :: u, h, _ =>
      cases h with
      | opening hc => exact opening hc
      | closing hd => exact closing hd

end Inert

namespace Veiled

variable {s t u v u' v' : List Char}

theorem refl : ∀ s : List Char, Veiled s s
  | [] => nil
  | c :: s => keep c (refl s)

theorem append
    (h : Veiled s t)
    (hu : Veiled u v) :
    Veiled (s ++ u) (t ++ v) := by
  induction h with
  | nil => exact hu
  | keep c _ ih => exact keep c ih
  | hide inert _ ih => exact hide (inert.append u) ih

/-- A `<` that begins nothing may stand in plain text. -/
theorem exists_piece
    (h : Inert s)
    (hs : '<' ∉ s) :
    ∃ p : Piece, Veiled ('<' :: s) p.write :=
  ⟨.text ('=' :: s) (by simp [hs]), hide h (refl s)⟩

theorem map_dim_eq
    (h : Veiled s t) :
    s.map dim = t.map dim := by
  induction h with
  | nil => rfl
  | keep c _ ih => rw [List.map_cons, List.map_cons, ih]
  | hide _ _ ih => rw [List.map_cons, List.map_cons, ih]; rfl

/-- What does not tell `<` from an equals sign does not tell the texts apart. -/
theorem apply_eq
    {α : Type}
    {f : List Char → α}
    (hf : ∀ s, f (s.map dim) = f s)
    (h : Veiled s t) :
    f s = f t := by
  rw [← hf s, ← hf t, h.map_dim_eq]

theorem byteSize_eq
    (h : Veiled s t) :
    byteSize s = byteSize t :=
  h.apply_eq byteSize_map_dim

theorem lineIndent_eq
    (h : Veiled s t)
    (offset : Nat) :
    lineIndent s offset = lineIndent t offset :=
  h.apply_eq (f := fun s => lineIndent s offset) fun s => lineIndent_map_dim s offset

theorem lineStart_eq
    (h : Veiled s t)
    (offset : Nat) :
    lineStart s offset = lineStart t offset :=
  h.apply_eq (f := fun s => lineStart s offset) fun s => lineStart_map_dim s offset

/-! ## Tags -/

theorem tagAt?_eq
    (h : Veiled s t) :
    tagAt? s = tagAt? t := by
  cases h with
  | nil => rfl
  | @keep s t c rest =>
      by_cases hc : c = '<'
      · subst hc
        exact rest.apply_eq (f := fun s => tagAt? ('<' :: s)) tagAt?_cons_map_dim
      · rw [Markup.tagAt?_eq_none hc, Markup.tagAt?_eq_none hc]
  | hide inert rest =>
      rw [inert.tagAt?_eq_none, Markup.tagAt?_eq_none (by decide)]

theorem shieldAt?_eq
    (h : Veiled s t) :
    shieldAt? s = shieldAt? t := by
  cases h with
  | nil => rfl
  | @keep s t c rest =>
      by_cases hc : c = '<'
      · subst hc
        exact rest.apply_eq (f := fun s => shieldAt? ('<' :: s)) shieldAt?_cons_map_dim
      · rw [Markup.shieldAt?_eq_none hc, Markup.shieldAt?_eq_none hc]
  | hide inert rest =>
      rw [inert.shieldAt?_eq_none, Markup.shieldAt?_eq_none (by decide)]

theorem byteSize_take_eq
    (h : Veiled s t)
    (n : Nat) :
    byteSize (s.take n) = byteSize (t.take n) :=
  h.apply_eq (f := fun s => byteSize (s.take n)) fun s => by
    rw [← List.map_take, byteSize_map_dim]

theorem tagsFrom_cons_eq
    {c d : Char}
    (h : Veiled (c :: s) (d :: t))
    (hsize : c.utf8Size = d.utf8Size)
    (ih : ∀ offset skip, tagsFrom offset skip s = tagsFrom offset skip t) :
    ∀ offset skip, tagsFrom offset skip (c :: s) = tagsFrom offset skip (d :: t)
  | offset, skip + 1 => by rw [tagsFrom, tagsFrom, hsize, ih]
  | offset, 0 => by
      have htag := h.tagAt?_eq
      cases hform : tagAt? (d :: t) with
      | none => rw [tagsFrom_of_none offset (htag.trans hform), tagsFrom_of_none offset hform, hsize, ih]
      | some form =>
          rw [hform] at htag
          simp only [tagsFrom, htag, hform, hsize, ih, h.byteSize_take_eq]

theorem tagsFrom_eq
    (h : Veiled s t) :
    ∀ offset skip, tagsFrom offset skip s = tagsFrom offset skip t := by
  induction h with
  | nil => exact fun _ _ => rfl
  | keep c rest ih => exact tagsFrom_cons_eq (keep c rest) rfl ih
  | hide inert rest ih => exact tagsFrom_cons_eq (hide inert rest) (by decide) ih

theorem shieldsFrom_cons_eq
    {c d : Char}
    (h : Veiled (c :: s) (d :: t))
    (hsize : c.utf8Size = d.utf8Size)
    (ih : ∀ offset skip, shieldsFrom offset skip s = shieldsFrom offset skip t) :
    ∀ offset skip, shieldsFrom offset skip (c :: s) = shieldsFrom offset skip (d :: t)
  | offset, skip + 1 => by rw [shieldsFrom, shieldsFrom, hsize, ih]
  | offset, 0 => by
      have hshield := h.shieldAt?_eq
      cases hlength : shieldAt? (d :: t) with
      | none =>
          rw [shieldsFrom_of_none offset (hshield.trans hlength),
            shieldsFrom_of_none offset hlength, hsize, ih]
      | some n =>
          rw [hlength] at hshield
          simp only [shieldsFrom, hshield, hlength, hsize, ih, h.byteSize_take_eq]

theorem shieldsFrom_eq
    (h : Veiled s t) :
    ∀ offset skip, shieldsFrom offset skip s = shieldsFrom offset skip t := by
  induction h with
  | nil => exact fun _ _ => rfl
  | keep c rest ih => exact shieldsFrom_cons_eq (keep c rest) rfl ih
  | hide inert rest ih => exact shieldsFrom_cons_eq (hide inert rest) (by decide) ih

/-- Texts that are read alike have the same tags. -/
theorem tagsOf_eq
    (h : Veiled s t)
    (offset : Nat) :
    tagsOf offset s = tagsOf offset t := by
  rw [tagsOf, tagsOf, h.tagsFrom_eq, h.shieldsFrom_eq]

/-- Texts that are read alike have the same root. -/
theorem root?_eq
    (h : Veiled s t) :
    root? s = root? t := by
  have hs := (StandsAt.whole s).slice?_eq
  have ht := (StandsAt.whole t).slice?_eq
  rw [Nat.zero_add] at hs ht
  simp only [root?, elementsIn, tagsIn, hs, ht, h.tagsOf_eq]

end Veiled

end Markup
end Runbook
