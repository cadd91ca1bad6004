import Mathlib.Tactic
import Mathlib.Data.List.Basic
import Runbook.Text.Pieces
import Runbook.Text.Letter

/-!
# Trimming

A trimmed text begins and ends with a character that is not blank, or is empty, and it is the only
such part of a text with nothing but blanks around it.
-/

namespace Runbook
namespace Text

/-- A text that neither begins nor ends with a blank. -/
structure Tight (s : List Char) : Prop where
  head : ∀ c, s.head? = some c → isBlank c = false
  last : ∀ c, s.getLast? = some c → isBlank c = false

theorem tight_nil :
    Tight [] :=
  ⟨by simp, by simp⟩

theorem tight_of_not_blank
    {s : List Char}
    (h : ∀ c ∈ s, isBlank c = false) :
    Tight s :=
  ⟨fun c hc => h c (List.mem_of_head? hc), fun c hc => h c (List.mem_of_getLast? hc)⟩

@[simp] theorem allBlank_nil :
    allBlank [] = true := by
  rfl

@[simp] theorem allBlank_cons
    (c : Char)
    (s : List Char) :
    allBlank (c :: s) = (isBlank c && allBlank s) := by
  rfl

@[simp] theorem allBlank_append
    (u v : List Char) :
    allBlank (u ++ v) = (allBlank u && allBlank v) := by
  simp [allBlank]

theorem isBlank_of_mem
    {s : List Char}
    {c : Char}
    (hs : allBlank s = true)
    (hc : c ∈ s) :
    isBlank c = true :=
  List.all_eq_true.mp hs c hc

/-- In a text without blanks no character is one. -/
theorem isBlank_eq_false_of_any
    {s : List Char}
    (hs : s.any isBlank = false) :
    ∀ c ∈ s, isBlank c = false := by
  simpa using hs

/-- Only the empty text is both tight and blank. -/
theorem Tight.eq_nil
    {s : List Char}
    (hs : Tight s)
    (hblank : allBlank s = true) :
    s = [] := by
  cases s with
  | nil => rfl
  | cons c s =>
      have hc := hs.head c rfl
      simp [hc] at hblank

theorem trimLeft_append
    {u : List Char}
    (hu : allBlank u = true)
    (s : List Char) :
    trimLeft (u ++ s) = trimLeft s := by
  induction u with
  | nil => rfl
  | cons c u ih =>
      simp only [allBlank_cons, Bool.and_eq_true] at hu
      simp [trimLeft, hu.1]
      exact ih hu.2

theorem trimRight_blank
    {w : List Char}
    (hw : allBlank w = true) :
    trimRight w = [] := by
  induction w with
  | nil => rfl
  | cons c w ih =>
      simp only [allBlank_cons, Bool.and_eq_true] at hw
      simp [trimRight, ih hw.2, hw.1]

theorem trimRight_append
    {w : List Char}
    (hw : allBlank w = true)
    (s : List Char) :
    trimRight (s ++ w) = trimRight s := by
  induction s with
  | nil => simpa [trimRight] using trimRight_blank hw
  | cons c s ih => simp [trimRight, ih]

theorem trimRight_of_last
    {s : List Char}
    (hs : ∀ c, s.getLast? = some c → isBlank c = false) :
    trimRight s = s := by
  induction s with
  | nil => rfl
  | cons c s ih =>
      cases s with
      | nil =>
          have hc := hs c rfl
          simp [trimRight, hc]
      | cons d s =>
          have hrest := ih fun e he => hs e (by simpa using he)
          rw [trimRight, hrest]

/-- What is tight is left when blanks are cut off around it. -/
theorem trim_append
    {u core w : List Char}
    (hu : allBlank u = true)
    (hcore : Tight core)
    (hw : allBlank w = true) :
    trim (u ++ core ++ w) = core := by
  have hleft : trimLeft (core ++ w) = core ++ w ∨ core = [] := by
    cases core with
    | nil => exact Or.inr rfl
    | cons c core =>
        have hc := hcore.head c rfl
        left
        simp [trimLeft, hc]
  rw [trim, List.append_assoc, trimLeft_append hu]
  rcases hleft with hleft | rfl
  · rw [hleft, trimRight_append hw, trimRight_of_last hcore.last]
  · have hnil := trimLeft_append hw []
    rw [List.append_nil] at hnil
    rw [List.nil_append, hnil]
    rfl

theorem trim_of_tight
    {s : List Char}
    (hs : Tight s) :
    trim s = s := by
  simpa using trim_append allBlank_nil hs allBlank_nil

theorem trim_blank
    {s : List Char}
    (hs : allBlank s = true) :
    trim s = [] := by
  simpa using trim_append hs tight_nil allBlank_nil

/-- The blanks that `trimRight` cuts off. -/
theorem exists_trimRight
    (s : List Char) :
    ∃ w, s = trimRight s ++ w ∧ allBlank w = true ∧
      ∀ c, (trimRight s).getLast? = some c → isBlank c = false := by
  induction s with
  | nil => exact ⟨[], rfl, rfl, by simp [trimRight]⟩
  | cons c s ih =>
      obtain ⟨w, hs, hw, hlast⟩ := ih
      cases hrest : trimRight s with
      | nil =>
          rw [hrest, List.nil_append] at hs
          subst hs
          by_cases hc : isBlank c = true
          · exact ⟨c :: s, by simp [trimRight, hrest, hc], by simp [hc, hw],
              by simp [trimRight, hrest, hc]⟩
          · refine ⟨s, by simp [trimRight, hrest, hc], hw, ?_⟩
            simp [trimRight, hrest, hc]
      | cons d t =>
          rw [hrest] at hs hlast
          refine ⟨w, ?_, hw, ?_⟩
          · rw [trimRight, hrest, List.cons_append, ← hs]
          · intro e he
            rw [trimRight, hrest] at he
            exact hlast e (by simpa using he)

/-- The blanks that `trim` cuts off. -/
theorem exists_trim
    (s : List Char) :
    ∃ u w, s = u ++ trim s ++ w ∧ allBlank u = true ∧ Tight (trim s) ∧ allBlank w = true := by
  have hfront : s = s.takeWhile isBlank ++ trimLeft s :=
    (List.takeWhile_append_dropWhile).symm
  have hblank : allBlank (s.takeWhile isBlank) = true := by
    exact List.all_takeWhile
  obtain ⟨w, hback, hw, hlast⟩ := exists_trimRight (trimLeft s)
  refine ⟨s.takeWhile isBlank, w, ?_, hblank, ⟨?_, hlast⟩, hw⟩
  · rw [List.append_assoc, trim, ← hback, ← hfront]
  · intro c hc
    have hhead : (trimLeft s).head? = some c := by
      rw [hback]
      rw [trim] at hc
      cases htr : trimRight (trimLeft s) with
      | nil => simp [htr] at hc
      | cons d t => simpa [htr] using hc
    have hnot := List.head?_dropWhile_not isBlank s
    rw [trimLeft] at hhead
    simpa [hhead] using hnot

theorem trimRight_eq_nil_iff
    (s : List Char) :
    trimRight s = [] ↔ allBlank s = true := by
  constructor
  · intro hnil
    obtain ⟨w, hs, hw, -⟩ := exists_trimRight s
    rw [hs, hnil, List.nil_append]
    exact hw
  · exact trimRight_blank

theorem tight_trim (s : List Char) :
    Tight (trim s) := by
  obtain ⟨-, -, -, -, h, -⟩ := exists_trim s
  exact h

/-- Nothing is left of blanks alone. -/
theorem trim_eq_nil_iff
    (s : List Char) :
    trim s = [] ↔ allBlank s = true := by
  constructor
  · intro hnil
    obtain ⟨u, w, hs, hu, -, hw⟩ := exists_trim s
    rw [hs, hnil]
    simp [hu, hw]
  · exact trim_blank

/-! ## Texts without what they begin or end with -/

section Ends

variable {p s t : List Char}

theorem dropPrefix?_eq_some_iff :
    dropPrefix? p s = some t ↔ s = p ++ t := by
  induction p generalizing s with
  | nil => simp [dropPrefix?]
  | cons c p ih =>
      cases s with
      | nil => simp [dropPrefix?]
      | cons d s =>
          by_cases hcd : c = d
          · subst hcd
            simp [dropPrefix?, ih]
          · simp [dropPrefix?, hcd, Ne.symm hcd]

theorem dropSuffix?_eq_some_iff :
    dropSuffix? p s = some t ↔ s = t ++ p := by
  rw [dropSuffix?, Option.map_eq_some_iff]
  constructor
  · rintro ⟨u, hu, rfl⟩
    have hreverse : s.reverse = p.reverse ++ u := dropPrefix?_eq_some_iff.mp hu
    rw [← List.reverse_inj, hreverse]
    simp
  · rintro rfl
    exact ⟨t.reverse, dropPrefix?_eq_some_iff.mpr (by simp), List.reverse_reverse t⟩

end Ends

/-- The code points of blank characters. -/
def blankCodes : List Nat :=
  [ 0x20, 0x09, 0x0a, 0x0b, 0x0c, 0x0d, 0x85, 0xa0, 0x1680, 0x2000, 0x2001, 0x2002, 0x2003, 0x2004,
    0x2005, 0x2006, 0x2007, 0x2008, 0x2009, 0x200a, 0x2028, 0x2029, 0x202f, 0x205f, 0x3000 ]

theorem toNat_mem_blankCodes
    {c : Char}
    (h : isBlank c = true) :
    c.toNat ∈ blankCodes := by
  simp only [isBlank, Bool.or_eq_true, Bool.and_eq_true, beq_iff_eq, decide_eq_true_eq] at h
  simp only [blankCodes, List.mem_cons, List.not_mem_nil, or_false]
  omega

/-- A blank is no part of a word. -/
theorem isWord_eq_false_of_isBlank
    {c : Char}
    (h : isBlank c = true) :
    isWord c = false := by
  have hcodes : ∀ n ∈ blankCodes, isWord (Char.ofNat n) = false := by decide +kernel
  rw [← Char.ofNat_toNat c]
  exact hcodes _ (toNat_mem_blankCodes h)

end Text
end Runbook
