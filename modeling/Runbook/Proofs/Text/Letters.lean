import Runbook.Proofs.Text.Trimming
import Runbook.Text.Kebab

/-!
# Letters in lower case

The tables of capitals and of their lower-case forms are read run by run. What a capital becomes is a
character of a word again, is no capital, and is its own lower-case form: the runs that the capitals
are moved to lie apart from all others.

Main statement: `lowercase_eq_or_isSmall`.
-/

namespace Runbook
namespace Text

/-! ## Runs of code points -/

/-- Every code point of a run, moved. -/
def Run.shift
    (r : Run)
    (distance : Int) :
    Run :=
  ⟨(r.lo + distance).toNat, (r.hi + distance).toNat, r.step⟩

theorem Run.shift_has
    {r : Run}
    {distance : Int}
    {n : Nat}
    (hpos : 0 ≤ (r.lo : Int) + distance)
    (h : r.has n = true) :
    (r.shift distance).has (n + distance).toNat = true := by
  simp only [Run.has, Bool.and_eq_true, decide_eq_true_eq, beq_iff_eq] at h ⊢
  obtain ⟨⟨hlow, hhigh⟩, hstep⟩ := h
  have hoffset : ((n : Int) + distance).toNat - ((r.lo : Int) + distance).toNat = n - r.lo := by
    omega
  refine ⟨⟨?_, ?_⟩, ?_⟩
  · exact Int.toNat_le_toNat (by omega)
  · exact Int.toNat_le_toNat (by omega)
  · exact (congrArg (· % r.step) hoffset).trans hstep

/-- Whether it can be seen from the ends of two runs that they share nothing: one ends before the
other starts, or one holds every second code point and the other begins between two of them and goes
on in the same way. -/
def Run.apart (r r' : Run) : Bool :=
  r.hi.blt r'.lo || r'.hi.blt r.lo ||
    ((r.step == 2 || r.lo == r.hi) && r'.step == 2 && (r.lo + r'.lo) % 2 == 1)

theorem Run.apart_has
    {r r' : Run}
    {n : Nat}
    (hapart : r.apart r' = true)
    (h : r.has n = true) :
    r'.has n = false := by
  rw [Bool.eq_false_iff]
  intro h'
  simp only [Run.has, Run.apart, Bool.and_eq_true, Bool.or_eq_true, decide_eq_true_eq,
    beq_iff_eq, Nat.blt_eq] at h h' hapart
  obtain ⟨⟨hlow, hhigh⟩, hstep⟩ := h
  obtain ⟨⟨hlow', hhigh'⟩, hstep'⟩ := h'
  rcases hapart with (hapart | hapart) | ⟨⟨hsecond | hsingle, hsecond'⟩, hodd⟩
  · omega
  · omega
  · rw [hsecond] at hstep
    rw [hsecond'] at hstep'
    omega
  · rw [hsecond'] at hstep'
    omega

/-! ## Characters of words -/

theorem isWordGap_of_isBlank
    {c : Char}
    (hc : isBlank c = true) :
    isWordGap c = true := by
  simp [isWordGap, hc]

/-- The code points of characters that separate words. -/
def gapCodes : List Nat :=
  0x5f :: 0x2d :: blankCodes

theorem toNat_mem_gapCodes
    {c : Char}
    (h : isWordGap c = true) :
    c.toNat ∈ gapCodes := by
  simp only [isWordGap, Bool.or_eq_true, decide_eq_true_eq] at h
  rcases h with (rfl | rfl) | hblank
  · decide
  · decide
  · exact List.mem_cons_of_mem _ (List.mem_cons_of_mem _ (toNat_mem_blankCodes hblank))

/-- What separates words is neither a letter in some case nor a digit. -/
theorem not_cased_of_isWordGap
    {c : Char}
    (hc : isWordGap c = true) :
    isLowercase c = false ∧ isUppercase c = false ∧ c.isDigit = false := by
  have hcodes : ∀ n ∈ gapCodes, isLowercase (Char.ofNat n) = false ∧
      isUppercase (Char.ofNat n) = false ∧ (Char.ofNat n).isDigit = false := by
    decide +kernel
  rw [← Char.ofNat_toNat c]
  exact hcodes _ (toNat_mem_gapCodes hc)

/-- A character that belongs to a word, is no capital, and is its own lower-case form. -/
structure IsSmall (c : Char) : Prop where
  gap : isWordGap c = false
  upper : isUppercase c = false
  lower : lowercase c = [c]

instance (c : Char) : Decidable (IsSmall c) :=
  decidable_of_iff (isWordGap c = false ∧ isUppercase c = false ∧ lowercase c = [c])
    ⟨fun h => ⟨h.1, h.2.1, h.2.2⟩, fun h => ⟨h.gap, h.upper, h.lower⟩⟩

/-- The code points of characters that separate words, are capitals, or have another form in lower
case. -/
def otherRuns : List Run :=
  gapCodes.map (fun n => ⟨n, n, 1⟩) ++ ⟨0x41, 0x5a, 1⟩ :: ⟨0x130, 0x130, 1⟩ :: upperRuns ++
    lowerShifts.map Prod.fst

theorem isUpper_iff
    {c : Char} :
    c.isUpper = true ↔ 65 ≤ c.toNat ∧ c.toNat ≤ 90 :=
  decide_eq_true_iff

theorem isSmall_of_otherRuns
    {c : Char}
    (h : ∀ r ∈ otherRuns, r.has c.toNat = false) :
    IsSmall c := by
  have hgap : ∀ n ∈ gapCodes, c.toNat ≠ n := by
    intro n hn heq
    have hrun := h ⟨n, n, 1⟩ (List.mem_append_left _ (List.mem_append_left _
      (List.mem_map_of_mem hn)))
    simp [Run.has, heq] at hrun
  have hupper : ∀ r ∈ upperRuns, r.has c.toNat = false := fun r hr => h r (by simp [otherRuns, hr])
  have hlower : ∀ p ∈ lowerShifts, p.1.has c.toNat = false := fun p hp =>
    h p.1 (List.mem_append_right _ (List.mem_map_of_mem hp))
  have hcapital : c.isUpper = false := by
    have hrun := h ⟨0x41, 0x5a, 1⟩ (by simp [otherRuns])
    rw [Bool.eq_false_iff]
    intro hc
    obtain ⟨hlow, hhigh⟩ := isUpper_iff.mp hc
    simp [Run.has, hlow, hhigh, Nat.mod_one] at hrun
  have hdotted : c.toNat ≠ 0x130 := by
    have hrun := h ⟨0x130, 0x130, 1⟩ (by simp [otherRuns])
    intro heq
    simp [Run.has, heq] at hrun
  have hfound : lowerShifts.find? (fun p => p.1.has c.toNat) = none := by
    rw [List.find?_eq_none]
    intro p hp
    rw [hlower p hp]
    exact Bool.false_ne_true
  refine ⟨?_, ?_, ?_⟩
  · rw [Bool.eq_false_iff]
    exact fun hc => hgap _ (toNat_mem_gapCodes hc) rfl
  · rw [isUppercase]
    split
    · exact hcapital
    · simpa using hupper
  · simp [lowercase, hcapital, hdotted, hfound]

/-- No run is moved below zero. -/
theorem lowerShifts_nonneg :
    ∀ p ∈ lowerShifts, 0 ≤ (p.1.lo : Int) + p.2 := by
  decide +kernel

/-- What capitals become is apart from everything that is not small. -/
theorem lowerShifts_apart :
    (lowerShifts.all fun p => otherRuns.all fun r => (p.1.shift p.2).apart r) = true := by
  decide +kernel

theorem isSmall_ofNat
    {n : Nat}
    (h : ∀ r ∈ otherRuns, r.has n = false) :
    IsSmall (Char.ofNat n) := by
  by_cases hvalid : n.isValidChar
  · have hnat : (Char.ofNat n).toNat = n := by
      rw [Char.ofNat, dif_pos hvalid]
      rfl
    exact isSmall_of_otherRuns fun r hr => by rw [hnat]; exact h r hr
  · rw [Char.ofNat, dif_neg hvalid]
    decide

/-- The lower-case form of a character is the character itself, or consists of small ones. -/
theorem lowercase_eq_or_isSmall
    (c : Char) :
    lowercase c = [c] ∨ ∀ x ∈ lowercase c, IsSmall x := by
  rw [lowercase]
  split
  · by_cases hc : c.isUpper = true
    · right
      have hletters : ∀ n ∈ List.range' 65 26, IsSmall (Char.ofNat (n + 32)) := by decide +kernel
      have hletter := hletters c.toNat (by have := isUpper_iff.mp hc; simp; omega)
      simpa [hc] using hletter
    · exact Or.inl (by simp [hc])
  · split
    · have hi : IsSmall 'i' := by decide
      have hdot : IsSmall '\u0307' := by decide +kernel
      exact Or.inr fun x hx => by rcases List.mem_pair.mp hx with rfl | rfl <;> assumption
    · split
      · rename_i run distance hfound
        right
        have hmem := List.mem_of_find?_eq_some hfound
        have hrun : run.has c.toNat = true := by simpa using List.find?_some hfound
        have hmoved := Run.shift_has (lowerShifts_nonneg _ hmem) hrun
        have hapart := List.all_eq_true.mp (List.all_eq_true.mp lowerShifts_apart _ hmem)
        have hsmall := isSmall_ofNat fun r hr => Run.apart_has (hapart r hr) hmoved
        simpa using hsmall
      · exact Or.inl rfl

theorem lowercase_ne_nil
    (c : Char) :
    lowercase c ≠ [] := by
  rw [lowercase]
  split
  · exact List.cons_ne_nil _ _
  · split
    · exact List.cons_ne_nil _ _
    · split <;> exact List.cons_ne_nil _ _

section Forms

variable {c x : Char}

/-- No character of a word becomes a gap. -/
theorem isWordGap_of_mem_lowercase
    (hc : isWordGap c = false)
    (hx : x ∈ lowercase c) :
    isWordGap x = false := by
  rcases lowercase_eq_or_isSmall c with hself | hsmall
  · rw [hself, List.mem_singleton] at hx
    rwa [hx]
  · exact (hsmall x hx).gap

/-- What is in lower case stays as it is. -/
theorem lowercase_of_mem_lowercase
    (hx : x ∈ lowercase c) :
    lowercase x = [x] := by
  rcases lowercase_eq_or_isSmall c with hself | hsmall
  · rw [hself, List.mem_singleton] at hx
    rwa [hx]
  · exact (hsmall x hx).lower

/-- A capital is left in lower case only where it has no other form. -/
theorem eq_of_isUppercase
    (hx : x ∈ lowercase c)
    (hupper : isUppercase x = true) :
    lowercase c = [c] ∧ x = c := by
  rcases lowercase_eq_or_isSmall c with hself | hsmall
  · rw [hself, List.mem_singleton] at hx
    exact ⟨hself, hx⟩
  · rw [(hsmall x hx).upper] at hupper
    cases hupper

end Forms

end Text
end Runbook
