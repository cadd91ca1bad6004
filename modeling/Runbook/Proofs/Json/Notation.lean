import Runbook.Json.Query
import Runbook.Proofs.Text.Trimming

/-!
# The written form of queries

A path is a bare key or nothing, and then steps, each of them a point and a name or a pair of brackets.
Reading a query accepts these texts and no others, and gives the steps that are written. Every query whose
keys have no closing bracket has such a text, with all its steps in brackets.

Main statement: `parse_eq_ok_iff`.
-/

namespace Runbook

/-! ## Indices -/

/-- One more digit of a number in base ten. -/
def nextDigit?
    (acc : Option Nat)
    (c : Char) :
    Option Nat :=
  match acc, digitValue? c with
  | some n, some d => if d < 10 then some (n * 10 + d) else none
  | _, _ => none

/-- The text of an index: decimal digits of a number of 64 bits, behind a plus sign or none. -/
def IsIndex
    (s : List Char)
    (n : Nat) : Prop :=
  ∃ sign digits, s = sign ++ digits ∧ (sign = [] ∨ sign = ['+']) ∧ digits ≠ [] ∧
    (∀ c ∈ digits, c.isDigit = true) ∧ Nat.ofDigitChars 10 digits 0 = n ∧ n < Nat.pow 2 64

section Digits

variable {c : Char}
variable {s : List Char}
variable {n : Nat}

theorem digitValue?_of_isDigit
    (h : c.isDigit = true) :
    digitValue? c = some (c.toNat - '0'.toNat) ∧ c.toNat - '0'.toNat < 10 := by
  obtain ⟨hlow, hhigh⟩ := Char.isDigit_iff_toNat.mp h
  have hrange : '0' ≤ c ∧ c ≤ '9' := ⟨hlow, hhigh⟩
  have hzero : '0'.toNat = 48 := rfl
  have hnine : '9'.toNat = 57 := rfl
  refine ⟨?_, by omega⟩
  simp [digitValue?, hrange, hzero]

/-- The letters among the digits of larger bases are worth ten and more. -/
theorem ten_le_of_digitValue?
    {d : Nat}
    (h : c.isDigit = false)
    (hd : digitValue? c = some d) :
    10 ≤ d := by
  have hrange : ¬ ('0' ≤ c ∧ c ≤ '9') := fun hrange => by
    rw [Char.isDigit_iff_toNat.mpr hrange] at h
    cases h
  unfold digitValue? at hd
  simp only [Bool.and_eq_true, decide_eq_true_eq, if_neg hrange] at hd
  split at hd
  · rename_i hletter
    have hlow : 97 ≤ c.toNat := hletter.1
    cases hd
    omega
  · split at hd
    · rename_i hletter
      have hlow : 65 ≤ c.toNat := hletter.1
      cases hd
      omega
    · cases hd

theorem nextDigit?_eq_ite
    (n : Nat)
    (c : Char) :
    nextDigit? (some n) c = if c.isDigit then some (10 * n + (c.toNat - '0'.toNat)) else none := by
  unfold nextDigit?
  cases hc : c.isDigit with
  | true =>
      obtain ⟨hvalue, hlt⟩ := digitValue?_of_isDigit hc
      simp only [hvalue, if_pos hlt, if_true, Nat.mul_comm n 10]
  | false =>
      cases hd : digitValue? c with
      | none => rfl
      | some d =>
          have hle := ten_le_of_digitValue? hc hd
          simp only [if_neg (not_lt.mpr hle)]
          rfl

theorem foldl_nextDigit?
    (s : List Char)
    (n : Nat) :
    s.foldl nextDigit? (some n) =
      if s.all Char.isDigit then some (Nat.ofDigitChars 10 s n) else none := by
  have hnone (t : List Char) : t.foldl nextDigit? none = none := by
    induction t with
    | nil => rfl
    | cons c t ih => exact ih
  induction s generalizing n with
  | nil => rfl
  | cons c s ih =>
      rw [List.foldl_cons, nextDigit?_eq_ite, List.all_cons, Nat.ofDigitChars_cons]
      cases c.isDigit with
      | true => exact ih _
      | false => exact hnone s

theorem digitsIn?_eq_some_iff :
    digitsIn? 10 s = some n ↔
      s ≠ [] ∧ (∀ c ∈ s, c.isDigit = true) ∧ Nat.ofDigitChars 10 s 0 = n := by
  have hfold : digitsIn? 10 s = if s.isEmpty then none else s.foldl nextDigit? (some 0) := rfl
  rw [hfold, foldl_nextDigit?, ← List.all_eq_true]
  cases s <;> simp

/-- A number below a bound without sign. -/
theorem bind_digitsIn?_eq_some_iff
    {bound : Nat} :
    ((digitsIn? 10 s).bind fun n => if n < bound then some n else none) = some n ↔
      s ≠ [] ∧ (∀ c ∈ s, c.isDigit = true) ∧ Nat.ofDigitChars 10 s 0 = n ∧ n < bound := by
  rw [Option.bind_eq_some_iff]
  constructor
  · rintro ⟨m, hm, hn⟩
    obtain ⟨hne, hall, hvalue⟩ := digitsIn?_eq_some_iff.mp hm
    obtain ⟨hbound, hsame⟩ := Option.ite_none_right_eq_some.mp hn
    obtain rfl : m = n := Option.some.inj hsame
    exact ⟨hne, hall, hvalue, hbound⟩
  · rintro ⟨hne, hall, hvalue, hbound⟩
    exact ⟨n, digitsIn?_eq_some_iff.mpr ⟨hne, hall, hvalue⟩, if_pos hbound⟩

theorem index?_eq_some_iff :
    index? s = some n ↔ IsIndex s n := by
  have hplus (rest : List Char) : index? ('+' :: rest) = some n ↔ IsIndex ('+' :: rest) n := by
    refine bind_digitsIn?_eq_some_iff.trans ⟨fun h => ⟨['+'], rest, rfl, Or.inr rfl, h⟩, ?_⟩
    rintro ⟨sign, digits, hs, rfl | rfl, h⟩
    · obtain rfl : digits = '+' :: rest := hs.symm
      exact absurd (h.2.1 '+' List.mem_cons_self) (by decide)
    · obtain rfl : digits = rest := (List.cons.inj hs).2.symm
      exact h
  have hplain (hs : ∀ rest, s ≠ '+' :: rest) : index? s = some n ↔ IsIndex s n := by
    have hread : index? s =
        (digitsIn? 10 s).bind fun n => if n < Nat.pow 2 64 then some n else none := by
      unfold index? natIn?
      split
      · exact absurd rfl (hs _)
      · rfl
    rw [hread]
    refine bind_digitsIn?_eq_some_iff.trans ⟨fun h => ⟨[], s, rfl, Or.inl rfl, h⟩, ?_⟩
    rintro ⟨sign, digits, rfl, rfl | rfl, h⟩
    · exact h
    · exact absurd rfl (hs digits)
  by_cases hs : ∃ rest, s = '+' :: rest
  · obtain ⟨rest, rfl⟩ := hs
    exact hplus rest
  · exact hplain fun rest heq => hs ⟨rest, heq⟩

/-- An index begins with a sign or a digit. -/
theorem IsIndex.head_cases
    (h : IsIndex (c :: s) n) :
    c = '+' ∨ c.isDigit = true := by
  obtain ⟨sign, digits, hs, rfl | rfl, hne, hall, -⟩ := h
  · obtain rfl : digits = c :: s := hs.symm
    exact Or.inr (hall c List.mem_cons_self)
  · exact Or.inl (List.cons.inj hs).1

theorem isIndex_toDigits
    (h : n < Nat.pow 2 64) :
    IsIndex (Nat.toDigits 10 n) n :=
  ⟨[], _, rfl, Or.inl rfl, Nat.toDigits_ne_nil,
    fun _ hc => Nat.isDigit_of_mem_toDigits (by decide) (by decide) hc,
    Nat.ofDigitChars_toDigits (by decide) (by decide), h⟩

end Digits

/-! ## The grammar -/

namespace Query

open Text

/-- A name in a path: it is not empty and has neither a point nor an opening bracket. -/
structure IsName (name : List Char) : Prop where
  ne_nil : name ≠ []
  point_not_mem : '.' ∉ name
  bracket_not_mem : '[' ∉ name

/-- What may stand between brackets, without the blanks around it, and the step that it is. -/
inductive Bracketed : List Char → QueryStep → Prop
  | every : Bracketed ['*'] .every
  | quoted
      (mark : Char)
      (is_mark : mark = '\'' ∨ mark = '"')
      (name : List Char) :
      Bracketed (mark :: (name ++ [mark])) (.key (String.ofList name))
  | index
      {text : List Char}
      {i : Nat}
      (is_index : IsIndex text i) :
      Bracketed text (.index i)

/-- Steps as they are written one behind the other. A name goes as far as it can, since what follows it is
empty or begins with a point or an opening bracket. -/
inductive Steps : List Char → Query → Prop
  | nil : Steps [] []
  | every
      {s : List Char}
      {q : Query}
      (rest : Steps s q) :
      Steps ('.' :: '*' :: s) (.every :: q)
  | named
      {name s : List Char}
      {q : Query}
      (is_name : IsName name)
      (ne_star : name ≠ ['*'])
      (rest : Steps s q) :
      Steps ('.' :: (name ++ s)) (.key (String.ofList name) :: q)
  | bracketed
      {inside s : List Char}
      {step : QueryStep}
      {q : Query}
      (not_closed : ']' ∉ inside)
      (is_step : Bracketed (trim inside) step)
      (rest : Steps s q) :
      Steps ('[' :: (inside ++ ']' :: s)) (step :: q)

/-- A path without the blanks around it and its leading `$`: a key without point in front of the steps, or
the steps alone. -/
inductive Spells : List Char → Query → Prop
  | headless
      {s : List Char}
      {q : Query}
      (steps : Steps s q) :
      Spells s q
  | headed
      {name s : List Char}
      {q : Query}
      (is_name : IsName name)
      (steps : Steps s q) :
      Spells (name ++ s) (.key (String.ofList name) :: q)

/-! ## Brackets -/

section Brackets

variable {mark : Char}
variable {s inside name : List Char}
variable {step : QueryStep}

theorem quoted_eq_some_iff :
    (dropPrefix? [mark] s).bind (dropSuffix? [mark]) = some name ↔ s = mark :: (name ++ [mark]) := by
  rw [Option.bind_eq_some_iff]
  constructor
  · rintro ⟨t, ht, hname⟩
    rw [dropPrefix?_eq_some_iff.mp ht, dropSuffix?_eq_some_iff.mp hname]
    rfl
  · rintro rfl
    exact ⟨name ++ [mark], dropPrefix?_eq_some_iff.mpr rfl, dropSuffix?_eq_some_iff.mpr rfl⟩

theorem Bracketed.of_ofBracket
    (h : QueryStep.ofBracket inside = .ok step) :
    Bracketed (trim inside) step := by
  unfold QueryStep.ofBracket at h
  dsimp only at h
  split at h
  · rename_i hstar
    cases h
    exact hstar ▸ .every
  · split at h
    · rename_i name hquoted
      cases h
      rcases Option.or_eq_some_iff.mp hquoted with hname | ⟨-, hname⟩
      · rw [quoted_eq_some_iff.mp hname]
        exact .quoted '\'' (Or.inl rfl) name
      · rw [quoted_eq_some_iff.mp hname]
        exact .quoted '"' (Or.inr rfl) name
    · split at h
      · rename_i i hindex
        cases h
        exact .index (index?_eq_some_iff.mp hindex)
      · cases h

/-- The three forms exclude each other, so the order in which they are tried does not matter. -/
theorem Bracketed.ofBracket_eq
    (h : Bracketed (trim inside) step) :
    QueryStep.ofBracket inside = .ok step := by
  unfold QueryStep.ofBracket
  dsimp only
  generalize trim inside = body at h
  cases h with
  | every => rfl
  | quoted mark is_mark name =>
      have hstar : mark :: (name ++ [mark]) ≠ ['*'] := by
        rintro heq
        simp at heq
      have hquoted : ((dropPrefix? ['\''] (mark :: (name ++ [mark]))).bind (dropSuffix? ['\''])).or
          ((dropPrefix? ['"'] (mark :: (name ++ [mark]))).bind (dropSuffix? ['"'])) = some name := by
        rcases is_mark with rfl | rfl
        · rw [quoted_eq_some_iff.mpr rfl, Option.some_or]
        · have hdouble : (dropPrefix? ['"'] ('"' :: (name ++ ['"']))).bind (dropSuffix? ['"']) =
              some name :=
            quoted_eq_some_iff.mpr rfl
          rw [hdouble]
          rfl
      rw [if_neg hstar, hquoted]
  | index is_index =>
      have hhead (c : Char) (t : List Char) (hc : c ≠ '+') (hdigit : c.isDigit = false) :
          body ≠ c :: t := by
        rintro rfl
        rcases is_index.head_cases with rfl | h
        · exact hc rfl
        · rw [h] at hdigit
          cases hdigit
      have hstar : body ≠ ['*'] := hhead '*' [] (by decide) (by decide)
      have hunquoted (mark : Char) (hmark : mark ≠ '+') (hdigit : mark.isDigit = false) :
          (dropPrefix? [mark] body).bind (dropSuffix? [mark]) = none := by
        refine Option.eq_none_iff_forall_not_mem.mpr fun name hname => ?_
        exact hhead mark _ hmark hdigit (quoted_eq_some_iff.mp hname)
      rw [if_neg hstar, hunquoted '\'' (by decide) (by decide), hunquoted '"' (by decide) (by decide)]
      simp only [Option.or_none, index?_eq_some_iff.mpr is_index]

theorem ofBracket_eq_ok_iff :
    QueryStep.ofBracket inside = .ok step ↔ Bracketed (trim inside) step :=
  ⟨Bracketed.of_ofBracket, Bracketed.ofBracket_eq⟩

end Brackets

/-! ## Steps -/

section Steps

variable {s name : List Char}
variable {q : Query}

theorem not_endsName_iff
    {c : Char} :
    (!endsName c) = true ↔ c ≠ '.' ∧ c ≠ '[' := by
  simp [endsName]

theorem exists_of_map_eq_ok
    {ε α β : Type}
    {f : α → β}
    {r : Except ε α}
    {b : β}
    (h : r.map f = .ok b) :
    ∃ a, r = .ok a ∧ f a = b := by
  cases r with
  | error e => cases h
  | ok a => exact ⟨a, rfl, Except.ok.inj h⟩

/-- A name is cut off in front of the steps behind it. -/
theorem span_name
    (hname : IsName name)
    (h : Steps s q) :
    ((name ++ s).takeWhile fun c => !endsName c) = name ∧
      ((name ++ s).dropWhile fun c => !endsName c) = s := by
  have hall : ∀ c ∈ name, (!endsName c) = true := by
    intro c hc
    exact not_endsName_iff.mpr
      ⟨fun heq => hname.point_not_mem (heq ▸ hc), fun heq => hname.bracket_not_mem (heq ▸ hc)⟩
  have hstop : (s.takeWhile fun c => !endsName c) = [] ∧ (s.dropWhile fun c => !endsName c) = s := by
    cases h <;> exact ⟨rfl, rfl⟩
  rw [List.takeWhile_append_of_pos hall, List.dropWhile_append_of_pos hall, hstop.1, hstop.2,
    List.append_nil]
  exact ⟨rfl, rfl⟩

/-- What is cut off is a name, unless there is nothing to cut off. -/
theorem isName_takeWhile
    (h : (s.takeWhile fun c => !endsName c) ≠ []) :
    IsName (s.takeWhile fun c => !endsName c) := by
  have hall : ∀ c ∈ s.takeWhile (fun c => !endsName c), c ≠ '.' ∧ c ≠ '[' :=
    fun c hc => not_endsName_iff.mp (List.all_eq_true.mp List.all_takeWhile c hc)
  exact ⟨h, fun hmem => (hall _ hmem).1 rfl, fun hmem => (hall _ hmem).2 rfl⟩

/-- The text up to the first closing bracket, and what follows it. -/
theorem span_bracket
    {inside : List Char}
    (h : ']' ∉ inside)
    (s : List Char) :
    ((inside ++ ']' :: s).takeWhile (· ≠ ']')) = inside ∧
      ((inside ++ ']' :: s).dropWhile (· ≠ ']')) = ']' :: s := by
  have hall : ∀ c ∈ inside, decide (c ≠ ']') = true := by
    intro c hc
    exact decide_eq_true fun heq => h (heq ▸ hc)
  rw [List.takeWhile_append_of_pos hall, List.dropWhile_append_of_pos hall]
  simp

/-- The steps that are read are written in the text. -/
theorem Steps.of_steps?
    (h : steps? s = .ok q) :
    Steps s q := by
  fun_induction steps? s generalizing q with
  | case1 =>
      cases h
      exact .nil
  | case2 s name => cases h
  | case3 s name hname =>
      rename_i ih
      obtain ⟨later, hlater, rfl⟩ := exists_of_map_eq_ok h
      have hrest := ih hlater
      have hsplit : s = name ++ s.dropWhile fun c => !endsName c :=
        List.takeWhile_append_dropWhile.symm
      have his : IsName name := isName_takeWhile fun hnil => hname (List.isEmpty_iff.mpr hnil)
      clear_value name
      rw [hsplit, QueryStep.ofName]
      split
      next hstar =>
        rw [hstar]
        exact .every hrest
      next hstar => exact .named his hstar hrest
  | case4 s hclose => cases h
  | case5 s close rest hclose fault hstep => cases h
  | case6 s close rest hclose step hstep ih =>
      obtain ⟨later, hlater, rfl⟩ := exists_of_map_eq_ok h
      have hsplit : s = s.takeWhile (· ≠ ']') ++ close :: rest := by
        rw [← hclose]
        exact List.takeWhile_append_dropWhile.symm
      have hmark : close = ']' := by
        have hfirst := List.head?_dropWhile_not (fun c => decide (c ≠ ']')) s
        rw [hclose] at hfirst
        simpa using hfirst
      have hopen : ']' ∉ s.takeWhile (· ≠ ']') := fun hmem => by
        simpa using List.all_eq_true.mp List.all_takeWhile _ hmem
      rw [hsplit, hmark]
      exact .bracketed hopen (ofBracket_eq_ok_iff.mp hstep) (ih hlater)
  | case7 c s hpoint hbracket => cases h

/-- The steps that are written are read. -/
theorem Steps.steps?_eq
    (h : Steps s q) :
    steps? s = .ok q := by
  have hnamed {name s : List Char} {q : Query} (hname : IsName name) (hs : Steps s q)
      (hread : steps? s = .ok q) :
      steps? ('.' :: (name ++ s)) = .ok (QueryStep.ofName name :: q) := by
    obtain ⟨htake, hdrop⟩ := span_name hname hs
    rw [steps?, htake, hdrop, hread]
    simp [hname.ne_nil, Except.map]
  induction h with
  | nil => rw [steps?]
  | every rest ih =>
      have hstar : IsName ['*'] := ⟨by decide, by decide, by decide⟩
      exact hnamed hstar rest ih
  | named is_name ne_star rest ih =>
      rw [hnamed is_name rest ih, QueryStep.ofName, if_neg ne_star]
  | @bracketed inside s step q not_closed is_step rest ih =>
      obtain ⟨htake, hdrop⟩ := span_bracket not_closed s
      rw [steps?]
      split
      next hnone =>
        rw [hdrop] at hnone
        cases hnone
      next close left hsome =>
        rw [hdrop] at hsome
        cases hsome
        rw [htake, ofBracket_eq_ok_iff.mpr is_step]
        simp only [ih]
        rfl

theorem steps?_eq_ok_iff :
    steps? s = .ok q ↔ Steps s q :=
  ⟨Steps.of_steps?, Steps.steps?_eq⟩

/-! ## Paths -/

theorem ofBody?_eq_ok_iff :
    ofBody? s = .ok q ↔ Spells s q := by
  constructor
  · intro h
    unfold ofBody? at h
    split at h
    · cases h
      exact .headless .nil
    · rename_i c t
      split at h
      · exact .headless (steps?_eq_ok_iff.mp h)
      · rename_i hends
        obtain ⟨later, hlater, rfl⟩ := exists_of_map_eq_ok h
        have hname : IsName ((c :: t).takeWhile fun c => !endsName c) := by
          refine isName_takeWhile ?_
          simp [hends]
        have hsplit : ((c :: t).takeWhile fun c => !endsName c) ++
            (c :: t).dropWhile (fun c => !endsName c) = c :: t := List.takeWhile_append_dropWhile
        have hspells := Spells.headed hname (steps?_eq_ok_iff.mp hlater)
        rwa [hsplit] at hspells
  · intro h
    cases h with
    | headless steps =>
        have hread := steps?_eq_ok_iff.mpr steps
        cases steps with
        | nil => rfl
        | every rest => exact hread
        | named is_name ne_star rest => exact hread
        | bracketed not_closed is_step rest => exact hread
    | @headed name t later is_name steps =>
        obtain ⟨htake, hdrop⟩ := span_name is_name steps
        have hread := steps?_eq_ok_iff.mpr steps
        cases name with
        | nil => exact absurd rfl is_name.ne_nil
        | cons c name =>
            have hends : endsName c = false := by
              have hpoint : c ≠ '.' := fun heq => is_name.point_not_mem (heq ▸ List.mem_cons_self)
              have hbracket : c ≠ '[' := fun heq => is_name.bracket_not_mem (heq ▸ List.mem_cons_self)
              simp [endsName, hpoint, hbracket]
            rw [List.cons_append] at htake hdrop ⊢
            simp only [ofBody?, hends, Bool.false_eq_true, if_false, htake, hdrop, hread]
            rfl

end Steps

/-! ## Queries in brackets -/

/-- A step in brackets, a key in quotation marks of a kind. -/
def inBrackets
    (mark : Char) :
    QueryStep → List Char
  | .key name => '[' :: (mark :: (name.toList ++ [mark]) ++ [']'])
  | .index i => '[' :: (Nat.toDigits 10 i ++ [']'])
  | .every => ['[', '*', ']']

/-- A path with all its steps in brackets. -/
def print
    (mark : Char)
    (q : Query) :
    String :=
  String.ofList ('$' :: q.flatMap (inBrackets mark))

/-- A step that can stand in brackets: no key has a closing bracket, and an index has 64 bits. -/
def Fits : QueryStep → Prop
  | .key name => ']' ∉ name.toList
  | .index i => i < Nat.pow 2 64
  | .every => True

section Printing

variable {mark : Char}
variable {q : Query}

theorem isBlank_eq_false_of_isDigit
    {c : Char}
    (h : c.isDigit = true) :
    isBlank c = false := by
  by_contra hblank
  have hcode := toNat_mem_blankCodes (by simpa using hblank)
  have hnot : ∀ n ∈ blankCodes, (Char.ofNat n).isDigit = false := by decide
  rw [← Char.ofNat_toNat c, hnot _ hcode] at h
  cases h

/-- A fitting step stands in brackets as a text that says it, without blanks around it. -/
theorem exists_inside
    (hmark : mark = '\'' ∨ mark = '"')
    {step : QueryStep}
    (hfits : Fits step) :
    ∃ inside, inBrackets mark step = '[' :: (inside ++ [']']) ∧ Tight inside ∧ ']' ∉ inside ∧
      Bracketed inside step := by
  cases step with
  | key name =>
      have hblank : isBlank mark = false := by rcases hmark with rfl | rfl <;> decide
      have hclose : mark ≠ ']' := by rcases hmark with rfl | rfl <;> decide
      have hname : ']' ∉ name.toList := hfits
      have hlast : (mark :: (name.toList ++ [mark])).getLast? = some mark := by
        rw [← List.cons_append, List.getLast?_concat]
      refine ⟨mark :: (name.toList ++ [mark]), rfl, ⟨fun c hc => ?_, fun c hc => ?_⟩, ?_, ?_⟩
      · exact Option.some.inj hc ▸ hblank
      · exact Option.some.inj (hlast.symm.trans hc) ▸ hblank
      · simp [hname, hclose.symm]
      · simpa using Bracketed.quoted mark hmark name.toList
  | index i =>
      have hdigits : ∀ c ∈ Nat.toDigits 10 i, c.isDigit = true :=
        fun c hc => Nat.isDigit_of_mem_toDigits (by decide) (by decide) hc
      refine ⟨Nat.toDigits 10 i, rfl, ?_, fun hmem => ?_, .index (isIndex_toDigits hfits)⟩
      · exact tight_of_not_blank fun c hc => isBlank_eq_false_of_isDigit (hdigits c hc)
      · exact absurd (hdigits _ hmem) (by decide)
  | every =>
      refine ⟨['*'], rfl, tight_of_not_blank fun c hc => ?_, by decide, .every⟩
      obtain rfl := List.mem_singleton.mp hc
      rfl

theorem steps_print
    (hmark : mark = '\'' ∨ mark = '"')
    (hq : ∀ step ∈ q, Fits step) :
    Steps (q.flatMap (inBrackets mark)) q := by
  induction q with
  | nil => exact .nil
  | cons step rest ih =>
      have hlater := ih fun s hs => hq s (List.mem_cons_of_mem _ hs)
      obtain ⟨inside, htext, htight, hopen, hsays⟩ :=
        exists_inside hmark (hq step List.mem_cons_self)
      have hstep : Bracketed (trim inside) step := by
        rwa [trim_of_tight htight]
      have hsteps := Steps.bracketed hopen hstep hlater
      rw [List.flatMap_cons, htext]
      simpa using hsteps

theorem exists_inBrackets
    (mark : Char)
    (step : QueryStep) :
    ∃ front, inBrackets mark step = front ++ [']'] := by
  cases step with
  | key name => exact ⟨'[' :: (mark :: (name.toList ++ [mark])), rfl⟩
  | index i => exact ⟨'[' :: Nat.toDigits 10 i, rfl⟩
  | every => exact ⟨['[', '*'], rfl⟩

/-- A path with its steps in brackets has no blanks around it. -/
theorem tight_print
    (mark : Char)
    (q : Query) :
    Tight ('$' :: q.flatMap (inBrackets mark)) := by
  refine ⟨fun c hc => ?_, fun c hc => ?_⟩
  · obtain rfl : '$' = c := Option.some.inj hc
    decide
  · rcases List.eq_nil_or_concat q with rfl | ⟨rest, step, rfl⟩
    · obtain rfl : '$' = c := Option.some.inj hc
      decide
    · obtain ⟨front, hfront⟩ := exists_inBrackets mark step
      have hend : '$' :: (rest.concat step).flatMap (inBrackets mark) =
          '$' :: (rest.flatMap (inBrackets mark) ++ front) ++ [']'] := by
        simp [hfront]
      rw [hend, List.getLast?_concat] at hc
      obtain rfl : ']' = c := Option.some.inj hc
      decide

theorem body_print
    (mark : Char)
    (q : Query) :
    body (print mark q).toList = q.flatMap (inBrackets mark) := by
  rw [body, print, String.toList_ofList, trim_of_tight (tight_print mark q)]
  rfl

end Printing

theorem parse_eq_ok_iff_ofBody?
    {path : String}
    {q : Query} :
    parse path = .ok q ↔ ofBody? (body path.toList) = .ok q := by
  unfold parse
  cases ofBody? (body path.toList) <;> simp [Except.mapError]

/-- A query is read from exactly the texts that spell it, after the blanks around them and one `$` in
front are taken away. The text of a query with all its steps in brackets is one of them. -/
theorem parse_eq_ok_iff
    (path : String)
    (q : Query) :
    (parse path = .ok q ↔ Spells (body path.toList) q) ∧
      ∀ mark, mark = '\'' ∨ mark = '"' → (∀ step ∈ q, Fits step) → parse (print mark q) = .ok q := by
  have hread (path : String) : parse path = .ok q ↔ Spells (body path.toList) q :=
    parse_eq_ok_iff_ofBody?.trans ofBody?_eq_ok_iff
  refine ⟨hread path, fun mark hmark hq => (hread _).mpr ?_⟩
  rw [body_print]
  exact .headless (steps_print hmark hq)

/-- A key with a blank and a point, every child, and an index. -/
def oddQuery : Query :=
  [.key "odd. key", .every, .index 12]

theorem parse_eq_ok_iff_odd :
    (∀ step ∈ oddQuery, Fits step) ∧ print '\'' oddQuery = "$['odd. key'][*][12]" ∧
      parse (print '\'' oddQuery) = .ok oddQuery ∧
      Spells (body " $[ 'odd. key' ].*[+12] ".toList) oddQuery := by
  have hfits : ∀ step ∈ oddQuery, Fits step := by
    unfold oddQuery Fits
    simp
  refine ⟨hfits, by decide, (parse_eq_ok_iff "" oddQuery).2 '\'' (Or.inl rfl) hfits, ?_⟩
  exact (parse_eq_ok_iff _ oddQuery).1.mp (by decide +kernel)

end Query
end Runbook
