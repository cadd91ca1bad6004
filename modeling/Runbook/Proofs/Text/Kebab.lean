import Runbook.Proofs.Text.Letters
import Runbook.Proofs.Text.Lines

/-!
# Names in kebab case

The kebab form of a name is its words in lower case, joined by hyphens. In lower case a word comes
apart where a capital without another form begins a word by what its neighbours have become, so a
kebab form need not be its own kebab form; from the second one on nothing changes.

Main statements: `kebab_eq_hyphened`, `kebab_eq_nil_iff`, `kebab_kebab_iff` and `kebab_kebab_kebab`.
-/

namespace Runbook
namespace Text

/-! ## The words of a name -/

/-- After a gap no capital begins a word: it does so anyway. -/
theorem beginsWord_of_isWordGap
    {previous : Option Char}
    (h : ∀ p, previous = some p → isWordGap p = true)
    (next : Option Char) :
    beginsWord previous next = false := by
  cases previous with
  | none => rfl
  | some p =>
      obtain ⟨hlower, hupper, hdigit⟩ := not_cased_of_isWordGap (h p rfl)
      simp [beginsWord, hlower, hupper, hdigit]

/-- Whether the word of a character goes on with what follows: not with a gap, and not with a capital
that begins a word. -/
def goesOn (c : Char) : List Char → Bool
  | [] => false
  | d :: rest => !isWordGap d && !(isUppercase d && beginsWord (some c) rest.head?)

/-- The words of a name. -/
def words : List Char → List (List Char)
  | [] => []
  | c :: s =>
      if isWordGap c then words s
      else if goesOn c s then (words s).modifyHead (c :: ·)
      else [c] :: words s

/-- Words in lower case, joined by hyphens. -/
def hyphened (ws : List (List Char)) : List Char :=
  joinWith ['-'] (ws.map (List.flatMap lowercase))

theorem words_of_isWordGap
    {c : Char}
    (hc : isWordGap c = true)
    (s : List Char) :
    words (c :: s) = words s := by
  rw [words, if_pos hc]

theorem exists_of_goesOn
    {c : Char}
    {s : List Char}
    (h : goesOn c s = true) :
    ∃ d rest, s = d :: rest ∧ isWordGap d = false := by
  cases s with
  | nil => cases h
  | cons d rest =>
      simp only [goesOn, Bool.and_eq_true, Bool.not_eq_true'] at h
      exact ⟨d, rest, rfl, h.1⟩

/-- A character of a word begins the first word, which is part of what follows without a gap. -/
theorem exists_words_cons
    {c : Char}
    (hc : isWordGap c = false)
    (s : List Char) :
    ∃ w ws, words (c :: s) = (c :: w) :: ws ∧ w <+: s := by
  induction s generalizing c with
  | nil => exact ⟨[], [], by simp [words, hc, goesOn], List.prefix_rfl⟩
  | cons d s ih =>
      rw [words, if_neg (by simp [hc])]
      split
      next hon =>
        obtain ⟨_, _, hsplit, hd⟩ := exists_of_goesOn hon
        obtain ⟨rfl, rfl⟩ := List.cons.inj hsplit
        obtain ⟨w, ws, hwords, hpart⟩ := ih hd
        rw [hwords]
        exact ⟨d :: w, ws, rfl, (List.prefix_cons_inj d).mpr hpart⟩
      next => exact ⟨[], words (d :: s), rfl, List.nil_prefix⟩

/-- What is written after a character of a word: the rest of the word, or a hyphen before the next
one. -/
def writtenAfter (c : Char) (s : List Char) : List Char :=
  if goesOn c s then hyphened (words s)
  else if words s = [] then [] else '-' :: hyphened (words s)

theorem hyphened_words_cons
    {c : Char}
    (hc : isWordGap c = false)
    (s : List Char) :
    hyphened (words (c :: s)) = lowercase c ++ writtenAfter c s := by
  rw [words, if_neg (by simp [hc]), writtenAfter]
  split
  next hon =>
    obtain ⟨d, rest, rfl, hd⟩ := exists_of_goesOn hon
    obtain ⟨w, ws, hwords, -⟩ := exists_words_cons hd rest
    rw [hwords]
    cases ws with
    | nil => simp [hyphened, joinWith]
    | cons v ws => simp [hyphened, joinWith]
  next =>
    cases words s with
    | nil => simp [hyphened, joinWith]
    | cons w ws => simp [hyphened, joinWith]

theorem words_ne_nil
    {c : Char}
    (hc : isWordGap c = false)
    (s : List Char) :
    words (c :: s) ≠ [] := by
  obtain ⟨w, ws, hwords, -⟩ := exists_words_cons hc s
  rw [hwords]
  exact List.cons_ne_nil _ _

theorem words_eq_nil_iff
    (s : List Char) :
    words s = [] ↔ ∀ c ∈ s, isWordGap c = true := by
  induction s with
  | nil => simp [words]
  | cons c s ih =>
      cases hc : isWordGap c with
      | true => rw [words_of_isWordGap hc, ih, List.forall_mem_cons, hc, eq_self_iff_true, true_and]
      | false => simp [words_ne_nil hc s, hc]

/-- What is written ends in a character that is not a hyphen. -/
def EndsInWord (front : List Char) : Prop :=
  ∃ x, front.head? = some x ∧ x ≠ '-'

theorem endsInWord_lowercase
    {c : Char}
    (hc : isWordGap c = false)
    (front : List Char) :
    EndsInWord ((lowercase c).reverse ++ front) := by
  obtain ⟨x, hx⟩ : ∃ x, (lowercase c).getLast? = some x :=
    ⟨_, List.getLast?_eq_some_getLast (lowercase_ne_nil c)⟩
  refine ⟨x, by simp [List.head?_append, hx], ?_⟩
  rintro rfl
  exact absurd (isWordGap_of_mem_lowercase hc (List.mem_of_getLast? hx)) (by decide)

theorem EndsInWord.dropWhile_eq
    {front : List Char}
    (h : EndsInWord front) :
    front.dropWhile (· = '-') = front := by
  obtain ⟨x, hx, hne⟩ := h
  obtain ⟨rest, rfl⟩ := List.head?_eq_some_iff.mp hx
  simp [hne]

/-- At the start or after a gap the words of the rest are written, behind what is written already. -/
def WritesWords (s : List Char) : Prop :=
  ∀ previous front, (∀ p, previous = some p → isWordGap p = true) →
    (front = [] ∨ front.head? = some '-') →
    ((kebabFrom previous front s).dropWhile (· = '-')).reverse =
      if words s = [] then (front.dropWhile (· = '-')).reverse
      else front.reverse ++ hyphened (words s)

/-- After a character of a word the rest goes on with it, or has words of its own. -/
def WritesOn (s : List Char) : Prop :=
  ∀ c front, EndsInWord front →
    ((kebabFrom (some c) front s).dropWhile (· = '-')).reverse = front.reverse ++ writtenAfter c s

theorem writesWords_cons
    {s : List Char}
    (hgap : WritesWords s)
    (hword : WritesOn s)
    (d : Char) :
    WritesWords (d :: s) := by
  intro previous front hprevious hfront
  cases hd : isWordGap d with
  | true =>
      have hjoined : (if front.isEmpty || decide (front.head? = some '-') then front
          else '-' :: front) = front := by
        rcases hfront with rfl | hhyphen
        · rfl
        · simp [hhyphen]
      rw [kebabFrom, if_pos hd, hjoined, words_of_isWordGap hd]
      exact hgap _ _ (fun p hp => by cases hp; exact hd) hfront
  | false =>
      have hfree := beginsWord_of_isWordGap hprevious s.head?
      rw [kebabFrom, if_neg (by simp [hd]), if_neg (words_ne_nil hd s), hfree,
        hyphened_words_cons hd]
      simp [hword d _ (endsInWord_lowercase hd front)]

theorem writesOn_cons
    {s : List Char}
    (hgap : WritesWords s)
    (hword : WritesOn s)
    (d : Char) :
    WritesOn (d :: s) := by
  intro c front hfront
  obtain ⟨x, hx, hne⟩ := id hfront
  cases hd : isWordGap d with
  | true =>
      have hempty : front.isEmpty = false := by
        cases front with
        | nil => cases hx
        | cons => rfl
      have hnext := hgap (some d) ('-' :: front) (fun p hp => by cases hp; exact hd) (Or.inr rfl)
      rw [List.dropWhile_cons_of_pos (by simp), hfront.dropWhile_eq] at hnext
      rw [kebabFrom, if_pos hd, if_neg (by simp [hempty, hx, hne]), hnext, writtenAfter,
        words_of_isWordGap hd]
      split
      · simp [goesOn, hd]
      · simp [goesOn, hd]
  | false =>
      have hhead : decide (front.head? ≠ some '-') = true := by simp [hx, hne]
      rw [kebabFrom, if_neg (by simp [hd]), hhead, Bool.and_true, writtenAfter,
        if_neg (words_ne_nil hd s), hyphened_words_cons hd,
        hword d _ (endsInWord_lowercase hd _)]
      by_cases hbreak : (isUppercase d && beginsWord (some c) s.head?) = true
      · simp [goesOn, hd, hbreak]
      · simp [goesOn, hd, hbreak]

/-- Writing a name passes between the two states, so the induction is on both of them. -/
theorem writes_words (s : List Char) :
    WritesWords s ∧ WritesOn s := by
  induction s with
  | nil =>
      refine ⟨fun previous front _ _ => by simp [kebabFrom, words], fun c front hfront => ?_⟩
      rw [kebabFrom, hfront.dropWhile_eq]
      simp [writtenAfter, goesOn, words]
  | cons d s ih => exact ⟨writesWords_cons ih.1 ih.2 d, writesOn_cons ih.1 ih.2 d⟩

/-- The words of two parts with a gap between them are those of the parts. -/
theorem words_append_cons
    {g : Char}
    (hg : isWordGap g = true)
    (s t : List Char) :
    words (s ++ g :: t) = words s ++ words t := by
  have hnext : ∀ c : Char, beginsWord (some c) (some g) = beginsWord (some c) none := by
    intro c
    simp [beginsWord, (not_cased_of_isWordGap hg).1]
  induction s with
  | nil => rw [List.nil_append, words_of_isWordGap hg, words, List.nil_append]
  | cons c s ih =>
      cases hc : isWordGap c with
      | true => rw [List.cons_append, words_of_isWordGap hc, words_of_isWordGap hc, ih]
      | false =>
          have hon : goesOn c (s ++ g :: t) = goesOn c s := by
            match s with
            | [] => simp [goesOn, hg]
            | [d] => simp [goesOn, hnext]
            | d :: e :: rest => simp [goesOn]
          rw [List.cons_append, words, words, hon, ih]
          simp only [hc, Bool.false_eq_true, if_false]
          split
          next hgoes =>
            obtain ⟨d, rest, rfl, hd⟩ := exists_of_goesOn hgoes
            obtain ⟨w, ws, hwords, -⟩ := exists_words_cons hd rest
            simp [hwords]
          next => rw [List.cons_append]

/-- Blanks around a name belong to no word. -/
theorem words_trim
    (s : List Char) :
    words (trim s) = words s := by
  have hfront : ∀ u t : List Char, allBlank u = true → words (u ++ t) = words t := by
    intro u t hu
    induction u with
    | nil => rfl
    | cons c u ih =>
        rw [allBlank_cons, Bool.and_eq_true] at hu
        rw [List.cons_append, words_of_isWordGap (isWordGap_of_isBlank hu.1), ih hu.2]
  have hback : ∀ t w : List Char, allBlank w = true → words (t ++ w) = words t := by
    intro t w hw
    cases w with
    | nil => rw [List.append_nil]
    | cons c w =>
        rw [allBlank_cons, Bool.and_eq_true] at hw
        have hnil : words w = [] := (words_eq_nil_iff w).mpr fun d hd =>
          isWordGap_of_isBlank (isBlank_of_mem hw.2 hd)
        rw [words_append_cons (isWordGap_of_isBlank hw.1), hnil, List.append_nil]
  obtain ⟨u, w, hs, hu, -, hw⟩ := exists_trim s
  calc
    words (trim s) = words (u ++ trim s ++ w) := by rw [hback _ _ hw, hfront _ _ hu]
    _ = words s := by rw [← hs]

/-- The kebab form of a name: its words in lower case, joined by hyphens. -/
theorem kebab_eq_hyphened
    (s : List Char) :
    kebab s = hyphened (words s) := by
  have hstart := (writes_words (trim s)).1 none [] (by simp) (Or.inl rfl)
  rw [words_trim] at hstart
  rw [kebab, hstart]
  split
  next hnil => simp [hnil, hyphened, joinWith]
  next => rfl

/-- A name has no kebab form if no character of it belongs to a word. -/
theorem kebab_eq_nil_iff
    (s : List Char) :
    kebab s = [] ↔ ∀ c ∈ s, isWordGap c = true := by
  rw [← words_eq_nil_iff, kebab_eq_hyphened]
  induction s with
  | nil => simp [words, hyphened, joinWith]
  | cons c s ih =>
      cases hc : isWordGap c with
      | true => rwa [words_of_isWordGap hc]
      | false => simp [hyphened_words_cons hc, lowercase_ne_nil, words_ne_nil hc]

/-! ## Words of words -/

/-- Words are made of characters of the name, in their order. -/
theorem flatten_words_sublist
    (s : List Char) :
    (words s).flatten.Sublist s := by
  induction s with
  | nil => exact List.Sublist.refl _
  | cons c s ih =>
      rw [words]
      split
      · exact ih.trans (List.sublist_cons_self c s)
      · split
        next hon =>
          obtain ⟨d, rest, rfl, hd⟩ := exists_of_goesOn hon
          obtain ⟨w, ws, hwords, -⟩ := exists_words_cons hd rest
          rw [hwords] at ih ⊢
          exact ih.cons_cons c
        next => exact ih.cons_cons c

theorem mem_of_mem_words
    {s w : List Char}
    {c : Char}
    (hw : w ∈ words s)
    (hc : c ∈ w) :
    c ∈ s :=
  (flatten_words_sublist s).subset (List.mem_flatten.mpr ⟨w, hw, hc⟩)

/-- A word has characters, none of which separates words, and is a single word by itself. -/
structure IsWhole (w : List Char) : Prop where
  ne_nil : w ≠ []
  gap : ∀ c ∈ w, isWordGap c = false
  whole : words w = [w]

theorem isWhole_cons
    {c : Char}
    {w : List Char}
    (hc : isWordGap c = false)
    (hw : IsWhole w)
    (hon : goesOn c w = true) :
    IsWhole (c :: w) where
  ne_nil := List.cons_ne_nil c w
  gap := List.forall_mem_cons.mpr ⟨hc, hw.gap⟩
  whole := by
    rw [words, if_neg (by simp [hc]), if_pos hon, hw.whole]
    rfl

theorem isWhole_singleton
    {c : Char}
    (hc : isWordGap c = false) :
    IsWhole [c] where
  ne_nil := List.cons_ne_nil c []
  gap := List.forall_mem_singleton.mpr hc
  whole := by simp [words, hc, goesOn]

/-- A capital that begins a word before nothing begins one before anything. -/
theorem beginsWord_of_none
    {previous : Option Char}
    (h : beginsWord previous none = true)
    (next : Option Char) :
    beginsWord previous next = true := by
  simp only [beginsWord, Option.any_none, Bool.and_false, Bool.or_false] at h
  simp [beginsWord, h]

/-- A character goes on with the first word of what follows where it goes on at all. -/
theorem goesOn_firstWord
    {c d : Char}
    {w rest : List Char}
    (hon : goesOn c (d :: rest) = true)
    (hpart : w <+: rest) :
    goesOn c (d :: w) = true := by
  obtain ⟨t, rfl⟩ := hpart
  cases w with
  | cons e w => simpa [goesOn] using hon
  | nil =>
      simp only [goesOn, Bool.and_eq_true, Bool.not_eq_true', Bool.and_eq_false_iff] at hon ⊢
      refine ⟨hon.1, hon.2.imp_right fun hnot => ?_⟩
      rw [Bool.eq_false_iff] at hnot ⊢
      exact fun hnone => hnot (beginsWord_of_none hnone _)

theorem isWhole_of_mem_words
    {s w : List Char}
    (hw : w ∈ words s) :
    IsWhole w := by
  induction s generalizing w with
  | nil => cases hw
  | cons c s ih =>
      cases hc : isWordGap c with
      | true => exact ih (by rwa [words_of_isWordGap hc] at hw)
      | false =>
          rw [words, if_neg (by simp [hc])] at hw
          split at hw
          next hon =>
            obtain ⟨d, rest, rfl, hd⟩ := exists_of_goesOn hon
            obtain ⟨v, vs, hwords, hpart⟩ := exists_words_cons hd rest
            rw [hwords] at hw ih
            rcases List.mem_cons.mp hw with rfl | hw
            · exact isWhole_cons hc (ih List.mem_cons_self) (goesOn_firstWord hon hpart)
            · exact ih (List.mem_cons_of_mem _ hw)
          next =>
            rcases List.mem_cons.mp hw with rfl | hw
            · exact isWhole_singleton hc
            · exact ih hw

/-- The words of texts that are joined by hyphens are those of the texts. -/
theorem words_joinWith
    (ts : List (List Char)) :
    words (joinWith ['-'] ts) = ts.flatMap words := by
  induction ts with
  | nil => rfl
  | cons t ts ih =>
      cases ts with
      | nil => simp [joinWith]
      | cons u ts =>
          rw [joinWith_cons _ _ (List.cons_ne_nil u ts), List.append_assoc, List.singleton_append,
            words_append_cons (by decide), ih]
          exact List.flatMap_cons.symm

/-- Texts that are their own words together are so one by one. -/
theorem words_eq_singleton
    {ts : List (List Char)}
    (hts : ∀ t ∈ ts, t ≠ [] ∧ ∀ c ∈ t, isWordGap c = false)
    (h : ts.flatMap words = ts) :
    ∀ t ∈ ts, words t = [t] := by
  induction ts with
  | nil => simp
  | cons t ts ih =>
      obtain ⟨hne, hgap⟩ := hts t List.mem_cons_self
      obtain ⟨c, t, rfl⟩ := List.exists_cons_of_ne_nil hne
      obtain ⟨w, ws, hwords, -⟩ := exists_words_cons (hgap c List.mem_cons_self) t
      rw [List.flatMap_cons, hwords, List.cons_append, List.cons.injEq] at h
      obtain ⟨hfirst, hrest⟩ := h
      rw [hfirst] at hwords
      have hlength := (flatten_words_sublist (c :: t)).length_le
      rw [hwords, List.flatten_cons, List.length_append] at hlength
      have hnil : ws.flatten = [] := List.eq_nil_of_length_eq_zero (by omega)
      have hws : ws = [] := by
        cases ws with
        | nil => rfl
        | cons v ws =>
            have hv := isWhole_of_mem_words (s := c :: t) (w := v) (by simp [hwords])
            exact absurd (List.flatten_eq_nil_iff.mp hnil v List.mem_cons_self) hv.ne_nil
      rw [hws, List.nil_append] at hrest
      rw [hws] at hwords
      exact List.forall_mem_cons.mpr
        ⟨hwords, ih (fun u hu => hts u (List.mem_cons_of_mem _ hu)) hrest⟩

/-! ## Words in lower case -/

/-- Whether in lower case a word comes apart: a capital without another form that stands within the
word begins one there, by what its neighbours have become. -/
def slips : List Char → Bool
  | p :: c :: rest =>
      (isUppercase c && lowercase c = [c] &&
        beginsWord (lowercase p).getLast? (rest.head?.bind fun n => (lowercase n).head?)) ||
      slips (c :: rest)
  | _ => false

/-- A name whose words stay whole in lower case. -/
def Steady (s : List Char) : Prop :=
  ∀ w ∈ words s, slips w = false

instance (s : List Char) : Decidable (Steady s) :=
  inferInstanceAs (Decidable (∀ w ∈ words s, slips w = false))

theorem head?_flatMap_lowercase
    (s : List Char) :
    (s.flatMap lowercase).head? = s.head?.bind fun n => (lowercase n).head? := by
  cases s with
  | nil => rfl
  | cons n s =>
      obtain ⟨x, l, hlower⟩ := List.exists_cons_of_ne_nil (lowercase_ne_nil n)
      simp [hlower]

theorem goesOn_flatMap_lowercase
    {c : Char}
    (hc : isWordGap c = false)
    (x : Char)
    (rest : List Char) :
    goesOn x ((c :: rest).flatMap lowercase) =
      !(isUppercase c && lowercase c = [c] &&
        beginsWord (some x) (rest.head?.bind fun n => (lowercase n).head?)) := by
  obtain ⟨d, l, hlower⟩ := List.exists_cons_of_ne_nil (lowercase_ne_nil c)
  have hmem : d ∈ lowercase c := by simp [hlower]
  rw [List.flatMap_cons, hlower, List.cons_append, goesOn, isWordGap_of_mem_lowercase hc hmem]
  cases hupper : isUppercase d with
  | true =>
      obtain ⟨hself, rfl⟩ := eq_of_isUppercase hmem hupper
      obtain rfl : l = [] := by simpa [hself] using hlower.symm
      simp [hupper, ← head?_flatMap_lowercase]
  | false =>
      have hnot : (isUppercase c && decide (d :: l = [c])) = false := by
        rw [Bool.and_eq_false_iff, decide_eq_false_iff_not]
        by_cases heq : d :: l = [c]
        · left
          obtain rfl : d = c := by simpa using (List.cons.inj heq).1
          exact hupper
        · exact Or.inr heq
      rw [hnot]
      rfl

theorem words_cons_eq_iff
    {c : Char}
    {s : List Char}
    (hc : isWordGap c = false)
    (hs : s ≠ []) :
    words (c :: s) = [c :: s] ↔ goesOn c s = true ∧ words s = [s] := by
  rw [words, if_neg (by simp [hc])]
  cases hon : goesOn c s with
  | true =>
      obtain ⟨d, rest, rfl, hd⟩ := exists_of_goesOn hon
      obtain ⟨w, ws, hwords, -⟩ := exists_words_cons hd rest
      simp [hwords]
  | false => simp [Ne.symm hs]

/-- A lower-case form is one character, or the two of the dotted capital. -/
theorem lowercase_cases
    (c : Char) :
    (∃ x, lowercase c = [x]) ∨ lowercase c = ['i', '\u0307'] := by
  rw [lowercase]
  split
  · exact Or.inl ⟨_, rfl⟩
  · split
    · exact Or.inr rfl
    · split
      · exact Or.inl ⟨_, rfl⟩
      · exact Or.inl ⟨_, rfl⟩

theorem words_lowercase_append_iff
    {p x : Char}
    {s : List Char}
    (hp : isWordGap p = false)
    (hx : (lowercase p).getLast? = some x)
    (hs : s ≠ []) :
    words (lowercase p ++ s) = [lowercase p ++ s] ↔ goesOn x s = true ∧ words s = [s] := by
  have hgap : ∀ y ∈ lowercase p, isWordGap y = false := fun y => isWordGap_of_mem_lowercase hp
  rcases lowercase_cases p with ⟨y, hlower⟩ | hlower
  · rw [hlower] at hx hgap ⊢
    obtain rfl : y = x := by simpa using hx
    exact words_cons_eq_iff (hgap y (by simp)) hs
  · rw [hlower] at hx hgap ⊢
    obtain rfl : '\u0307' = x := by simpa using hx
    have hdot : goesOn 'i' ('\u0307' :: s) = true := by
      have hnot : isUppercase '\u0307' = false := by decide +kernel
      simp [goesOn, hnot, hgap '\u0307' (by simp)]
    have hinner := words_cons_eq_iff (hgap '\u0307' (by simp)) hs
    have houter := words_cons_eq_iff (hgap 'i' (by simp)) (List.cons_ne_nil '\u0307' s)
    rw [List.cons_append, List.singleton_append, houter, hinner, hdot, eq_self_iff_true, true_and]

/-- A word stays whole in lower case if none of its capitals comes to begin one. -/
theorem words_flatMap_lowercase_iff
    {w : List Char}
    (hne : w ≠ [])
    (hgap : ∀ c ∈ w, isWordGap c = false) :
    words (w.flatMap lowercase) = [w.flatMap lowercase] ↔ slips w = false := by
  induction w with
  | nil => exact absurd rfl hne
  | cons p w ih =>
      have hp := hgap p List.mem_cons_self
      obtain ⟨x, hx⟩ : ∃ x, (lowercase p).getLast? = some x :=
        ⟨_, List.getLast?_eq_some_getLast (lowercase_ne_nil p)⟩
      cases w with
      | nil =>
          have hwhole : words (lowercase p) = [lowercase p] := by
            have hpgap : ∀ y ∈ lowercase p, isWordGap y = false := fun y =>
              isWordGap_of_mem_lowercase hp
            rcases lowercase_cases p with ⟨y, hlower⟩ | hlower
            · rw [hlower] at hpgap ⊢
              exact (isWhole_singleton (hpgap y (by simp))).whole
            · rw [hlower]
              decide +kernel
          simp [slips, hwhole]
      | cons c rest =>
          have hc := hgap c (by simp)
          have hnext : (c :: rest).flatMap lowercase ≠ [] := by simp [lowercase_ne_nil]
          have hrest := ih (List.cons_ne_nil c rest) fun d hd => hgap d (List.mem_cons_of_mem _ hd)
          rw [List.flatMap_cons, words_lowercase_append_iff hp hx hnext, hrest,
            goesOn_flatMap_lowercase hc, slips, hx, Bool.or_eq_false_iff, Bool.not_eq_true']

/-! ## The kebab form of a kebab form -/

theorem flatMap_lowercase_ne_nil
    {w : List Char}
    (hw : w ≠ []) :
    w.flatMap lowercase ≠ [] := by
  obtain ⟨c, rest, rfl⟩ := List.exists_cons_of_ne_nil hw
  simp [lowercase_ne_nil]

theorem isWordGap_of_mem_flatMap
    {w : List Char}
    (hw : ∀ c ∈ w, isWordGap c = false) :
    ∀ x ∈ w.flatMap lowercase, isWordGap x = false := by
  intro x hx
  obtain ⟨c, hc, hxc⟩ := List.mem_flatMap.mp hx
  exact isWordGap_of_mem_lowercase (hw c hc) hxc

theorem words_kebab
    (s : List Char) :
    words (kebab s) = ((words s).map (List.flatMap lowercase)).flatMap words := by
  rw [kebab_eq_hyphened, hyphened, words_joinWith]

/-- What is in kebab form already has its words joined by hyphens. -/
theorem kebab_kebab_eq
    (s : List Char) :
    kebab (kebab s) = joinWith ['-'] (words (kebab s)) := by
  have hlower : ∀ v ∈ words (kebab s), v.flatMap lowercase = v := by
    intro v hv
    rw [words_kebab, List.mem_flatMap] at hv
    obtain ⟨t, ht, hv⟩ := hv
    obtain ⟨w, -, rfl⟩ := List.mem_map.mp ht
    have hsmall : ∀ x ∈ v, lowercase x = [x] := by
      intro x hx
      obtain ⟨c, -, hxc⟩ := List.mem_flatMap.mp (mem_of_mem_words hv hx)
      exact lowercase_of_mem_lowercase hxc
    rw [List.flatMap_congr hsmall]
    exact List.flatMap_singleton' v
  rw [kebab_eq_hyphened (kebab s), hyphened, List.map_congr_left hlower, List.map_id']

/-- The third kebab form is the second one. -/
theorem kebab_kebab_kebab
    (s : List Char) :
    kebab (kebab (kebab s)) = kebab (kebab s) := by
  have hwords : words (kebab (kebab s)) = words (kebab s) := by
    rw [kebab_kebab_eq, words_joinWith,
      List.flatMap_congr fun w hw => (isWhole_of_mem_words hw).whole]
    exact List.flatMap_singleton' _
  rw [kebab_kebab_eq (kebab s), hwords, ← kebab_kebab_eq]

/-- A kebab form is its own kebab form exactly for the steady names. -/
theorem kebab_kebab_iff
    (s : List Char) :
    kebab (kebab s) = kebab s ↔ Steady s := by
  have hparts : ∀ t ∈ (words s).map (List.flatMap lowercase),
      t ≠ [] ∧ ∀ x ∈ t, isWordGap x = false := by
    intro t ht
    obtain ⟨w, hw, rfl⟩ := List.mem_map.mp ht
    exact ⟨flatMap_lowercase_ne_nil (isWhole_of_mem_words hw).ne_nil,
      isWordGap_of_mem_flatMap (isWhole_of_mem_words hw).gap⟩
  have hsteady : Steady s ↔
      ∀ t ∈ (words s).map (List.flatMap lowercase), words t = [t] := by
    rw [List.forall_mem_map]
    exact forall₂_congr fun w hw =>
      (words_flatMap_lowercase_iff (isWhole_of_mem_words hw).ne_nil
        (isWhole_of_mem_words hw).gap).symm
  rw [hsteady, kebab_kebab_eq]
  constructor
  · intro heq
    refine words_eq_singleton hparts ?_
    rw [← words_kebab]
    cases hs : words s with
    | nil => rw [words_kebab, hs]; rfl
    | cons w ws =>
        have hhyphen : ∀ t : List Char, (∀ x ∈ t, isWordGap x = false) → '-' ∉ t := fun t ht hmem =>
          absurd (ht '-' hmem) (by decide)
        have hsome : words (kebab s) ≠ [] := by
          have hfirst := hparts (w.flatMap lowercase) (by simp [hs])
          obtain ⟨x, rest, hcons⟩ := List.exists_cons_of_ne_nil hfirst.1
          rw [words_kebab, hs, List.map_cons, List.flatMap_cons, hcons]
          exact List.append_ne_nil_of_left_ne_nil
            (words_ne_nil (hfirst.2 x (by simp [hcons])) rest) _
        rw [← hs, ← splitOn_joinWith hsome fun t ht =>
          hhyphen t (isWhole_of_mem_words ht).gap, heq, kebab_eq_hyphened, hyphened]
        exact splitOn_joinWith (by simp [hs]) fun t ht => hhyphen t (hparts t ht).2
  · intro hwhole
    rw [words_kebab, List.flatMap_congr hwhole, List.flatMap_singleton', kebab_eq_hyphened, hyphened]

end Text
end Runbook
