import Mathlib.Data.List.Infix
import Mathlib.Tactic
import Runbook.Markup.Element
import Runbook.Proofs.Text.Trimming

/-!
# Entities of a text

Each entity is replaced by one character, so a text gets shorter where one occurs, and stays as it is
where none does. The entities are decoded one after another, but a text that has become shorter stays
shorter, so only a text without any entity stands for itself.

A text is escaped by putting an entity for each character that has one. Decoding gives it back, since the
ampersand is decoded last: as long as other entities are decoded, every ampersand of the text still begins
an entity of its own, and no replacement makes a new one.

Main statements: `decodeEntities_eq_self_iff` and `text_of_escaped`.
-/

namespace Runbook
namespace Markup

open Text

/-! ## One replacement -/

section Replacement

variable {pattern replacement : List Char}
variable {c : Char}

/-- Text in which the pattern does not occur stays. -/
theorem replaceAll_of_not_infix
    {s : List Char}
    (h : ¬ pattern <:+: s) :
    replaceAll pattern replacement s = s := by
  induction s with
  | nil => rfl
  | cons d s ih =>
      rw [List.infix_cons_iff, not_or] at h
      have hprefix : ¬ pattern.isPrefixOf (d :: s) = true := by
        rw [List.isPrefixOf_iff_prefix]
        exact h.1
      have hrest := ih h.2
      rw [replaceAll] at hrest
      rw [replaceAll, replaceFrom, if_neg hprefix, hrest]

/-- Text does not grow when a pattern is replaced by one character. -/
theorem length_replaceFrom_le
    (pattern : List Char)
    (c : Char)
    (s : List Char)
    (skip : Nat) :
    (replaceFrom pattern [c] skip s).length ≤ (s.drop skip).length := by
  induction s generalizing skip with
  | nil => simp [replaceFrom]
  | cons d s ih =>
      cases skip with
      | succ skip => simpa [replaceFrom] using ih skip
      | zero =>
          rw [replaceFrom]
          split
          · have hrest := ih (pattern.length - 1)
            simp only [List.length_drop, List.length_append, List.length_cons] at hrest ⊢
            simp only [List.length_nil]
            omega
          · have hrest := ih 0
            simpa using hrest

/-- Text gets shorter when a pattern of several characters occurs in it. -/
theorem length_replaceAll_lt
    (hpattern : 2 ≤ pattern.length)
    {s : List Char}
    (h : pattern <:+: s) :
    (replaceAll pattern [c] s).length < s.length := by
  induction s with
  | nil =>
      rw [List.eq_nil_of_infix_nil h] at hpattern
      simp at hpattern
  | cons d s ih =>
      rw [replaceAll, replaceFrom]
      split
      · rename_i hprefix
        have hlength := (List.isPrefixOf_iff_prefix.mp hprefix).length_le
        have hrest := length_replaceFrom_le pattern c s (pattern.length - 1)
        simp only [List.length_drop, List.length_append, List.length_cons] at hrest hlength ⊢
        simp only [List.length_nil]
        omega
      · rename_i hprefix
        rw [List.isPrefixOf_iff_prefix] at hprefix
        have hrest := ih ((List.infix_cons_iff.mp h).resolve_left hprefix)
        rw [replaceAll] at hrest
        simpa using hrest

theorem replaceAll_ne_nil
    {s : List Char}
    (hs : s ≠ []) :
    replaceAll pattern [c] s ≠ [] := by
  cases s with
  | nil => exact absurd rfl hs
  | cons d s =>
      rw [replaceAll, replaceFrom]
      split <;> exact List.cons_ne_nil _ _

end Replacement

/-! ## All replacements -/

/-- The text with the patterns of a table replaced by their characters, one after another. -/
def decodeBy
    (table : List (String × Char))
    (s : List Char) :
    List Char :=
  table.foldl (fun t p => replaceAll p.1.toList [p.2] t) s

theorem length_decodeBy_le
    (table : List (String × Char))
    (s : List Char) :
    (decodeBy table s).length ≤ s.length := by
  induction table generalizing s with
  | nil => exact Nat.le_refl _
  | cons p table ih =>
      have hfirst := length_replaceFrom_le p.1.toList p.2 s 0
      exact (ih _).trans hfirst

theorem decodeBy_ne_nil
    (table : List (String × Char))
    {s : List Char}
    (hs : s ≠ []) :
    decodeBy table s ≠ [] := by
  induction table generalizing s with
  | nil => exact hs
  | cons p table ih => exact ih (replaceAll_ne_nil hs)

/-- A text is left as it is exactly when no pattern occurs in it. -/
theorem decodeBy_eq_self_iff
    {table : List (String × Char)}
    (htable : ∀ p ∈ table, 2 ≤ p.1.toList.length)
    (s : List Char) :
    decodeBy table s = s ↔ ∀ p ∈ table, ¬ p.1.toList <:+: s := by
  induction table generalizing s with
  | nil => simp [decodeBy]
  | cons p table ih =>
      have hrest := ih (fun q hq => htable q (List.mem_cons_of_mem _ hq))
      rw [List.forall_mem_cons]
      by_cases h : p.1.toList <:+: s
      · refine iff_of_false (fun heq => ?_) fun hall => hall.1 h
        -- What the first replacement takes away the others do not bring back.
        have hshort := length_replaceAll_lt (c := p.2) (htable p List.mem_cons_self) h
        have hle := length_decodeBy_le table (replaceAll p.1.toList [p.2] s)
        have hsame : (decodeBy table (replaceAll p.1.toList [p.2] s)).length = s.length :=
          congrArg List.length heq
        omega
      · have hfirst : decodeBy (p :: table) s = decodeBy table s := by
          rw [decodeBy, List.foldl_cons, replaceAll_of_not_infix h]
          rfl
        rw [hfirst, hrest]
        exact (and_iff_right h).symm

theorem decodeEntities_eq_self_iff
    (s : List Char) :
    decodeEntities s = s ↔ ∀ p ∈ entities, ¬ p.1.toList <:+: s :=
  decodeBy_eq_self_iff (by decide) s

theorem decodeEntities_ne_nil
    {s : List Char}
    (hs : s ≠ []) :
    decodeEntities s ≠ [] :=
  decodeBy_ne_nil entities hs

/-- Text without an ampersand stands for itself. -/
theorem decodeEntities_of_not_mem
    {s : List Char}
    (h : '&' ∉ s) :
    decodeEntities s = s := by
  have hall : ∀ p ∈ entities, '&' ∈ p.1.toList := by decide
  exact (decodeEntities_eq_self_iff s).mpr fun p hp hinside => h (hinside.subset (hall p hp))

/-! ## Escaped texts -/

/-- What stands for a character in an escaped text. -/
def escapeChar : Char → List Char
  | '&' => "&amp;".toList
  | '<' => "&lt;".toList
  | '>' => "&gt;".toList
  | '"' => "&quot;".toList
  | '\'' => "&apos;".toList
  | c => [c]

/-- A text with each character that has a predefined entity replaced by it. -/
def escape (s : List Char) : List Char :=
  s.flatMap escapeChar

/-- An ampersand, a name, and a semicolon. -/
def IsReference (s : List Char) : Prop :=
  ∃ name, s = '&' :: (name ++ [';']) ∧ '&' ∉ name ∧ ';' ∉ name

theorem isReference_of_mem_entities :
    ∀ p ∈ entities, IsReference p.1.toList := by
  simp only [entities, List.forall_mem_cons, List.not_mem_nil, false_imp_iff, implies_true, and_true]
  exact ⟨⟨['l', 't'], rfl, by decide, by decide⟩, ⟨['g', 't'], rfl, by decide, by decide⟩,
    ⟨['q', 'u', 'o', 't'], rfl, by decide, by decide⟩,
    ⟨['a', 'p', 'o', 's'], rfl, by decide, by decide⟩,
    ⟨['a', 'm', 'p'], rfl, by decide, by decide⟩⟩

/-- A reference ends at its first semicolon, so it begins no other one. -/
theorem eq_of_prefix_append
    {p q rest : List Char}
    (hp : IsReference p)
    (hq : IsReference q)
    (h : p <+: q ++ rest) :
    p = q := by
  obtain ⟨name, rfl, -, hname⟩ := hp
  obtain ⟨name', rfl, -, hname'⟩ := hq
  obtain ⟨t, ht⟩ := h
  have hbefore (u v : List Char) (hu : ';' ∉ u) : (u ++ ';' :: v).takeWhile (· ≠ ';') = u := by
    have hall : ∀ c ∈ u, decide (c ≠ ';') = true := by
      intro c hc
      rw [decide_eq_true_eq]
      rintro rfl
      exact hu hc
    rw [List.takeWhile_append_of_pos hall]
    simp
  have hsame : name ++ ';' :: t = name' ++ ';' :: rest := by simpa using ht
  have hnames := congrArg (List.takeWhile (· ≠ ';')) hsame
  rw [hbefore _ _ hname, hbefore _ _ hname'] at hnames
  rw [hnames]

section Table

variable {table : List (String × Char)}
variable {pattern replacement rest : List Char}

/-- The characters of an occurrence are passed. -/
theorem replaceFrom_skip
    (u : List Char) :
    replaceFrom pattern replacement u.length (u ++ rest) = replaceAll pattern replacement rest := by
  induction u with
  | nil => rfl
  | cons c u ih => simpa [replaceFrom] using ih

/-- The pattern at the front of a text is replaced. -/
theorem replaceAll_append_pattern
    (hpattern : pattern ≠ []) :
    replaceAll pattern replacement (pattern ++ rest) =
      replacement ++ replaceAll pattern replacement rest := by
  cases pattern with
  | nil => exact absurd rfl hpattern
  | cons c u =>
      have hprefix : (c :: u).isPrefixOf (c :: (u ++ rest)) = true :=
        List.isPrefixOf_iff_prefix.mpr (List.prefix_append (c :: u) rest)
      rw [List.cons_append, replaceAll, replaceFrom, if_pos hprefix, List.length_cons,
        Nat.add_sub_cancel, replaceFrom_skip]

/-- No reference begins at another character than an ampersand. -/
theorem replaceAll_append_of_not_mem
    (hpattern : IsReference pattern)
    {u : List Char}
    (hu : '&' ∉ u) :
    replaceAll pattern replacement (u ++ rest) = u ++ replaceAll pattern replacement rest := by
  induction u with
  | nil => rfl
  | cons c u ih =>
      rw [List.mem_cons, not_or] at hu
      have hprefix : ¬ pattern.isPrefixOf (c :: (u ++ rest)) = true := by
        obtain ⟨name, rfl, -, -⟩ := hpattern
        rw [List.isPrefixOf_iff_prefix, List.cons_prefix_cons]
        exact fun h => hu.1 h.1
      have hrest := ih hu.2
      rw [replaceAll] at hrest
      rw [List.cons_append, replaceAll, replaceFrom, if_neg hprefix, hrest, List.cons_append]

/-- Another reference is passed as a whole. -/
theorem replaceAll_append_reference
    (hpattern : IsReference pattern)
    {q : List Char}
    (hq : IsReference q)
    (hne : pattern ≠ q) :
    replaceAll pattern replacement (q ++ rest) = q ++ replaceAll pattern replacement rest := by
  have hprefix : ¬ pattern.isPrefixOf (q ++ rest) = true := by
    rw [List.isPrefixOf_iff_prefix]
    exact fun h => hne (eq_of_prefix_append hpattern hq h)
  obtain ⟨name, rfl, hname, -⟩ := hq
  have hbody : '&' ∉ name ++ [';'] := by simpa using hname
  have hrest : replaceAll pattern replacement (name ++ [';'] ++ rest) =
      name ++ [';'] ++ replaceAll pattern replacement rest :=
    replaceAll_append_of_not_mem hpattern hbody
  rw [replaceAll] at hrest
  rw [List.cons_append] at hprefix ⊢
  rw [replaceAll, replaceFrom, if_neg hprefix, hrest]
  rfl

/-- What stands for a character, by a table of references. -/
def escapeCharBy
    (table : List (String × Char))
    (c : Char) :
    List Char :=
  match table.find? fun p => p.2 = c with
  | some p => p.1.toList
  | none => [c]

/-- A text escaped by a table of references. -/
def escapeBy
    (table : List (String × Char))
    (s : List Char) :
    List Char :=
  s.flatMap (escapeCharBy table)

theorem escapeCharBy_entities (c : Char) :
    escapeCharBy entities c = escapeChar c := by
  unfold escapeChar
  split <;> simp_all [escapeCharBy, entities, eq_comm]

theorem escapeBy_nil (s : List Char) :
    escapeBy [] s = s := by
  induction s with
  | nil => rfl
  | cons c s ih => exact congrArg (c :: ·) ih

/-- Replacing the first reference of a table leaves a text that is escaped by the rest of it. -/
theorem replaceAll_escapeBy
    {p : String × Char}
    (href : ∀ q ∈ p :: table, IsReference q.1.toList)
    (hpattern : p.1 ∉ table.map Prod.fst)
    (hchar : p.2 ∉ table.map Prod.snd)
    (hamp : '&' ∈ (p :: table).map Prod.snd)
    (s : List Char) :
    replaceAll p.1.toList [p.2] (escapeBy (p :: table) s) = escapeBy table s := by
  have hp := href p List.mem_cons_self
  induction s with
  | nil => rfl
  | cons c s ih =>
      have hcons (t : List (String × Char)) : escapeBy t (c :: s) = escapeCharBy t c ++ escapeBy t s :=
        List.flatMap_cons
      rw [hcons, hcons]
      by_cases hc : p.2 = c
      · have hnone : table.find? (fun q => q.2 = c) = none := by
          rw [List.find?_eq_none]
          exact fun q hq heq => hchar (hc ▸ of_decide_eq_true heq ▸ List.mem_map_of_mem hq)
        have hfirst : escapeCharBy (p :: table) c = p.1.toList := by simp [escapeCharBy, hc]
        have hthen : escapeCharBy table c = [p.2] := by simp [escapeCharBy, hnone, hc]
        obtain ⟨name, hname, -, -⟩ := hp
        rw [hfirst, hthen, replaceAll_append_pattern (by simp [hname]), ih]
      · have hsame : escapeCharBy (p :: table) c = escapeCharBy table c := by
          simp [escapeCharBy, hc]
        rw [hsame]
        cases hfind : table.find? (fun q => q.2 = c) with
        | some q =>
            have hq := List.mem_of_find?_eq_some hfind
            have hblock : escapeCharBy table c = q.1.toList := by simp [escapeCharBy, hfind]
            have hne : p.1.toList ≠ q.1.toList := fun heq =>
              hpattern (String.toList_inj.mp heq ▸ List.mem_map_of_mem hq)
            rw [hblock, replaceAll_append_reference hp (href q (List.mem_cons_of_mem _ hq)) hne, ih]
        | none =>
            have hblock : escapeCharBy table c = [c] := by simp [escapeCharBy, hfind]
            -- The ampersand is escaped, so a character that stands for itself is none.
            have hplain : '&' ∉ [c] := by
              rw [List.mem_singleton]
              rintro rfl
              rcases List.mem_cons.mp hamp with heq | hmem
              · exact hc heq.symm
              · obtain ⟨q, hq, heq⟩ := List.mem_map.mp hmem
                exact List.find?_eq_none.mp hfind q hq (decide_eq_true heq)
            rw [hblock, replaceAll_append_of_not_mem hp hplain, ih]

/-- A text that is escaped by a table is decoded by it, if the ampersand comes last: until then no
ampersand is left that has not been escaped. -/
theorem decodeBy_escapeBy
    (href : ∀ p ∈ table, IsReference p.1.toList)
    (hpatterns : (table.map Prod.fst).Nodup)
    (hchars : (table.map Prod.snd).Nodup)
    (hlast : ∀ c, (table.map Prod.snd).getLast? = some c → c = '&')
    (s : List Char) :
    decodeBy table (escapeBy table s) = s := by
  induction table with
  | nil => exact escapeBy_nil s
  | cons p table ih =>
      rw [List.map_cons, List.nodup_cons] at hpatterns hchars
      have hamp : '&' ∈ (p :: table).map Prod.snd := by
        have hsome := List.getLast?_eq_some_getLast (l := (p :: table).map Prod.snd) (by simp)
        rw [← hlast _ hsome]
        exact List.getLast_mem _
      have hrest : ∀ c, (table.map Prod.snd).getLast? = some c → c = '&' := fun c hc =>
        hlast c (by rw [List.map_cons, List.getLast?_cons, hc]; rfl)
      calc decodeBy (p :: table) (escapeBy (p :: table) s)
          = decodeBy table (replaceAll p.1.toList [p.2] (escapeBy (p :: table) s)) := rfl
        _ = decodeBy table (escapeBy table s) := by
            rw [replaceAll_escapeBy href hpatterns.1 hchars.1 hamp]
        _ = s := ih (fun q hq => href q (List.mem_cons_of_mem _ hq)) hpatterns.2 hchars.2 hrest

end Table

theorem decodeEntities_escape (s : List Char) :
    decodeEntities (escape s) = s := by
  have hescape : escape s = escapeBy entities s :=
    List.flatMap_congr fun c _ => (escapeCharBy_entities c).symm
  rw [hescape]
  exact decodeBy_escapeBy isReference_of_mem_entities (by decide) (by decide) (by simp [entities]) s

/-- What stands for a character begins and ends with a blank only if it is one. -/
theorem escapeChar_ends
    {c : Char}
    (hc : isBlank c = false) :
    Tight (escapeChar c) ∧ escapeChar c ≠ [] := by
  unfold escapeChar
  split
  all_goals first
    | exact ⟨⟨by simp; decide, by simp; decide⟩, by simp⟩
    | exact ⟨tight_of_not_blank (by simpa using hc), by simp⟩

theorem tight_escape
    {s : List Char}
    (hs : Tight s) :
    Tight (escape s) := by
  constructor
  · intro c hc
    cases s with
    | nil => cases hc
    | cons d s =>
        obtain ⟨htight, hne⟩ := escapeChar_ends (hs.head d rfl)
        rw [escape, List.flatMap_cons, List.head?_append_of_ne_nil _ hne] at hc
        exact htight.head c hc
  · intro c hc
    rcases List.eq_nil_or_concat s with rfl | ⟨front, d, rfl⟩
    · cases hc
    · rw [List.concat_eq_append] at hs hc
      obtain ⟨htight, hne⟩ := escapeChar_ends (hs.last d (by simp))
      rw [escape, List.flatMap_append, List.flatMap_singleton,
        List.getLast?_append_of_ne_nil _ hne] at hc
      exact htight.last c hc

/-- An element whose content is an escaped text has the text as its own: a text that neither begins nor
ends with a blank is read back whatever it looks like, and a text that was escaped twice is decoded
once. -/
theorem text_of_escaped
    {doc : List Char}
    {e : Element}
    {s : List Char}
    (hs : Tight s) :
    (slice? doc e.inner = some (escape s) → e.text doc = String.ofList s) ∧
      (slice? doc e.inner = some (escape (escape s)) → e.text doc = String.ofList (escape s)) := by
  have hread {t : List Char} (ht : Tight t) (hcontent : slice? doc e.inner = some (escape t)) :
      e.text doc = String.ofList t := by
    rw [Element.text, slice, hcontent, Option.getD_some, trim_of_tight (tight_escape ht),
      decodeEntities_escape]
  exact ⟨hread hs, hread (tight_escape hs)⟩

theorem text_of_escaped_entity :
    ∃ e, root? "<a>&amp;lt;</a>".toList = some e ∧ Tight "&lt;".toList ∧
      slice? "<a>&amp;lt;</a>".toList e.inner = some (escape "&lt;".toList) ∧
      e.text "<a>&amp;lt;</a>".toList = "&lt;" := by
  have htight : Tight "&lt;".toList := tight_of_not_blank (isBlank_eq_false_of_any rfl)
  have hcontent : slice? "<a>&amp;lt;</a>".toList ⟨3, 11⟩ = some (escape "&lt;".toList) := rfl
  exact ⟨⟨"a", ⟨0, 15⟩, ⟨3, 11⟩, false⟩, rfl, htight, hcontent,
    (text_of_escaped htight).1 hcontent⟩

end Markup
end Runbook
