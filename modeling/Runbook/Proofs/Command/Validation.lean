import Runbook.Command.Manifest
import Runbook.Proofs.Text.Kebab

/-!
# Which manifests are refused

A manifest is accepted if no name of an option is blank and no two options share a flag; otherwise the
first option that spoils it is named, together with the first one of its flag. A name that is not blank
may still leave no flag: one of hyphens, underscores and blanks. With such a name, and only with one, an
accepted manifest has an option whose flag is empty.

Main statement: `Command.validate_iff`.
-/

namespace Runbook

/-! ## Names without a flag -/

namespace CommandOption

/-- An option whose name is blank. -/
def Unnamed (o : CommandOption) : Prop :=
  Text.allBlank o.name.toList = true

/-- An option whose flag is empty. -/
def Flagless (o : CommandOption) : Prop :=
  o.flag = ""

theorem isEmpty_trimString_iff
    (o : CommandOption) :
    (Text.trimString o.name).isEmpty = true ↔ o.Unnamed := by
  rw [Unnamed, ← Text.trim_eq_nil_iff, Text.trimString, String.isEmpty_iff]
  simp

/-- A name leaves no flag if it has no character that belongs to a word. -/
theorem flagless_iff
    (o : CommandOption) :
    o.Flagless ↔ ∀ c ∈ o.name.toList, Text.isWordGap c = true := by
  rw [Flagless, flag, Text.kebabCase, ← Text.kebab_eq_nil_iff]
  simp

theorem Unnamed.flagless
    {o : CommandOption}
    (ho : o.Unnamed) :
    o.Flagless :=
  o.flagless_iff.mpr fun _ hc => Text.isWordGap_of_isBlank (Text.isBlank_of_mem ho hc)

end CommandOption

/-! ## The first option that spoils a list -/

section Faults

variable {missing missing' : CommandOption → Prop}
variable {options before after : List CommandOption}
variable {o : CommandOption}

/-- Options of which none is missing and no two share a flag. -/
structure Usable
    (missing : CommandOption → Prop)
    (options : List CommandOption) : Prop where
  present : ∀ o ∈ options, ¬ missing o
  distinct : (options.map CommandOption.flag).Nodup

/-- What is wrong with the first option that cannot be used beside those before it: it is missing, or it
has the flag of an earlier option, the earliest one of that flag. -/
inductive FirstFault
    (missing : CommandOption → Prop) :
    List CommandOption → ManifestError → Prop
  | missing {before after : List CommandOption} {o : CommandOption}
      (hbefore : Usable missing before)
      (ho : missing o) :
      FirstFault missing (before ++ o :: after) (.emptyName before.length)
  | shared {earlier between after : List CommandOption} {first o : CommandOption}
      (hbefore : Usable missing (earlier ++ first :: between))
      (ho : ¬ missing o)
      (hflag : first.flag = o.flag)
      (hfirst : ∀ p ∈ earlier, p.flag ≠ o.flag) :
      FirstFault missing (earlier ++ first :: between ++ o :: after)
        (.sharedFlag first.name o.name o.flag)

theorem usable_nil :
    Usable missing [] :=
  ⟨by simp, by simp⟩

/-- One more option can be used if it is there and its flag is free. -/
theorem usable_concat_iff :
    Usable missing (before ++ [o]) ↔
      Usable missing before ∧ ¬ missing o ∧ ∀ p ∈ before, p.flag ≠ o.flag := by
  constructor
  · rintro ⟨hpresent, hdistinct⟩
    rw [List.map_append, List.map_singleton, List.nodup_append] at hdistinct
    refine ⟨⟨fun p hp => hpresent p (by simp [hp]), hdistinct.1⟩, hpresent o (by simp), ?_⟩
    intro p hp
    exact hdistinct.2.2 _ (List.mem_map_of_mem hp) _ (by simp)
  · rintro ⟨⟨hpresent, hdistinct⟩, ho, hfree⟩
    refine ⟨?_, ?_⟩
    · intro p hp
      rcases List.mem_append.mp hp with hp | hp
      · exact hpresent p hp
      · rwa [List.mem_singleton.mp hp]
    · rw [List.map_append, List.map_singleton, List.nodup_append]
      refine ⟨hdistinct, List.nodup_singleton _, ?_⟩
      intro flag hbefore flag' hlast
      obtain ⟨p, hp, rfl⟩ := List.mem_map.mp hbefore
      rw [List.mem_singleton.mp hlast]
      exact hfree p hp

theorem Usable.of_append
    (h : Usable missing (before ++ after)) :
    Usable missing before := by
  refine ⟨fun p hp => h.present p (List.mem_append_left _ hp), ?_⟩
  exact h.distinct.sublist ((List.sublist_append_left _ _).map _)

theorem Usable.imp
    (himp : ∀ o ∈ options, missing' o → missing o)
    (h : Usable missing options) :
    Usable missing' options :=
  ⟨fun o ho hmissing => h.present o ho (himp o ho hmissing), h.distinct⟩

/-- The fault depends on which of the options are missing. -/
theorem FirstFault.congr
    {e : ManifestError}
    (h : FirstFault missing options e)
    (hiff : ∀ o ∈ options, missing o ↔ missing' o) :
    FirstFault missing' options e := by
  cases h with
  | missing hbefore ho =>
      refine .missing (hbefore.imp fun p hp => (hiff p ?_).mpr) ((hiff _ (by simp)).mp ho)
      exact List.mem_append_left _ hp
  | shared hbefore ho hflag hfirst =>
      refine .shared (hbefore.imp fun p hp => (hiff p ?_).mpr) ?_ hflag hfirst
      · exact List.mem_append_left _ hp
      · exact fun hmissing => ho ((hiff _ (by simp)).mpr hmissing)

end Faults

namespace Command

open CommandOption

/-- The first fault is looked for behind the options that can be used. -/
theorem firstFault?_append
    (seen before rest : List CommandOption)
    (h : Usable Unnamed (seen ++ before)) :
    firstFault? seen (before ++ rest) = firstFault? (seen ++ before) rest := by
  induction before generalizing seen with
  | nil => simp
  | cons o before ih =>
      have hcons : seen ++ o :: before = (seen ++ [o]) ++ before := by simp
      rw [hcons] at h ⊢
      obtain ⟨-, hnamed, hfree⟩ := usable_concat_iff.mp h.of_append
      have hnone : (seen.find? fun p => p.flag = o.flag) = none :=
        List.find?_eq_none.mpr fun p hp => by simpa using hfree p hp
      rw [List.cons_append, firstFault?, if_neg (mt o.isEmpty_trimString_iff.mp hnamed), hnone]
      exact ih (seen ++ [o]) h

/-- What is found behind usable options is the first fault of them all. -/
theorem firstFault?_spec
    (seen rest : List CommandOption)
    (hseen : Usable Unnamed seen) :
    (firstFault? seen rest = none → Usable Unnamed (seen ++ rest)) ∧
      ∀ e, firstFault? seen rest = some e → FirstFault Unnamed (seen ++ rest) e := by
  induction rest generalizing seen with
  | nil => simp [firstFault?, hseen]
  | cons o rest ih =>
      rw [firstFault?]
      split
      · rename_i hblank
        refine ⟨fun h => (nomatch h), ?_⟩
        rintro e ⟨⟩
        exact .missing hseen (o.isEmpty_trimString_iff.mp hblank)
      · rename_i hblank
        have hnamed : ¬ o.Unnamed := mt o.isEmpty_trimString_iff.mpr hblank
        split
        · rename_i first hfound
          obtain ⟨hflag, earlier, between, rfl, hfirst⟩ := List.find?_eq_some_iff_append.mp hfound
          refine ⟨fun h => (nomatch h), ?_⟩
          rintro e ⟨⟩
          exact .shared hseen hnamed (by simpa using hflag) (by simpa using hfirst)
        · rename_i hnone
          have hfree : ∀ p ∈ seen, p.flag ≠ o.flag := by simpa using hnone
          have hnext := ih (seen ++ [o]) (usable_concat_iff.mpr ⟨hseen, hnamed, hfree⟩)
          simpa using hnext

theorem firstFault?_eq_some_of_firstFault
    {options : List CommandOption}
    {e : ManifestError}
    (h : FirstFault Unnamed options e) :
    firstFault? [] options = some e := by
  cases h with
  | missing hbefore ho =>
      rw [firstFault?_append [] _ _ hbefore, List.nil_append, firstFault?,
        if_pos ((isEmpty_trimString_iff _).mpr ho)]
  | @shared earlier between _ first o hbefore ho hflag hfirst =>
      have hfound : ((earlier ++ first :: between).find? fun p => p.flag = o.flag) = some first :=
        List.find?_eq_some_iff_append.mpr
          ⟨by simpa using hflag, earlier, between, rfl, by simpa using hfirst⟩
      rw [firstFault?_append [] (earlier ++ first :: between) _ hbefore, List.nil_append, firstFault?,
        if_neg (mt (isEmpty_trimString_iff _).mp ho), hfound]

theorem validate_eq_ok_iff
    (c : Command) :
    c.validate = .ok () ↔ Usable Unnamed c.options := by
  have hspec := firstFault?_spec [] c.options usable_nil
  rw [validate]
  constructor
  · intro hok
    split at hok
    · cases hok
    · rename_i hnone
      exact hspec.1 hnone
  · intro husable
    have happend := firstFault?_append [] c.options [] husable
    rw [List.append_nil] at happend
    rw [happend]
    rfl

theorem validate_eq_error_iff
    (c : Command)
    (e : ManifestError) :
    c.validate = .error e ↔ FirstFault Unnamed c.options e := by
  have hspec := firstFault?_spec [] c.options usable_nil
  rw [validate]
  constructor
  · intro herror
    split at herror
    · rename_i e' hsome
      cases herror
      exact hspec.2 e hsome
    · cases herror
  · intro hfault
    rw [firstFault?_eq_some_of_firstFault hfault]

/-- A manifest is accepted if its options have names that are not blank and flags of their own, and
refused for the first option that has not. That its flags are not empty either is right for those
manifests in which only blank names leave no flag. -/
theorem validate_iff
    (c : Command) :
    (c.validate = .ok () ↔ Usable Unnamed c.options) ∧
      (∀ e, c.validate = .error e ↔ FirstFault Unnamed c.options e) ∧
      (Usable Flagless c.options ↔ c.validate = .ok () ∧ ∀ o ∈ c.options, ¬ o.Flagless) ∧
      ((∀ o ∈ c.options, o.Flagless → o.Unnamed) →
        (c.validate = .ok () ↔ Usable Flagless c.options) ∧
          ∀ e, c.validate = .error e ↔ FirstFault Flagless c.options e) ∧
      ∀ o : CommandOption, o.Flagless ↔ ∀ d ∈ o.name.toList, Text.isWordGap d = true := by
  refine ⟨c.validate_eq_ok_iff, c.validate_eq_error_iff, ?_, ?_, flagless_iff⟩
  · rw [c.validate_eq_ok_iff]
    constructor
    · exact fun h => ⟨h.imp fun _ _ => Unnamed.flagless, h.present⟩
    · exact fun h => ⟨h.2, h.1.distinct⟩
  · intro hnames
    have hiff : ∀ o ∈ c.options, o.Unnamed ↔ o.Flagless :=
      fun o ho => ⟨Unnamed.flagless, hnames o ho⟩
    refine ⟨?_, fun e => ?_⟩
    · rw [c.validate_eq_ok_iff]
      exact ⟨fun h => h.imp fun o ho => (hiff o ho).mpr, fun h => h.imp fun o ho => (hiff o ho).mp⟩
    · rw [c.validate_eq_error_iff]
      exact ⟨fun h => h.congr hiff, fun h => h.congr fun o ho => (hiff o ho).symm⟩

/-- A blank name is refused at its place, while an underscore is accepted and leaves no flag. -/
theorem validate_iff_underscore :
    let named : CommandOption := ⟨"name", none, none, "string", none, false, none, []⟩
    let blank : CommandOption := { named with name := " " }
    let underscore : CommandOption := { named with name := "_" }
    ((∀ o ∈ [named, blank], o.Flagless → o.Unnamed) ∧
        FirstFault Flagless [named, blank] (.emptyName 1)) ∧
      (Command.mk "hello" "" [named, underscore]).validate = .ok () ∧
      underscore.Flagless ∧
      ¬ Usable Flagless [named, underscore] := by
  intro named blank underscore
  have hnamed : ¬ named.Flagless := by
    rw [Flagless]
    decide
  have hnames : ∀ o ∈ [named, blank], o.Flagless → o.Unnamed := by
    simp only [List.forall_mem_cons, List.not_mem_nil, IsEmpty.forall_iff, implies_true, and_true]
    exact ⟨fun h => absurd h hnamed, fun _ => by rw [Unnamed]; decide⟩
  have hunderscore : underscore.Flagless := by
    rw [Flagless]
    decide
  have hrefused := ((validate_iff ⟨"hello", "", [named, blank]⟩).2.2.2.1 hnames).2 (.emptyName 1)
  have haccepted := (validate_iff ⟨"hello", "", [named, underscore]⟩).2.2.1
  refine ⟨⟨hnames, hrefused.mp (by decide)⟩, by decide, hunderscore, ?_⟩
  exact fun husable => (haccepted.mp husable).2 underscore (by simp) hunderscore

end Command

end Runbook
