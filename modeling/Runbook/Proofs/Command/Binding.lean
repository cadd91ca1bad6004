import Runbook.CommandLine.Parse
import Runbook.Proofs.Json.Dictionary
import Runbook.Proofs.Text.Kebab
import Runbook.Run.Pipeline

/-!
# Values of a command line and their names

What is read from a command line are values for arguments of the command that the line leads to: every
step of reading keeps to them. So the values for a unit are keyed by the flags of its options. In the
context they stand under the kebab forms of these flags, which are the flags themselves exactly where
the names of the options are steady.

Main statement: `buildContext_eq_iff`.
-/

namespace Runbook

/-! ## What a state of reading holds -/

/-- An argument that can be given a value. -/
def Argument.IsGiven (a : Argument) : Prop :=
  a.role ≠ .help ∧ a.role ≠ .version

/-- The arguments of a command. -/
def CommandForm.arguments (c : CommandForm) : List Argument :=
  c.flags ++ c.positionals

/-- Values for arguments of a command, in the order of their names. -/
structure CommandForm.Binds
    (c : CommandForm)
    (values : Dict String) :
    Prop where
  sorted : Dict.Sorted values
  argument : ∀ p ∈ values, ∃ a ∈ c.arguments, a.id = p.1 ∧ a.IsGiven

/-- A state that holds nothing but arguments of a command. -/
structure ParseState.Fits
    (c : CommandForm)
    (s : ParseState) :
    Prop where
  settled : c.Binds s.settled
  pending : ∀ p, s.pending = some p → p.argument ∈ c.arguments
  positions : ∀ a ∈ s.positions, a ∈ c.arguments

namespace ParseState

section Steps

variable {c : CommandForm} {s t : ParseState} {a : Argument}

theorem fits_start (c : CommandForm) :
    (start c).Fits c where
  settled := ⟨List.Pairwise.nil, fun _ hp => absurd hp List.not_mem_nil⟩
  pending := fun _ hp => by cases hp
  positions := fun _ ha => List.mem_append_right _ ha

theorem binds_insert
    {values : Dict String}
    (h : c.Binds values)
    (ha : a ∈ c.arguments)
    (hgiven : a.IsGiven)
    (text : String) :
    c.Binds (Dict.insert values a.id text) where
  sorted := h.sorted.insert a.id text
  argument := by
    intro p hp
    rcases Dict.mem_insert hp with rfl | hp
    · exact ⟨a, ha, rfl, hgiven⟩
    · exact h.argument p hp

theorem Fits.settle
    {values : List String}
    (h : s.Fits c)
    (ha : a ∈ c.arguments)
    (hsettle : s.settle a values = .ok t) :
    t.Fits c := by
  have hinsert : a.IsGiven → ∀ text, Fits c { s with settled := Dict.insert s.settled a.id text } :=
    fun hgiven text => ⟨binds_insert h.settled ha hgiven text, h.pending, h.positions⟩
  unfold ParseState.settle at hsettle
  cases hrole : a.role with
  | help => simp [hrole] at hsettle
  | version => simp [hrole] at hsettle
  | switch =>
      simp only [hrole] at hsettle
      split at hsettle
      · cases hsettle
      · cases hsettle
        exact hinsert (by simp [Argument.IsGiven, hrole]) _
  | value rule whenMissing =>
      simp only [hrole] at hsettle
      split at hsettle
      · cases hsettle
      · split at hsettle
        · cases hsettle
        · split at hsettle
          · cases hsettle
          · cases hsettle
            exact hinsert (by simp [Argument.IsGiven, hrole]) _

theorem Fits.settlePending
    (h : s.Fits c)
    (hsettle : s.settlePending = .ok t) :
    t.Fits c := by
  unfold ParseState.settlePending at hsettle
  split at hsettle
  · cases hsettle
    exact h
  · rename_i p hp
    have hcleared : Fits c { s with pending := none, waiting := false } :=
      ⟨h.settled, fun _ hq => by (cases hq), h.positions⟩
    exact hcleared.settle (h.pending p hp) hsettle

theorem Fits.takeFlag
    {attached : Option String}
    (h : s.Fits c)
    (ha : a ∈ c.arguments)
    (htake : s.takeFlag a attached = .ok t) :
    t.Fits c := by
  unfold ParseState.takeFlag at htake
  split at htake
  · obtain ⟨u, hu, rfl⟩ : ∃ u, s.settlePending = .ok u ∧
        { u with pending := some ⟨a, []⟩, waiting := true } = t := by
      cases hpending : s.settlePending with
      | error e => rw [hpending] at htake; cases htake
      | ok u => rw [hpending] at htake; cases htake; exact ⟨u, rfl, rfl⟩
    have hfits := h.settlePending hu
    exact ⟨hfits.settled, fun p hp => by cases hp; exact ha, hfits.positions⟩
  · split at htake
    · cases htake
    · rename_i u hu
      exact (h.settlePending hu).settle ha htake
  · cases htake
  · split at htake
    · cases htake
    · rename_i u hu
      exact (h.settlePending hu).settle ha htake

theorem mem_arguments_of_find?
    {test : Argument → Bool}
    (h : c.flags.find? test = some a) :
    a ∈ c.arguments :=
  List.mem_append_left _ (List.mem_of_find?_eq_some h)

theorem Fits.takeLong
    {body : List Char}
    (h : s.Fits c)
    (htake : s.takeLong c body = .ok t) :
    t.Fits c := by
  unfold ParseState.takeLong at htake
  cases hfound : c.flags.find? fun a => a.long = some (String.ofList (body.takeWhile (· ≠ '='))) with
  | none =>
      simp only [hfound] at htake
      cases htake
  | some a =>
      simp only [hfound] at htake
      exact h.takeFlag (mem_arguments_of_find? hfound) htake

theorem Fits.takeShort
    {letters : List Char}
    (h : s.Fits c)
    (htake : s.takeShort c letters = .ok t) :
    t.Fits c := by
  induction letters generalizing s with
  | nil =>
      cases htake
      exact h
  | cons letter letters ih =>
      rw [ParseState.takeShort] at htake
      split at htake
      · cases htake
      · rename_i a ha
        split at htake
        · cases htake
        · rename_i u hu
          exact ih (h.takeFlag (mem_arguments_of_find? ha) hu) htake

theorem Fits.takePositional
    {word : String}
    (h : s.Fits c)
    (htake : s.takePositional c word = .ok t) :
    t.Fits c := by
  unfold ParseState.takePositional at htake
  split at htake
  · rename_i a rest hpositions
    split at htake
    · cases htake
    · rename_i u hu
      have hfits := h.settlePending hu
      have hrest : Fits c { u with positions := rest } :=
        ⟨hfits.settled, hfits.pending, fun b hb =>
          h.positions b (hpositions ▸ List.mem_cons_of_mem a hb)⟩
      exact hrest.settle (h.positions a (hpositions ▸ List.mem_cons_self)) htake
  · split at htake
    · cases htake
    · split at htake <;> cases htake

theorem Fits.takeWord
    {word : String}
    (h : s.Fits c)
    (htake : s.takeWord c word = .ok t) :
    t.Fits c := by
  unfold ParseState.takeWord at htake
  split at htake
  · exact h.takePositional htake
  · split at htake
    · cases htake
      exact ⟨h.settled, h.pending, h.positions⟩
    · exact h.takeLong htake
    · exact h.takeShort htake
    · rename_i p _ hp _ _ _
      cases htake
      exact ⟨h.settled, fun q hq => by cases hq; exact h.pending p hp, h.positions⟩
    · exact h.takePositional htake

theorem Fits.withDefault
    (h : s.Fits c)
    (ha : a ∈ c.arguments)
    (hdefault : s.withDefault a = .ok t) :
    t.Fits c := by
  unfold ParseState.withDefault at hdefault
  split at hdefault
  · exact h.settle ha hdefault
  · cases hdefault
    exact h

theorem Fits.foldlM_withDefault
    {arguments : List Argument}
    (h : s.Fits c)
    (harguments : ∀ a ∈ arguments, a ∈ c.arguments)
    (hfold : arguments.foldlM ParseState.withDefault s = .ok t) :
    t.Fits c := by
  induction arguments generalizing s with
  | nil =>
      cases hfold
      exact h
  | cons a arguments ih =>
      obtain ⟨ha, hrest⟩ := List.forall_mem_cons.mp harguments
      cases hdefault : s.withDefault a with
      | error e => simp [List.foldlM_cons, hdefault, bind, Except.bind] at hfold
      | ok u =>
          rw [List.foldlM_cons, hdefault] at hfold
          exact ih (h.withDefault ha hdefault) hrest hfold

theorem Fits.finish
    {values : Dict String}
    (h : s.Fits c)
    (hfinish : s.finish c = .ok values) :
    c.Binds values := by
  unfold ParseState.finish at hfinish
  split at hfinish
  · cases hfinish
  · rename_i u hu
    simp only at hfinish
    split at hfinish
    · cases hfinish
    · rename_i v hv
      split at hfinish
      · cases hfinish
      · split at hfinish
        · cases hfinish
        · cases hfinish
          exact ((h.settlePending hu).foldlM_withDefault (fun a ha => ha) hv).settled

end Steps

end ParseState

/-! ## Whose arguments a line has -/

/-- One command leads to another along the names of the commands below it. -/
inductive CommandForm.Leads : CommandForm → List String → CommandForm → Prop
  | here (c : CommandForm) : Leads c [] c
  | step
      {c sub target : CommandForm}
      {word : String}
      {path : List String}
      (hsub : c.subcommand? word = some sub)
      (hrest : Leads sub path target) :
      Leads c (sub.name :: path) target

/-- A line that is understood has values for arguments of the command that it leads to. -/
theorem exists_leads_of_parseWords
    {c : CommandForm}
    {s : ParseState}
    {words : List String}
    {line : ParsedLine}
    (h : s.Fits c)
    (hline : parseWords c s words = .ok line) :
    ∃ target, c.Leads line.path target ∧ target.Binds line.values := by
  induction words generalizing c s line with
  | nil =>
      rw [parseWords] at hline
      cases hfinish : s.finish c with
      | error e => rw [hfinish] at hline; cases hline
      | ok values =>
          rw [hfinish] at hline
          cases hline
          exact ⟨c, .here c, h.finish hfinish⟩
  | cons word words ih =>
      rw [parseWords] at hline
      split at hline
      · rename_i sub _ hsub
        cases hbelow : parseWords sub (.start sub) words with
        | error e => rw [hbelow] at hline; cases hline
        | ok below =>
            rw [hbelow] at hline
            cases hline
            obtain ⟨target, hleads, hbinds⟩ := ih (ParseState.fits_start sub) hbelow
            exact ⟨target, .step hsub hleads, hbinds⟩
      · split at hline
        · cases hline
        · split at hline
          · cases hline
          · rename_i t ht
            exact ih (h.takeWord ht) hline

/-! ## Whose arguments a unit has -/

section Units

variable {units : List Invocable} {offersHelp : Bool}

/-- Below the commands of units the word for a sub-command leads to the form of the unit that is
found by the names of both. -/
theorem exists_unit_of_subcommand
    {group sub : CommandForm}
    {word : String}
    (hgroup : group ∈ unitForms offersHelp units)
    (hsub : group.subcommand? word = some sub) :
    ∃ u, findUnit? units group.name sub.name = some u ∧ sub = u.form offersHelp := by
  obtain ⟨name, -, rfl⟩ := List.mem_map.mp hgroup
  have hfound : ((units.filter fun u => u.command.name = name).map
      (Invocable.form offersHelp)).find? (fun f => f.names.contains word) = some sub := hsub
  rw [List.find?_map, List.find?_filter, Option.map_eq_some_iff] at hfound
  obtain ⟨u, hu, rfl⟩ := hfound
  have hboth : u.command.name = name ∧ u.subcommand.name = word := by
    have htest := List.find?_some hu
    simpa [Invocable.form, CommandForm.names, @eq_comm _ word] using htest
  refine ⟨u, ?_, rfl⟩
  rw [← hu, findUnit?]
  refine congrFun (congrArg List.find? (funext fun v => ?_)) units
  simp [Invocable.names, Invocable.form, CommandForm.names, CommandForm.name, hboth.2,
    @eq_comm _ word]

/-- A line that names a command of the user and a sub-command has values for options of the unit
that is found by these names. -/
theorem exists_unit_of_parseLine
    {form : CommandForm}
    {typed : List String}
    {line : ParsedLine}
    {name subname : String}
    (hform : form = programForm units ∨ form = userForm units)
    (hline : parseLine form typed = .ok line)
    (hpath : line.path = [name, subname])
    (hname : name ≠ reservedNamespace) :
    ∃ u, findUnit? units name subname = some u ∧ Dict.Sorted line.values ∧
      ∀ p ∈ line.values, ∃ o ∈ u.options, o.flag = p.1 := by
  obtain ⟨target, hleads, hbinds⟩ :=
    exists_leads_of_parseWords (ParseState.fits_start form) hline
  rw [hpath] at hleads
  obtain ⟨offersHelp, u, hu, rfl⟩ : ∃ offersHelp u,
      findUnit? units name subname = some u ∧ target = u.form offersHelp := by
    cases hleads with
    | @step _ group _ word _ hgroup hrest =>
        cases hrest with
        | @step _ sub _ word _ hsub hrest =>
            cases hrest
            have hmem := List.mem_of_find?_eq_some hgroup
            rcases hform with rfl | rfl
            · rcases List.mem_cons.mp hmem with rfl | hmem
              · exact absurd rfl hname
              · obtain ⟨u, hu, rfl⟩ := exists_unit_of_subcommand hmem hsub
                exact ⟨false, u, hu, rfl⟩
            · obtain ⟨u, hu, rfl⟩ := exists_unit_of_subcommand hmem hsub
              exact ⟨true, u, hu, rfl⟩
  refine ⟨u, hu, hbinds.sorted, fun p hp => ?_⟩
  obtain ⟨a, ha, hid, hgiven⟩ := hbinds.argument p hp
  have hoption : a ∈ u.options.map BoundOption.argument ++ [helpArgument] ++ [] := ha
  rw [List.append_nil, List.mem_append, List.mem_map, List.mem_singleton] at hoption
  rcases hoption with ⟨o, ho, rfl⟩ | rfl
  · exact ⟨o, ho, hid⟩
  · exact absurd rfl hgiven.1

end Units

/-! ## The context of a line -/

/-- Flags name the values of a line in the context exactly if each of them is its own kebab form. -/
theorem optionFacts_eq_iff
    {values : Dict String}
    (hsorted : Dict.Sorted values)
    (hflags : ∀ p ∈ values, ∃ name, p.1 = Text.kebabCase name) :
    optionFacts values = values.map (Prod.map id Json.string) ↔
      ∀ p ∈ values, Text.kebabCase p.1 = p.1 := by
  constructor
  · intro heq p hp
    -- A flag that is a key of the context is the second kebab form of a name, so it stays.
    have hkey : (Dict.get? (optionFacts values) p.1).isSome := by
      have hmem : (p.1, Json.string p.2) ∈ values.map (Prod.map id Json.string) :=
        List.mem_map_of_mem hp
      have hnodup : ((values.map (Prod.map id Json.string)).map Prod.fst).Nodup := by
        simpa [Function.comp_def] using hsorted.nodup
      rw [heq, (Dict.get?_eq_some_iff hnodup).mpr hmem]
      rfl
    rw [optionFacts, Dict.get?_ofList, Option.isSome_map, List.find?_isSome] at hkey
    obtain ⟨e, he, hfst⟩ := hkey
    obtain ⟨q, hq, rfl⟩ := List.mem_map.mp (List.mem_reverse.mp he)
    obtain ⟨name, hname⟩ := hflags q hq
    have hsecond : p.1 = Text.kebabCase (Text.kebabCase name) := by
      rw [← hname]
      exact (of_decide_eq_true hfst).symm
    rw [hsecond]
    simp [Text.kebabCase, Text.kebab_kebab_kebab]
  · intro hstay
    have hmap : values.map (fun p => (Text.kebabCase p.1, Json.string p.2)) =
        values.map (Prod.map id Json.string) :=
      List.map_congr_left fun p hp => by rw [hstay p hp]; rfl
    have hordered : Dict.Sorted (values.map (Prod.map id Json.string)) :=
      List.pairwise_map.mpr hsorted
    exact (congrArg Dict.ofList hmap).trans (Dict.ofList_of_sorted hordered)

theorem kebabCase_flag_iff
    (o : BoundOption) :
    Text.kebabCase o.flag = o.flag ↔ Text.Steady o.option.name.toList := by
  rw [← Text.kebab_kebab_iff, BoundOption.flag, CommandOption.flag, Text.kebabCase, Text.kebabCase,
    String.toList_ofList, String.ofList_inj]

/-- A second kebab form is the first one exactly for steady names, and a third one brings nothing new.
So the values that a command line has for the options of a unit stand under their flags in the context
exactly if the names of these options are steady. -/
theorem buildContext_eq_iff
    (s : List Char) :
    Text.kebab (Text.kebab (Text.kebab s)) = Text.kebab (Text.kebab s) ∧
      (Text.kebab (Text.kebab s) = Text.kebab s ↔ Text.Steady s) ∧
      ∀ (units : List Invocable) (form : CommandForm) (typed : List String) (line : ParsedLine)
        (name subname : String),
        (form = programForm units ∨ form = userForm units) →
        parseLine form typed = .ok line → line.path = [name, subname] → name ≠ reservedNamespace →
        ∃ u, findUnit? units name subname = some u ∧
          (∀ p ∈ line.values, ∃ o ∈ u.options, o.flag = p.1) ∧
          ∀ (host : Host) (s : Setting) (d : Disk),
            buildContext host s d line.values [] =
                ([], .ok (line.values.map (Prod.map id Json.string))) ↔
              ∀ o ∈ u.options, Dict.has line.values o.flag = true →
                Text.Steady o.option.name.toList := by
  refine ⟨Text.kebab_kebab_kebab s, Text.kebab_kebab_iff s,
    fun units form typed line name subname hform hline hpath hname => ?_⟩
  obtain ⟨u, hu, hsorted, hflags⟩ := exists_unit_of_parseLine hform hline hpath hname
  refine ⟨u, hu, hflags, fun host s d => ?_⟩
  have hnames : ∀ p ∈ line.values, ∃ name, p.1 = Text.kebabCase name := by
    intro p hp
    obtain ⟨o, -, ho⟩ := hflags p hp
    exact ⟨o.option.name, ho.symm⟩
  have hcontext : buildContext host s d line.values [] = ([], .ok (optionFacts line.values)) := rfl
  rw [hcontext, Prod.mk.injEq, eq_self_iff_true, true_and, Except.ok.injEq,
    optionFacts_eq_iff hsorted hnames]
  constructor
  · intro hstay o _ hhas
    obtain ⟨value, hvalue⟩ := Option.isSome_iff_exists.mp hhas
    have hflag : Text.kebabCase o.flag = o.flag :=
      hstay (o.flag, value) (Dict.mem_of_get? hvalue)
    exact (kebabCase_flag_iff o).mp hflag
  · intro hsteady p hp
    obtain ⟨o, ho, hflag⟩ := hflags p hp
    have hvalue : Dict.get? line.values p.1 = some p.2 :=
      (Dict.get?_eq_some_iff hsorted.nodup).mpr hp
    have hhas : Dict.has line.values o.flag = true := by
      rw [hflag, Dict.has, hvalue, Option.isSome_some]
    rw [← hflag]
    exact (kebabCase_flag_iff o).mpr (hsteady o ho hhas)

/-- A capital without a small form, behind a letter: the flag of the name is `a𝐀`, and its value stands
under `a-𝐀`. -/
theorem buildContext_eq_iff_bold :
    ∃ (units : List Invocable) (line : ParsedLine),
      parseLine (programForm units) ["hello", "run", "--a𝐀", "x"] = .ok line ∧
      line.values = [("a𝐀", "x")] ∧
      Text.kebab (Text.kebab "A𝐀".toList) ≠ Text.kebab "A𝐀".toList ∧
      ∀ (host : Host) (s : Setting) (d : Disk),
        buildContext host s d line.values [] ≠ ([], .ok [("a𝐀", .string "x")]) := by
  let o : BoundOption := ⟨⟨"A𝐀", none, none, "string", none, false, none, []⟩, .text⟩
  let u : Invocable := ⟨⟨"hello", "", []⟩, ⟨"run", "", []⟩, "hello/run", [o]⟩
  have hline : parseLine (programForm [u]) ["hello", "run", "--a𝐀", "x"] =
      .ok ⟨["hello", "run"], [("a𝐀", "x")]⟩ := by
    decide +kernel
  have hslip : ¬ Text.Steady o.option.name.toList := by
    decide +kernel
  refine ⟨[u], _, hline, rfl, fun heq => hslip ((buildContext_eq_iff _).2.1.mp heq), ?_⟩
  intro host s d heq
  obtain ⟨v, hv, -, hcontext⟩ := (buildContext_eq_iff []).2.2 [u] _ _ _ "hello" "run" (Or.inl rfl) hline rfl
    (by decide)
  have hfound : findUnit? [u] "hello" "run" = some u := by decide +kernel
  obtain rfl : v = u := Option.some.inj (hv.symm.trans hfound)
  exact hslip ((hcontext host s d).mp heq o List.mem_cons_self (by decide +kernel))

end Runbook
