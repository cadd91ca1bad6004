import Mathlib.Tactic
import Mathlib.Data.List.Basic
import Runbook.Command.Registry

/-!
# Which commands can be run

A command tree is registered by what is first in it: of the sub-commands that can be called, the first
one of each pair of names becomes a unit, and of the options that can be bound, the first one of each
flag belongs to the unit. Nothing else does, and nothing that is left out takes a name or a flag from
what comes after it.

Main statement: `exists_unique_unit`.
-/

namespace Runbook

/-! ## The first of each key -/

section Firsts

variable {α β κ : Type} [DecidableEq κ]

/-- A list without the members whose key an earlier member has. -/
def firsts (key : α → κ) : List α → List α
  | [] => []
  | a :: rest => a :: (firsts key rest).filter fun b => key b ≠ key a

theorem firsts_sublist
    (key : α → κ) :
    ∀ l : List α, (firsts key l).Sublist l
  | [] => List.Sublist.slnil
  | _ :: rest => (List.filter_sublist.trans (firsts_sublist key rest)).cons_cons _

/-- No two of the first ones share a key. -/
theorem nodup_map_firsts
    (key : α → κ) :
    ∀ l : List α, ((firsts key l).map key).Nodup
  | [] => List.nodup_nil
  | a :: rest => by
      rw [firsts, List.map_cons, List.nodup_cons]
      refine ⟨?_, (nodup_map_firsts key rest).sublist (List.filter_sublist.map key)⟩
      simp only [List.mem_map, List.mem_filter, decide_eq_true_eq, not_exists, not_and, and_imp]
      exact fun b _ hb => hb

/-- The first one of a key is found as it is found in the whole list. -/
theorem find?_firsts
    (key : α → κ)
    (k : κ) :
    ∀ l : List α, (firsts key l).find? (fun b => key b = k) = l.find? fun b => key b = k
  | [] => rfl
  | a :: rest => by
      rw [firsts, List.find?_cons, List.find?_cons]
      by_cases ha : key a = k
      · simp [ha]
      · -- What is dropped has the key of `a`, so it is not what is looked for.
        have hdrop : ∀ b, (key b ≠ key a ∧ key b = k) ↔ key b = k :=
          fun b => and_iff_right_of_imp fun hb hsame => ha (hsame ▸ hb)
        simp only [ha, decide_false, List.find?_filter, decide_eq_true_eq, hdrop]
        exact find?_firsts key k rest

/-- What has the key of a member is found. -/
theorem exists_find?_of_mem
    (key : α → κ)
    {l : List α}
    {a : α}
    (ha : a ∈ l) :
    ∃ b, l.find? (fun b => key b = key a) = some b ∧ key b = key a := by
  obtain ⟨b, hb⟩ : ∃ b, l.find? (fun b => key b = key a) = some b := by
    rw [← Option.isSome_iff_exists, List.find?_isSome]
    exact ⟨a, ha, by simp⟩
  exact ⟨b, hb, by simpa using List.find?_some hb⟩

theorem mem_firsts_iff
    {key : α → κ}
    {l : List α}
    {a : α} :
    a ∈ firsts key l ↔ l.find? (fun b => key b = key a) = some a := by
  rw [← find?_firsts]
  constructor
  · intro ha
    obtain ⟨b, hb, hkey⟩ := exists_find?_of_mem key ha
    rw [hb, List.inj_on_of_nodup_map (nodup_map_firsts key l) (List.mem_of_find?_eq_some hb) ha hkey]
  · exact List.mem_of_find?_eq_some

/-- Every key is that of a first one. -/
theorem exists_mem_firsts
    (key : α → κ)
    {l : List α}
    {a : α}
    (ha : a ∈ l) :
    ∃ b ∈ firsts key l, key b = key a := by
  obtain ⟨b, hb, hkey⟩ := exists_find?_of_mem key ha
  exact ⟨b, mem_firsts_iff.mpr (by rw [hkey, hb]), hkey⟩

theorem map_firsts
    {key : α → κ}
    {key' : β → κ}
    {f : α → β}
    (h : ∀ a, key' (f a) = key a) :
    ∀ l : List α, (firsts key l).map f = firsts key' (l.map f)
  | [] => rfl
  | a :: rest => by
      rw [List.map_cons, firsts, firsts, List.map_cons, ← map_firsts h rest, List.filter_map]
      simp only [Function.comp_def, h]

/-- The first ones of each key that is not taken. -/
def firstsBeside
    (key : α → κ)
    (taken : List κ)
    (l : List α) :
    List α :=
  (firsts key l).filter fun b => key b ∉ taken

theorem firstsBeside_nil
    (key : α → κ)
    (l : List α) :
    firstsBeside key [] l = firsts key l := by
  simp [firstsBeside]

/-- The first of a list is left out if its key is taken, and takes its key else. -/
theorem firstsBeside_cons
    (key : α → κ)
    (taken : List κ)
    (a : α)
    (rest : List α) :
    firstsBeside key taken (a :: rest) =
      if key a ∈ taken then firstsBeside key taken rest
      else a :: firstsBeside key (key a :: taken) rest := by
  by_cases ha : key a ∈ taken
  · rw [if_pos ha, firstsBeside, firsts, List.filter_cons_of_neg (by simpa using ha),
      List.filter_filter, firstsBeside]
    refine List.filter_congr fun b _ => ?_
    rw [← Bool.decide_and, decide_eq_decide]
    exact and_iff_left_of_imp fun hb heq => hb (heq ▸ ha)
  · rw [if_neg ha, firstsBeside, firsts, List.filter_cons_of_pos (by simpa using ha),
      List.filter_filter, firstsBeside]
    refine congrArg (a :: ·) (List.filter_congr fun b _ => ?_)
    rw [← Bool.decide_and, decide_eq_decide, List.mem_cons, not_or, and_comm]

/-- What a first part leaves out or takes, the rest is left with. -/
theorem firstsBeside_append
    (key : α → κ)
    (l l' : List α) :
    ∀ taken : List κ, firstsBeside key taken (l ++ l') =
      firstsBeside key taken l ++
        firstsBeside key ((firstsBeside key taken l).map key ++ taken) l' := by
  induction l with
  | nil =>
      intro taken
      rfl
  | cons a rest ih =>
      intro taken
      rw [List.cons_append, firstsBeside_cons, firstsBeside_cons]
      by_cases ha : key a ∈ taken
      · rw [if_pos ha, if_pos ha, ih]
      · rw [if_neg ha, if_neg ha, ih, List.cons_append]
        congr 2
        refine List.filter_congr fun b _ => ?_
        rw [decide_eq_decide]
        simp only [List.map_cons, List.cons_append, List.mem_append, List.mem_cons]
        tauto

end Firsts

/-! ## Options -/

/-- The option that is bound, whatever is declared before it. -/
def CommandOption.bound? (o : CommandOption) : Option BoundOption :=
  match o.binding with
  | .bound b => some b
  | _ => none

theorem boundOptions_eq
    (os : List CommandOption) :
    ∀ taken : List String, boundOptions taken os =
      firstsBeside BoundOption.flag taken (os.filterMap CommandOption.bound?) := by
  induction os with
  | nil =>
      intro taken
      rfl
  | cons o rest ih =>
      intro taken
      cases hbinding : o.binding with
      | bound b =>
          rw [List.filterMap_cons_some (b := b) (by simp [CommandOption.bound?, hbinding]),
            firstsBeside_cons, ← ih, ← ih]
          simp only [boundOptions, hbinding, List.contains_iff_mem]
      | reserved =>
          rw [List.filterMap_cons_none (by simp [CommandOption.bound?, hbinding]), ← ih]
          simp only [boundOptions, hbinding]
      | unknownType =>
          rw [List.filterMap_cons_none (by simp [CommandOption.bound?, hbinding]), ← ih]
          simp only [boundOptions, hbinding]

/-- An option can be bound when its flag is not kept for the program and its type is known. -/
def CommandOption.IsBindable (o : CommandOption) : Prop :=
  o.flag ∉ ["help", "version"] ∧ (OptionKind.ofDataType? o.dataType).isSome = true

instance : DecidablePred CommandOption.IsBindable :=
  fun o => inferInstanceAs (Decidable (o.flag ∉ ["help", "version"] ∧ _))

theorem bound?_eq_some_iff
    {o : CommandOption}
    {b : BoundOption} :
    o.bound? = some b ↔
      o.IsBindable ∧ b.option = o ∧ OptionKind.ofDataType? o.dataType = some b.kind := by
  have hflag : isReservedFlag o.flag = true ↔ o.flag ∈ ["help", "version"] := by
    simp [isReservedFlag]
  obtain ⟨option, kind⟩ := b
  simp only [CommandOption.bound?, CommandOption.binding, CommandOption.IsBindable, ← hflag]
  by_cases hreserved : isReservedFlag o.flag = true
  · simp [hreserved]
  · cases htype : OptionKind.ofDataType? o.dataType with
    | none => simp [hreserved]
    | some k => simp [hreserved, eq_comm]

theorem map_option_bound?
    (os : List CommandOption) :
    (os.filterMap CommandOption.bound?).map BoundOption.option =
      os.filter fun o => o.IsBindable := by
  rw [List.map_filterMap]
  induction os with
  | nil => rfl
  | cons o rest ih =>
      by_cases ho : o.IsBindable
      · obtain ⟨kind, hkind⟩ := Option.isSome_iff_exists.mp ho.2
        have hbound : o.bound? = some ⟨o, kind⟩ := bound?_eq_some_iff.mpr ⟨ho, rfl, hkind⟩
        rw [List.filterMap_cons_some (by rw [hbound]; rfl), ih,
          List.filter_cons_of_pos (by simpa using ho)]
      · have hnone : o.bound? = none := by
          rw [Option.eq_none_iff_forall_ne_some]
          exact fun b hb => ho (bound?_eq_some_iff.mp hb).1
        rw [List.filterMap_cons_none (by rw [hnone]; rfl), ih,
          List.filter_cons_of_neg (by simpa using ho)]

/-! ## Units -/

/-- The sub-commands of a tree, each with its command, in the order in which they were scanned. -/
def CommandTree.pairs (tree : CommandTree) : List (ScannedCommand × ScannedCommand) :=
  tree.flatMap fun entry => entry.2.map fun sub => (entry.1, sub)

/-- The names that a sub-command and its command are called by. -/
def namesOf (p : ScannedCommand × ScannedCommand) : String × String :=
  (p.1.command.name, p.2.command.name)

/-- A sub-command can be called unless a name that it needs is kept for the program. -/
def IsCallable (p : ScannedCommand × ScannedCommand) : Prop :=
  p.1.command.name ∉ ["command", "help"] ∧ p.1.directory ∉ ["command", "help"] ∧
    p.2.command.name ≠ "help"

instance : DecidablePred IsCallable :=
  fun p => inferInstanceAs (Decidable (p.1.command.name ∉ ["command", "help"] ∧ _))

/-- The sub-commands of a tree that can be called. -/
def CommandTree.callable (tree : CommandTree) : List (ScannedCommand × ScannedCommand) :=
  tree.pairs.filter fun p => IsCallable p

/-- The options of a unit: of those that can be bound, the sub-command's before the command's, the first
of each flag, with its kind. -/
structure BindsFirst
    (p : ScannedCommand × ScannedCommand)
    (options : List BoundOption) : Prop where
  options_eq : options.map BoundOption.option =
    firsts CommandOption.flag
      ((p.2.command.options ++ p.1.command.options).filter fun o => o.IsBindable)
  kind : ∀ b ∈ options, OptionKind.ofDataType? b.option.dataType = some b.kind
  distinct : (options.map BoundOption.flag).Nodup

/-- A unit that is made from a sub-command and its command. -/
structure Invocable.MadeFrom
    (u : Invocable)
    (p : ScannedCommand × ScannedCommand) : Prop where
  command : u.command = p.1.command
  subcommand : u.subcommand = p.2.command
  path : u.path = p.2.path
  options : BindsFirst p u.options

theorem bindsFirst_boundOptions
    (p : ScannedCommand × ScannedCommand) :
    BindsFirst p (boundOptions [] (p.2.command.options ++ p.1.command.options)) := by
  rw [boundOptions_eq, firstsBeside_nil]
  refine ⟨?_, fun b hb => ?_, nodup_map_firsts _ _⟩
  · rw [← map_option_bound?]
    exact map_firsts (fun _ => rfl) _
  · obtain ⟨o, -, ho⟩ := List.mem_filterMap.mp ((firsts_sublist _ _).subset hb)
    obtain ⟨-, rfl, hkind⟩ := bound?_eq_some_iff.mp ho
    exact hkind

/-- The unit of a sub-command and its command. -/
def unitOf (p : ScannedCommand × ScannedCommand) : Invocable :=
  (Invocable.of p.1 p.2).1

theorem madeFrom_unitOf
    (p : ScannedCommand × ScannedCommand) :
    (unitOf p).MadeFrom p :=
  ⟨rfl, rfl, rfl, bindsFirst_boundOptions p⟩

theorem names_unitOf
    (p : ScannedCommand × ScannedCommand) :
    (unitOf p).names = namesOf p :=
  rfl

/-- Below a command whose names are free, the first sub-command of each name becomes a unit unless its
names are taken. -/
theorem registerBelow_eq
    {command : ScannedCommand}
    (hname : command.command.name ∉ ["command", "help"])
    (hdirectory : command.directory ∉ ["command", "help"])
    (subs : List ScannedCommand) :
    ∀ taken : List (String × String), (registerBelow command taken subs).1 =
      firstsBeside Invocable.names taken
        (((subs.map fun sub => (command, sub)).filter fun p => IsCallable p).map unitOf) := by
  induction subs with
  | nil =>
      intro taken
      rfl
  | cons sub rest ih =>
      intro taken
      by_cases hsub : sub.command.name = "help"
      · have hnot : ¬ IsCallable (command, sub) := fun h => h.2.2 hsub
        rw [List.map_cons, List.filter_cons_of_neg (by simpa using hnot), ← ih]
        simp [registerBelow, hsub]
      · have hcallable : IsCallable (command, sub) := ⟨hname, hdirectory, hsub⟩
        have hnames : (unitOf (command, sub)).names = (command.command.name, sub.command.name) :=
          rfl
        rw [List.map_cons, List.filter_cons_of_pos (by simpa using hcallable), List.map_cons,
          firstsBeside_cons, ← ih, ← ih, hnames]
        by_cases htaken : (command.command.name, sub.command.name) ∈ taken
        · simp [registerBelow, htaken]
        · simp [registerBelow, hsub, htaken, unitOf]

theorem isReservedName_iff
    {name : String} :
    isReservedName name = true ↔ name ∈ ["command", "help"] := by
  rw [isReservedName, Bool.or_eq_true, decide_eq_true_eq, decide_eq_true_eq, reservedNamespace]
  simp

/-- The first sub-command of each pair of names becomes a unit unless the names are taken. -/
theorem registerAfter_eq
    (tree : CommandTree) :
    ∀ taken : List (String × String), (registerAfter taken tree).1 =
      firstsBeside Invocable.names taken (tree.callable.map unitOf) := by
  induction tree with
  | nil =>
      intro taken
      rfl
  | cons entry rest ih =>
      intro taken
      obtain ⟨command, subs⟩ := entry
      have hcallable : CommandTree.callable ((command, subs) :: rest) =
          ((subs.map fun sub => (command, sub)).filter fun p => IsCallable p) ++
            CommandTree.callable rest := by
        simp [CommandTree.callable, CommandTree.pairs]
      have hreserved : (isReservedName command.command.name || isReservedName command.directory) =
          true ↔ command.command.name ∈ ["command", "help"] ∨
            command.directory ∈ ["command", "help"] := by
        rw [Bool.or_eq_true, isReservedName_iff, isReservedName_iff]
      by_cases hfree : command.command.name ∉ ["command", "help"] ∧
          command.directory ∉ ["command", "help"]
      · have hopen : ¬ (isReservedName command.command.name ||
            isReservedName command.directory) = true := by
          rw [hreserved, not_or]
          exact hfree
        rw [hcallable, List.map_append, firstsBeside_append, ← registerBelow_eq hfree.1 hfree.2,
          ← ih]
        simp [registerAfter, hopen]
      · have hclosed : (isReservedName command.command.name ||
            isReservedName command.directory) = true := by
          rw [hreserved]
          tauto
        have hnone : ((subs.map fun sub => (command, sub)).filter fun p => IsCallable p) = [] := by
          rw [List.filter_eq_nil_iff]
          intro p hp
          obtain ⟨sub, -, rfl⟩ := List.mem_map.mp hp
          simp only [decide_eq_true_eq]
          exact fun h => hfree ⟨h.1, h.2.1⟩
        rw [hcallable, hnone, List.nil_append, ← ih]
        simp [registerAfter, hclosed]

theorem register_eq
    (tree : CommandTree) :
    (register tree).1 = firsts Invocable.names (tree.callable.map unitOf) := by
  rw [register, registerAfter_eq, firstsBeside_nil]

/-- A registered unit is called by names of its own and made from the first sub-command that can be
called by them, with its options and those of the command. Every sub-command that can be called has
exactly one unit of its names, and a unit is found by its names. -/
theorem exists_unique_unit
    (tree : CommandTree) :
    ((register tree).1.map Invocable.names).Nodup ∧
      (∀ u ∈ (register tree).1, ∃ p,
        tree.callable.find? (fun q => namesOf q = u.names) = some p ∧ u.MadeFrom p) ∧
      (∀ p ∈ tree.callable, ∃! u, u ∈ (register tree).1 ∧ u.names = namesOf p) ∧
      ∀ u ∈ (register tree).1,
        findUnit? (register tree).1 u.command.name u.subcommand.name = some u := by
  have hdistinct : ((register tree).1.map Invocable.names).Nodup := by
    rw [register_eq]
    exact nodup_map_firsts _ _
  refine ⟨hdistinct, fun u hu => ?_, fun p hp => ?_, fun u hu => ?_⟩
  · have hunits : (firsts namesOf tree.callable).map unitOf = (register tree).1 :=
      (map_firsts (fun _ => rfl) _).trans (register_eq tree).symm
    rw [← hunits] at hu
    obtain ⟨p, hp, rfl⟩ := List.mem_map.mp hu
    exact ⟨p, mem_firsts_iff.mp hp, madeFrom_unitOf p⟩
  · have hunit : unitOf p ∈ tree.callable.map unitOf := List.mem_map_of_mem hp
    obtain ⟨u, hu, hnames⟩ := exists_mem_firsts Invocable.names hunit
    rw [← register_eq] at hu
    refine ⟨u, ⟨hu, hnames⟩, fun v hv => ?_⟩
    exact List.inj_on_of_nodup_map hdistinct hv.1 hu (hv.2.trans hnames.symm)
  · rw [register_eq] at hu
    rw [findUnit?, register_eq, find?_firsts]
    exact mem_firsts_iff.mp hu

end Runbook
