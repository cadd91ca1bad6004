import Runbook.Proofs.Command.Scaffolding

/-!
# Units that are called by their directories

Where no manifest gives a name, a unit is called by the two directories that it is found in, and every
two directories have a unit unless their names are kept for the program. So a new command is one more
unit, for the two names that it is made by, and all other units stay. What leads into the new directory
by another name, or is below a root that is only there once the command has been made, is found as well,
and has units of its own.

Main statements: `mem_names_iff` and `newCommand_adds_unit`.
-/

namespace Runbook

open Runbook.Disk Runbook.Path

/-! ## Units below a root without names -/

/-- A manifest that can be read gives no name, or a blank one. -/
def IsNameless (text : String) : Prop :=
  ∀ c, Yaml.Node.read? (Yaml.Node.optional Command.ofNode) text.toList = some (some c) →
    (Text.trimString c.name).isEmpty = true

/-- No manifest of a command that is found below a root gives a name. -/
def NamelessBelow
    (d : Disk)
    (root : String) : Prop :=
  ∀ c ∈ (scanOrEmpty d root).1.commands, ∀ file text,
    HasManifest d c.path file (.text text) → IsNameless text

section Naming

variable {d : Disk}
variable {root path name sub : String}
variable {place : Place}
variable {tree : CommandTree}

theorem Command.name_fillDefaults
    (c : Command)
    (directory : String) :
    (c.fillDefaults directory).name =
      if (Text.trimString c.name).isEmpty then directory else c.name := by
  rfl

/-- What a manifest without name describes is called by its directory. -/
theorem IsNameless.name_eq
    {text directory : String}
    {c : Command}
    (h : IsNameless text)
    (hread : Command.ofManifest? directory text = some c) :
    c.name = directory := by
  obtain ⟨found, hfound, rfl⟩ := Option.map_eq_some_iff.mp hread
  rw [Command.name_fillDefaults]
  cases found with
  | none => exact ite_self directory
  | some c =>
      rw [Option.getD_some]
      exact if_pos (h c hfound)

theorem Describes.name_eq
    {directory : String}
    {c : Command}
    (h : Describes d path directory c)
    (hnameless : ∀ file text, HasManifest d path file (.text text) → IsNameless text) :
    c.name = directory := by
  cases h with
  | unmarked => rfl
  | unusable => rfl
  | usable here read => exact (hnameless _ _ here).name_eq read

theorem isTreeOf_of_scan
    {warnings : List Warning}
    (h : scan d root = .ok (tree, warnings)) :
    IsTreeOf d root tree := by
  cases hes : d.list root with
  | error e =>
      rw [scan, hes] at h
      cases h
  | ok es =>
      rw [scan_eq hes] at h
      cases h
      exact isTreeOf_map_scanCommand hes

/-- All commands of a tree are described. -/
theorem IsTreeOf.describes
    {c : ScannedCommand}
    (h : IsTreeOf d root tree)
    (hc : c ∈ tree.commands) :
    Describes d c.path c.directory c.command := by
  obtain ⟨p, hp, hmem⟩ := List.mem_flatMap.mp hc
  rcases List.mem_cons.mp hmem with rfl | hsub
  · exact h.commands.described _ (List.mem_map_of_mem hp)
  · exact (h.below p hp).described c hsub

/-- All commands below a root without names are called by their directories. -/
theorem NamelessBelow.name_eq
    {c : ScannedCommand}
    (h : NamelessBelow d root)
    (hc : c ∈ (scanOrEmpty d root).1.commands) :
    c.command.name = c.directory := by
  have hdescribes : Describes d c.path c.directory c.command := by
    unfold scanOrEmpty at hc
    split at hc
    · rename_i hscan
      exact (isTreeOf_of_scan hscan).describes hc
    · cases hc
  exact hdescribes.name_eq (h c hc)

/-- The units of the commands below a root. -/
def unitsBelow
    (d : Disk)
    (root : String) : List Invocable :=
  (register (scanOrEmpty d root).1).1

theorem directory_scanDirectory
    (d : Disk)
    (path name : String) :
    (scanDirectory d path name).1.directory = name := by
  rw [scanDirectory_fst]

/-- Where no manifest gives a name, all pairs are called by their directories. -/
theorem NamelessBelow.namesOf_pairAt
    (h : NamelessBelow d root)
    {names : String × String}
    (hfound : names ∈ directoriesBelow d root) :
    namesOf (pairAt d root names) = names := by
  have hp : pairAt d root names ∈ (scanOrEmpty d root).1.pairs := by
    rw [pairs_scanOrEmpty]
    exact List.mem_map_of_mem hfound
  obtain ⟨hc, hc'⟩ := mem_commands_of_mem_pairs hp
  rw [namesOf, h.name_eq hc, h.name_eq hc', pairAt, directory_scanDirectory, directory_scanDirectory]

theorem map_namesOf_pairs
    (h : ∀ names ∈ directoriesBelow d root, namesOf (pairAt d root names) = names) :
    (scanOrEmpty d root).1.pairs.map namesOf = directoriesBelow d root := by
  rw [pairs_scanOrEmpty, List.map_map]
  exact (List.map_congr_left h).trans (List.map_id _)

theorem nodup_namesOf
    (h : ∀ names ∈ directoriesBelow d root, namesOf (pairAt d root names) = names) :
    ((scanOrEmpty d root).1.pairs.map namesOf).Nodup := by
  rw [map_namesOf_pairs h]
  exact (pairwise_directoriesBelow d root).nodup

/-- Below a root without names, the units are called by the directories that are found one in the other,
as long as their names are not kept for the program. -/
theorem mem_names_iff
    (h : NamelessBelow d root) :
    (name, sub) ∈ (unitsBelow d root).map Invocable.names ↔
      (name ∉ ["command", "help"] ∧ sub ≠ "help") ∧ Finds d root name ∧
        Finds d (join root name) sub := by
  have hcalled {names : String × String} (hnames : names ∈ directoriesBelow d root) :
      IsCallable (pairAt d root names) ↔ names.1 ∉ ["command", "help"] ∧ names.2 ≠ "help" := by
    obtain ⟨hname, hsub⟩ := Prod.mk.inj (h.namesOf_pairAt hnames)
    rw [IsCallable, hname, hsub, pairAt, directory_scanDirectory]
    exact ⟨fun hfree => ⟨hfree.1, hfree.2.2⟩, fun hfree => ⟨hfree.1, hfree.1, hfree.2⟩⟩
  rw [unitsBelow, register_of_nodup (nodup_namesOf fun _ => h.namesOf_pairAt), List.map_map,
    ← mem_directoriesBelow]
  constructor
  · intro hmem
    obtain ⟨p, hp, hunit⟩ := List.mem_map.mp hmem
    have hnamed : namesOf p = (name, sub) := (names_unitOf p).symm.trans hunit
    obtain ⟨hpair, hcallable⟩ := List.mem_filter.mp hp
    rw [pairs_scanOrEmpty] at hpair
    obtain ⟨names, hnames, rfl⟩ := List.mem_map.mp hpair
    obtain rfl : names = (name, sub) := (h.namesOf_pairAt hnames).symm.trans hnamed
    exact ⟨(hcalled hnames).mp (of_decide_eq_true hcallable), hnames⟩
  · rintro ⟨hfree, hnames⟩
    have hpair : pairAt d root (name, sub) ∈ (scanOrEmpty d root).1.pairs := by
      rw [pairs_scanOrEmpty]
      exact List.mem_map_of_mem hnames
    have hcallable := decide_eq_true ((hcalled hnames).mpr hfree)
    exact List.mem_map.mpr ⟨_, List.mem_filter.mpr ⟨hpair, hcallable⟩,
      (names_unitOf _).trans (h.namesOf_pairAt hnames)⟩

theorem not_finds_of_empty
    (hinto : d.LeadsInto path place)
    (hempty : d.get? place = some (.directory [])) :
    ¬ Finds d path name := by
  rintro ⟨es, hes, hmem, -⟩
  have hsame := (get?_of_list hinto hes).symm.trans hempty
  cases hsame
  cases hmem

end Naming

/-! ## Trees without names -/

/-- No text of a tree gives a name. -/
def FileTree.Nameless (t : FileTree) : Prop :=
  ∀ place s, t.HasFile place (.text s) → IsNameless s

theorem FileTree.nameless_file
    {s : String}
    {traits : Traits}
    (h : IsNameless s) :
    (FileTree.file (.text s) traits).Nameless := by
  intro place text hfile
  obtain ⟨-, htext⟩ := (FileTree.hasFile_file _ _ _ _).mp hfile
  cases htext
  exact h

theorem FileTree.nameless_link (target : String) :
    (FileTree.link target).Nameless :=
  fun place _ hfile => absurd hfile (FileTree.not_hasFile_link target place _)

theorem FileTree.nameless_directory
    {es : List (String × FileTree)}
    (h : ∀ e ∈ es, e.2.Nameless) :
    (FileTree.directory es).Nameless := by
  intro place s hfile
  cases place with
  | nil => exact absurd hfile (FileTree.not_hasFile_directory_nil es _)
  | cons name rest =>
      obtain ⟨t, ht, hrest⟩ := (FileTree.hasFile_directory_cons es name rest _).mp hfile
      exact h _ (Dict.mem_of_get? ht) rest s hrest

theorem namelessBelow_of_nameless
    {d : Disk}
    (h : FileTree.Nameless d)
    (root : String) :
    NamelessBelow d root := by
  intro c _ file text hmanifest
  obtain ⟨place, traits, hlocate⟩ := hmanifest.file
  exact h place text ⟨traits, get?_of_locate hlocate⟩

theorem Scaffold.nameless_tree : Scaffold.tree.Nameless := by
  have hmanifest : IsNameless Scaffold.manifest := by
    intro c hread
    rw [Scaffold.read?_manifest] at hread
    cases hread
    decide
  have hactions : IsNameless Scaffold.actions := by
    have hread : Yaml.Node.read? (Yaml.Node.optional Command.ofNode) Scaffold.actions.toList =
        some (some ⟨"", "", []⟩) := by
      decide +kernel
    intro c hc
    rw [hread] at hc
    cases hc
    decide
  refine FileTree.nameless_directory ?_
  simp only [List.forall_mem_cons]
  exact ⟨FileTree.nameless_file hmanifest, FileTree.nameless_file hactions, nofun⟩

/-! ## New commands -/

/-- The unit of a new command: it is called by the names of its directories, the inner one holds one file
of actions, and the first option is a text called `name`, for which `world` stands. -/
structure IsNewUnit
    (s : Session)
    (d : Disk)
    (name sub : String)
    (u : Invocable) : Prop where
  names : u.names = (name, sub)
  path : u.path = s.directoryOf name sub
  files : ∃ file a, findActionFiles d u.path = .ok ([(file, a)], [])
  option : ∃ b, u.options.head? = some b ∧ b.option.name = "name" ∧ b.kind = .text ∧
    b.option.default = some "world"

namespace Session

open SessionM

/-- The units below the root of a session are those of before, and one for two names. -/
def GainsUnit
    (s : Session)
    (d d' : Disk)
    (name sub : String) : Prop :=
  ∃ before after u,
    unitsBelow d s.commandsRoot = before ++ after ∧
    unitsBelow d' s.commandsRoot = before ++ u :: after ∧
    IsNewUnit s d' name sub u

section New

variable {s : Session}
variable {name sub : String}
variable {d d' : Disk}

/-- The names of a command that can be made are not kept for the program. -/
theorem Accepts.not_mem
    (h : s.Accepts d name sub) :
    name ∉ ["command", "help"] ∧ sub ≠ "help" := by
  have hfree := h.free
  rw [Scaffold.isReserved, Bool.or_eq_false_iff, ← Bool.not_eq_true, isReservedName_iff] at hfree
  exact ⟨hfree.1, of_decide_eq_false hfree.2⟩

/-- The unit of a new sub-command, whatever else its command is like. -/
theorem isNewUnit_unitOf
    {command sub' : ScannedCommand}
    (hcommand : command.command.name = name)
    (hsub : sub' = ⟨sub, s.directoryOf name sub, ⟨sub, "Says hello", [Scaffold.option]⟩⟩)
    (hfiles : ∃ file a, findActionFiles d' (s.directoryOf name sub) = .ok ([(file, a)], [])) :
    IsNewUnit s d' name sub (unitOf (command, sub')) := by
  subst hsub
  have hbinding : Scaffold.option.binding = .bound ⟨Scaffold.option, .text⟩ := by decide
  refine ⟨?_, rfl, hfiles, ⟨Scaffold.option, .text⟩, ?_, rfl, rfl, rfl⟩
  · rw [← hcommand]
    rfl
  · have hoptions : (unitOf (command, ⟨sub, s.directoryOf name sub,
        ⟨sub, "Says hello", [Scaffold.option]⟩⟩)).options =
          boundOptions [] (Scaffold.option :: command.command.options) := rfl
    rw [hoptions, boundOptions, hbinding]
    rfl

/-- The command of a new sub-command is called by its directory, also where that is new. -/
theorem name_scanDirectory_of_gains
    (h : Gains d d' s.commandsRoot name sub)
    (hnameless : NamelessBelow d s.commandsRoot) :
    (scanDirectory d' s.commandsRoot name).1.command.name = name := by
  rw [scanDirectory_fst]
  by_cases hold : Finds d s.commandsRoot name
  · rw [h.commands name hold, ← scanDirectory_fst]
    exact (hnameless.name_eq (mem_commands_of_finds hold)).trans (directory_scanDirectory _ _ _)
  · rw [loadCommand, manifestIn?_eq_none_iff.mpr (h.unmarked hold)]
    rfl

/-- Below a root that no manifest gives a name, a new command makes one more unit. -/
theorem gainsUnit_of_gains
    (haccepts : s.Accepts d name sub)
    (hnameless : NamelessBelow d s.commandsRoot)
    (h : Gains d d' s.commandsRoot name sub)
    (hscan : (scanDirectory d' (join s.commandsRoot name) sub).1 =
      ⟨sub, s.directoryOf name sub, ⟨sub, "Says hello", [Scaffold.option]⟩⟩)
    (hfiles : ∃ file a, findActionFiles d' (s.directoryOf name sub) = .ok ([(file, a)], [])) :
    s.GainsUnit d d' name sub := by
  have hcommand := name_scanDirectory_of_gains h hnameless
  have hnew : namesOf (pairAt d' s.commandsRoot (name, sub)) = (name, sub) := by
    rw [namesOf, pairAt, hcommand, hscan]
  have hcalled : ∀ names ∈ directoriesBelow d' s.commandsRoot,
      namesOf (pairAt d' s.commandsRoot names) = names := by
    rintro ⟨x, y⟩ hmem
    rcases (h.finds x y).mp (mem_directoriesBelow.mp hmem) with hself | hold
    · cases hself
      exact hnew
    · rw [h.pairAt_eq hold.1 hold.2]
      exact hnameless.namesOf_pairAt (mem_directoriesBelow.mpr hold)
  have hcallable : IsCallable (pairAt d' s.commandsRoot (name, sub)) := by
    obtain ⟨hfree, hsub⟩ := haccepts.not_mem
    obtain ⟨hname, hname'⟩ := Prod.mk.inj hnew
    rw [IsCallable, hname, hname', pairAt, directory_scanDirectory]
    exact ⟨hfree, hfree, hsub⟩
  obtain ⟨before, after, hpairs, hpairs'⟩ := h.exists_pairs
  obtain ⟨front, back, hbefore, hafter⟩ :=
    exists_register_of_pairs hpairs hpairs' (nodup_namesOf hcalled) hcallable
  have hunit : IsNewUnit s d' name sub (unitOf (pairAt d' s.commandsRoot (name, sub))) := by
    simp only [pairAt]
    exact isNewUnit_unitOf hcommand hscan hfiles
  exact ⟨front, back, _, hbefore, hafter, hunit⟩

/-- Of the names that units have afterwards, all but the two were there before. -/
theorem GainsUnit.mem_names
    (h : s.GainsUnit d d' name sub) :
    (name, sub) ∈ (unitsBelow d' s.commandsRoot).map Invocable.names ∧
      ∀ x ∈ (unitsBelow d' s.commandsRoot).map Invocable.names, x ≠ (name, sub) →
        x ∈ (unitsBelow d s.commandsRoot).map Invocable.names := by
  obtain ⟨before, after, u, hbefore, hafter, hnew⟩ := h
  refine ⟨List.mem_map.mpr ⟨u, by simp [hafter], hnew.names⟩, fun x hx hne => ?_⟩
  rw [hafter, List.map_append, List.map_cons, List.mem_append, List.mem_cons, hnew.names] at hx
  rw [hbefore, List.map_append, List.mem_append]
  exact hx.imp_right fun hor => hor.resolve_left hne

end New

end Session

/-! ## A root with a command -/

/-- A disk with a root, in which are a command with what is below it, and something beside it. -/
def rootDisk
    (above beside below : List (String × FileTree)) : Disk :=
  .directory (("r", .directory (("a", .directory below) :: beside)) :: above)

/-- A session with a root. -/
def rootSession (root : String) : Session :=
  ⟨"/", root, default⟩

section Samples

variable {above beside below : List (String × FileTree)}

theorem nameless_rootDisk
    (habove : ∀ e ∈ above, e.2.Nameless)
    (hbeside : ∀ e ∈ beside, e.2.Nameless)
    (hbelow : ∀ e ∈ below, e.2.Nameless) :
    FileTree.Nameless (rootDisk above beside below) :=
  FileTree.nameless_directory (List.forall_mem_cons.mpr
    ⟨FileTree.nameless_directory (List.forall_mem_cons.mpr
      ⟨FileTree.nameless_directory hbelow, hbeside⟩), habove⟩)

theorem isNamed_rootDisk :
    ∀ s ∈ ["r", "a", "b", "c", "e", "run", "zz"], IsNamed s.toList := by
  have hall : ∀ s ∈ ["r", "a", "b", "c", "e", "run", "zz"],
      (s.toList ≠ [] ∧ s.toList ≠ ['.'] ∧ s.toList ≠ ['.', '.']) ∧
        s.utf8ByteSize ≤ maxName := by decide
  exact fun s hs => isNamed_of_short (hall s hs).1 (hall s hs).2

theorem leadsInto_rootDisk :
    (rootDisk above beside below).LeadsInto "/r" ["r"] :=
  ⟨_, .stay rfl rfl (.down rfl (isNamed_rootDisk "r" (by decide)) (.done rfl))⟩

theorem leadsInto_rootDisk_command :
    (rootDisk above beside below).LeadsInto (join "/r" "a") ["r", "a"] :=
  ⟨_, .stay rfl rfl (.down rfl (isNamed_rootDisk "r" (by decide))
    (.down rfl (isNamed_rootDisk "a" (by decide)) (.done rfl)))⟩

theorem leadsInto_rootDisk_link :
    (rootDisk above (("b", .link "a") :: beside) below).LeadsInto (join "/r" "b") ["r", "a"] := by
  have hlinks : maxLinks = 39 + 1 := rfl
  rw [LeadsInto, hlinks]
  exact ⟨_, .stay rfl rfl (.down rfl (isNamed_rootDisk "r" (by decide))
    (.link rfl (isNamed_rootDisk "b" (by decide)) rfl
      (.down rfl (isNamed_rootDisk "a" (by decide)) (.done rfl))))⟩

theorem nameless_empty :
    (FileTree.directory []).Nameless :=
  FileTree.nameless_directory nofun

end Samples

namespace Session

open SessionM

/-- A new command can be run. Below a root that takes the command, where no manifest gives a name, the units
are those that there were, and one that is called by the two names. A command whose names are refused or
whose directory is there leaves everything as it is. -/
theorem newCommand_adds_unit
    (s : Session)
    (name sub : String)
    (k : Desk) :
    (∀ k', TakesCommands k.disk s.commandsRoot name sub → NamelessBelow k.disk s.commandsRoot →
      result (s.newCommand name sub) k = (.ok (), k') → s.GainsUnit k.disk k'.disk name sub) ∧
      (¬ s.Accepts k.disk name sub → ∃ e, result (s.newCommand name sub) k = (.error e, k)) := by
  refine ⟨fun k' hroot hnameless hmade => ?_, fun h => result_newCommand_of_not_accepts h⟩
  obtain ⟨haccepts, d₁, d₂, hwrites⟩ := exists_writes_of_newCommand hmade
  obtain ⟨hadds, named, hmanifest⟩ := adds_of_writes hroot.turns haccepts hwrites
  have hsub := Scaffold.isPlainName_of_isFitName haccepts.fit'
  obtain ⟨place, hinto, htree⟩ := hadds.exists_leadsInto named hsub.plain
  have hreaches : k'.disk.Reaches (s.directoryOf name sub) "command.yaml" place :=
    ⟨hinto, ⟨by decide, by decide, by decide, by decide⟩, by decide, hmanifest⟩
  have hfits := hreaches.fits_base
  exact gainsUnit_of_gains haccepts hnameless
    (hadds.gains hroot haccepts.fit haccepts.fit' named hfits)
    (scanDirectory_of_tree hinto htree hmanifest)
    ⟨_, _, findActionFiles_of_tree hinto htree hfits (join_ne_nil hsub _)⟩

/-- A disk with a root in which are a command with a sub-command, and another command with a link to it. -/
def linkedDisk : Disk :=
  rootDisk [] [("b", .directory []), ("e", .link "b")] [("c", .directory [])]

theorem leadsInto_linkedDisk :
    linkedDisk.LeadsInto (join "/r" "b") ["r", "b"] ∧
      linkedDisk.LeadsInto (join "/r" "e") ["r", "b"] := by
  have hlinks : maxLinks = 39 + 1 := rfl
  constructor
  · exact ⟨_, .stay rfl rfl (.down rfl (isNamed_rootDisk "r" (by decide))
      (.down rfl (isNamed_rootDisk "b" (by decide)) (.done rfl)))⟩
  · rw [LeadsInto, hlinks]
    exact ⟨_, .stay rfl rfl (.down rfl (isNamed_rootDisk "r" (by decide))
      (.link rfl (isNamed_rootDisk "e" (by decide)) rfl
        (.down rfl (isNamed_rootDisk "b" (by decide)) (.done rfl))))⟩

section Linked

variable {x y : String}

theorem mem_of_finds_linkedDisk
    (h : Finds linkedDisk "/r" x) :
    x = "a" ∨ x = "b" ∨ x = "e" := by
  obtain ⟨es, hes, hmem, -, -⟩ := h
  have hroot := (get?_of_list leadsInto_rootDisk hes).symm
  cases hroot
  simpa using hmem

theorem eq_of_finds_linkedDisk
    (h : Finds linkedDisk "/r" x)
    (h' : Finds linkedDisk (join "/r" x) y) :
    x = "a" ∧ y = "c" := by
  rcases mem_of_finds_linkedDisk h with rfl | rfl | rfl
  · obtain ⟨es, hes, hmem, -, -⟩ := h'
    have hcommand := (get?_of_list leadsInto_rootDisk_command hes).symm
    cases hcommand
    exact ⟨rfl, List.mem_singleton.mp hmem⟩
  · exact absurd h' (not_finds_of_empty leadsInto_linkedDisk.1 rfl)
  · exact absurd h' (not_finds_of_empty leadsInto_linkedDisk.2 rfl)

/-- In the directories of commands no other name is lacked where a new one is. -/
theorem eq_of_lacksAt_linkedDisk
    (found : Finds linkedDisk "/r" x)
    (plain : MayList linkedDisk (join "/r" x) y ∨ y ∈ manifestNames)
    (h : linkedDisk.LacksAt (join (join "/r" x) y) ["r", "a", "run"]) :
    x = "a" ∧ y = "run" := by
  have hplain {place : Place} {es : List (String × FileTree)}
      (hinto : linkedDisk.LeadsInto (join "/r" x) place)
      (hes : linkedDisk.get? place = some (.directory es))
      (hall : ∀ name ∈ es.map Prod.fst, IsPlainName name) :
      IsPlainName y :=
    plain.elim (fun hmay => hmay.isPlainName hinto hes hall) isPlainName_of_mem_manifestNames
  rcases mem_of_finds_linkedDisk found with rfl | rfl | rfl
  · have hinto : linkedDisk.LeadsInto (join "/r" "a") ["r", "a"] := leadsInto_rootDisk_command
    have hplace := hinto.eq_of_lacksAt (hplain hinto rfl (by decide)) rfl (by decide) h
    exact ⟨rfl, by simpa using hplace.symm⟩
  · have hinto := leadsInto_linkedDisk.1
    have hplace := hinto.eq_of_lacksAt (hplain hinto rfl (by decide)) rfl (by decide) h
    simp at hplace
  · have hinto := leadsInto_linkedDisk.2
    have hplace := hinto.eq_of_lacksAt (hplain hinto rfl (by decide)) rfl (by decide) h
    simp at hplace

/-- Nothing else leads into the directory of a new sub-command: the link leads to another command. -/
theorem takesCommands_linkedDisk :
    TakesCommands linkedDisk "/r" "a" "run" := by
  have hroot : linkedDisk.LeadsInto "/r" ["r"] := leadsInto_rootDisk
  have hcommand : linkedDisk.LeadsInto (join "/r" "a") ["r", "a"] := leadsInto_rootDisk_command
  refine ⟨by decide, ?_, ?_⟩
  · intro front rest hparts
    have hmem : ['.', '.'] ∈ activeParts "/r".toList := by
      rw [hparts]
      exact List.mem_append_right _ List.mem_cons_self
    exact absurd hmem (by decide)
  · intro path entry q hlooks hlacks hnew
    obtain rfl : q = ["r", "a", "run"] := hcommand.eq_of_lacksAt (by decide) rfl (by decide) hnew
    cases hlooks with
    | command listed other =>
        have plain := listed.isPlainName hroot rfl (by decide)
        rcases hroot.missing_of_lacksAt plain hlacks with ⟨-, hplace⟩ | ⟨target, hlink⟩
        · simp at hplace
        · obtain ⟨es, hes⟩ := hroot.stop
          have hentry := FileTree.get?_entry hes entry
          cases hes
          rw [hlink] at hentry
          have hmem := Dict.mem_of_get? hentry.symm
          obtain ⟨rfl, -⟩ : entry = "e" ∧ target = "b" := by simpa using hmem
          exact leadsInto_linkedDisk.2.not_lacksAt hlacks
    | subcommand found listed other =>
        obtain ⟨rfl, rfl⟩ := eq_of_lacksAt_linkedDisk found (.inl listed) hlacks
        exact other rfl
    | commandManifest found manifest =>
        obtain ⟨-, rfl⟩ := eq_of_lacksAt_linkedDisk found (.inr manifest) hlacks
        exact absurd manifest (by decide)
    | subcommandManifest found found' manifest =>
        obtain ⟨rfl, rfl⟩ := eq_of_finds_linkedDisk found found'
        have hsub : linkedDisk.LeadsInto (join (join "/r" "a") "c") ["r", "a", "c"] :=
          leadsInto_join hcommand (isNamed_rootDisk "c" (by decide)) (by decide) rfl
        have hplace := hsub.eq_of_lacksAt (isPlainName_of_mem_manifestNames manifest) rfl (by decide)
          hlacks
        simp at hplace

end Linked

/-- A sub-command beside another one is made, and made once. -/
theorem newCommand_adds_unit_beside :
    ∃ k', TakesCommands linkedDisk "/r" "a" "run" ∧ NamelessBelow linkedDisk "/r" ∧
      result ((rootSession "/r").newCommand "a" "run") ⟨linkedDisk, default, []⟩ = (.ok (), k') ∧
      (rootSession "/r").GainsUnit linkedDisk k'.disk "a" "run" ∧
      ¬ (rootSession "/r").Accepts linkedDisk "a" "c" ∧
      ∃ e, result ((rootSession "/r").newCommand "a" "c") ⟨linkedDisk, default, []⟩ =
        (.error e, ⟨linkedDisk, default, []⟩) := by
  have hbeside : ∀ e ∈ [("b", FileTree.directory []), ("e", .link "b")], e.2.Nameless :=
    List.forall_mem_cons.mpr
      ⟨nameless_empty, List.forall_mem_singleton.mpr (FileTree.nameless_link "b")⟩
  have hnameless : NamelessBelow linkedDisk "/r" := namelessBelow_of_nameless
    (nameless_rootDisk (List.forall_mem_nil _) hbeside (List.forall_mem_singleton.mpr nameless_empty)) "/r"
  have hreaches {name : String} (named : IsNamed name.toList) (plain : '/' ∉ name.toList)
      (fits : Fits (join (join "/r" "a") name)) :
      linkedDisk.Reaches (join "/r" "a") name ["r", "a"] :=
    ⟨leadsInto_rootDisk_command, named, plain, fits⟩
  obtain ⟨notes, hmade⟩ := exists_newCommand_of_reaches
    (s := rootSession "/r") (k := ⟨linkedDisk, default, []⟩)
    (by decide) (by decide) (by decide)
    (hreaches (isNamed_rootDisk "run" (by decide)) (by decide) ⟨by decide, by decide⟩) rfl
    ⟨by decide, by decide⟩ ⟨by decide, by decide⟩
  have hrefused : ¬ (rootSession "/r").Accepts linkedDisk "a" "c" := by
    intro haccepts
    have hc := hreaches (isNamed_rootDisk "c" (by decide)) (by decide) ⟨by decide, by decide⟩
    have hexists := exists?_iff.mpr ⟨_, _, hc.locate_of_found rfl rfl⟩
    exact Bool.false_ne_true (haccepts.absent.symm.trans hexists)
  have hadds := newCommand_adds_unit (rootSession "/r") "a" "run" ⟨linkedDisk, default, []⟩
  have hkeeps := newCommand_adds_unit (rootSession "/r") "a" "c" ⟨linkedDisk, default, []⟩
  exact ⟨_, takesCommands_linkedDisk, hnameless, hmade,
    hadds.1 _ takesCommands_linkedDisk hnameless hmade, hrefused, hkeeps.2 hrefused⟩

/-! ## Commands that are not the only new ones -/

/-- Below a root without names a command is made, but the units are not those of before and one for its
names. -/
def AddsOthers
    (d : Disk)
    (root name sub : String) : Prop :=
  ∃ k', NamelessBelow d root ∧
    result ((rootSession root).newCommand name sub) ⟨d, default, []⟩ = (.ok (), k') ∧
    ¬ (rootSession root).GainsUnit d k'.disk name sub

/-- The new sub-command is found through a link as well. -/
theorem newCommand_through_link :
    AddsOthers (rootDisk [] [("b", .link "a")] []) "/r" "b" "run" := by
  have hlink : ∀ e ∈ [("b", FileTree.link "a")], e.2.Nameless :=
    List.forall_mem_singleton.mpr (FileTree.nameless_link "a")
  have hbefore := namelessBelow_of_nameless
    (nameless_rootDisk (List.forall_mem_nil _) hlink (List.forall_mem_nil _)) "/r"
  have hafter : FileTree.put (rootDisk [] [("b", .link "a")] []) (["r", "a"] ++ ["run"]) Scaffold.tree =
      rootDisk [] [("b", .link "a")] [("run", Scaffold.tree)] := by
    rfl
  have hreaches : (rootDisk [] [("b", .link "a")] []).Reaches (join "/r" "b") "run" ["r", "a"] :=
    ⟨leadsInto_rootDisk_link, isNamed_rootDisk "run" (by decide), by decide, by decide, by decide⟩
  obtain ⟨notes, hmade⟩ := exists_newCommand_of_reaches
    (s := rootSession "/r") (k := ⟨rootDisk [] [("b", .link "a")] [], default, []⟩)
    (by decide) (by decide) (by decide) hreaches rfl ⟨by decide, by decide⟩ ⟨by decide, by decide⟩
  rw [hafter] at hmade
  refine ⟨_, hbefore, hmade, fun hgains => ?_⟩
  have hnew : ∀ e ∈ [("run", Scaffold.tree)], e.2.Nameless :=
    List.forall_mem_singleton.mpr Scaffold.nameless_tree
  have hnameless := namelessBelow_of_nameless
    (nameless_rootDisk (List.forall_mem_nil _) hlink hnew) "/r"
  have hrun : (rootDisk [] [("b", .link "a")] [("run", Scaffold.tree)]).LeadsInto
      (join (join "/r" "a") "run") ["r", "a", "run"] :=
    leadsInto_join leadsInto_rootDisk_command (isNamed_rootDisk "run" (by decide)) (by decide) rfl
  have hother := hgains.mem_names.2 ("a", "run") ((mem_names_iff hnameless).mpr
    ⟨by decide, finds_of_leadsInto leadsInto_rootDisk_command ⟨by decide, by decide⟩ (by decide)
        (by decide) (by decide),
      finds_of_leadsInto hrun ⟨by decide, by decide⟩ (by decide) (by decide) (by decide)⟩) (by decide)
  exact not_finds_of_empty leadsInto_rootDisk_command rfl ((mem_names_iff hbefore).mp hother).2.2

/-- Nothing is found behind a directory that is missing. -/
theorem locateFrom_behind_missing
    {beside below : List (String × FileTree)}
    {final : Bool}
    {path : String}
    {rest : List (List Char)}
    (hfits : Fits path)
    (hne : path.toList ≠ [])
    (hparts : Text.splitOn '/' path.toList = [] :: "zz".toList :: rest)
    (hrest : rest.all List.isEmpty = false) :
    (rootDisk [] beside below).locateFrom [] final path = .error .noEntry := by
  rw [locateFrom_eq hfits hne, hparts, follow_stay rfl rfl,
    follow_missing rfl (isNamed_rootDisk "zz" (by decide)) rfl, hrest]
  rfl

theorem makeDirectory_behind_missing
    {beside below : List (String × FileTree)}
    {path : String}
    {rest : List (List Char)}
    (hfits : Fits path)
    (hne : path.toList ≠ [])
    (hbare : bare path = path)
    (hparts : Text.splitOn '/' path.toList = [] :: "zz".toList :: rest)
    (hrest : rest.all List.isEmpty = false) :
    (rootDisk [] beside below).makeDirectory path = .error .noEntry := by
  rw [makeDirectory, hbare, locateEntry, locateFrom_behind_missing hfits hne hparts hrest]

/-- The way through a new directory leads back to what was there. -/
theorem leadsInto_rootDisk_behind
    {above beside below : List (String × FileTree)} :
    (rootDisk (("zz", .directory []) :: above) beside below).LeadsInto "/zz/.." [] :=
  ⟨_, .stay rfl rfl (.down rfl (isNamed_rootDisk "zz" (by decide)) (.up rfl (.done rfl)))⟩

theorem ensureDirectory_behind_missing :
    (rootDisk [] [] []).ensureDirectory (join (join "/zz/.." "r") "b") =
      .ok (rootDisk [("zz", .directory [])] [("b", .directory [])] []) := by
  have hzz : (rootDisk [] [] []).Reaches "/" "zz" [] :=
    ⟨⟨_, .stay rfl rfl (.stay rfl rfl (.done rfl))⟩, isNamed_rootDisk "zz" (by decide), by decide,
      by decide, by decide⟩
  have hcommand : (rootDisk [("zz", .directory [])] [] []).LeadsInto (join "/zz/.." "r") ["r"] :=
    leadsInto_join leadsInto_rootDisk_behind (isNamed_rootDisk "r" (by decide)) (by decide) rfl
  have hb : (rootDisk [("zz", .directory [])] [] []).Reaches (join "/zz/.." "r") "b" ["r"] :=
    ⟨hcommand, isNamed_rootDisk "b" (by decide), by decide, by decide, by decide⟩
  have hlength : (join (join "/zz/.." "r") "b").length + 1 = 7 + 1 + 1 + 1 + 1 := by decide
  refine ensureDirectory_eq_ok_iff.mpr ?_
  rw [provideDirectory, if_neg (by decide), hlength]
  refine makeDirectories_of_around (by decide)
    (makeDirectory_behind_missing ⟨by decide, by decide⟩ (by decide) (by decide) rfl rfl)
    (by decide : _ = some (join "/zz/.." "r")) ?_ (.made (hb.makeDirectory_eq rfl))
  refine makeDirectories_of_around (by decide)
    (makeDirectory_behind_missing ⟨by decide, by decide⟩ (by decide) (by decide) rfl rfl)
    (by decide : _ = some "/zz/..") ?_
    (.there (hcommand.isDirectory ⟨by decide, by decide⟩ (by decide)))
  refine makeDirectories_of_around (by decide)
    (makeDirectory_behind_missing ⟨by decide, by decide⟩ (by decide) (by decide) rfl rfl)
    (by decide : _ = some "/zz") ?_
    (.there (leadsInto_rootDisk_behind.isDirectory ⟨by decide, by decide⟩ (by decide)))
  exact makeDirectories_of_provides (by decide) (.made (hzz.makeDirectory_eq rfl)) _

/-- The root is there once a directory on its path has been made, with what was in it. -/
theorem newCommand_behind_missing :
    AddsOthers (rootDisk [] [] []) "/zz/.." "r" "b" := by
  have hnone : ∀ e ∈ ([] : List (String × FileTree)), e.2.Nameless := List.forall_mem_nil _
  have hbefore := namelessBelow_of_nameless (nameless_rootDisk hnone hnone hnone) "/zz/.."
  have absent : (rootDisk [] [] []).exists? (join (join "/zz/.." "r") "b") = false := by
    have hlocate : (rootDisk [] [] []).locate (join (join "/zz/.." "r") "b") = .error .noEntry :=
      locateFrom_behind_missing ⟨by decide, by decide⟩ (by decide) rfl rfl
    rw [exists?, tree?, hlocate]
  have hpath : (rootDisk [("zz", .directory [])] [("b", .directory [])] []).LeadsInto
      (join (join "/zz/.." "r") "b") (["r"] ++ ["b"]) :=
    leadsInto_join
      (leadsInto_join leadsInto_rootDisk_behind (isNamed_rootDisk "r" (by decide)) (by decide) rfl)
      (isNamed_rootDisk "b" (by decide)) (by decide) rfl
  have hafter : FileTree.put (rootDisk [("zz", .directory [])] [("b", .directory [])] [])
      (["r"] ++ ["b"]) Scaffold.tree = rootDisk [("zz", .directory [])] [("b", Scaffold.tree)] [] := by
    rfl
  obtain ⟨notes, hmade⟩ := exists_newCommand_of_made
    (s := rootSession "/zz/..") (k := ⟨rootDisk [] [] [], default, []⟩)
    ⟨by decide, by decide, by decide, absent⟩ ensureDirectory_behind_missing hpath rfl
    ⟨by decide, by decide⟩ ⟨by decide, by decide⟩
  rw [hafter] at hmade
  refine ⟨_, hbefore, hmade, fun hgains => ?_⟩
  have hzz : ∀ e ∈ [("zz", FileTree.directory [])], e.2.Nameless :=
    List.forall_mem_singleton.mpr nameless_empty
  have hnew : ∀ e ∈ [("b", Scaffold.tree)], e.2.Nameless :=
    List.forall_mem_singleton.mpr Scaffold.nameless_tree
  have hnameless := namelessBelow_of_nameless (nameless_rootDisk hzz hnew hnone) "/zz/.."
  have hcommand : (rootDisk [("zz", .directory [])] [("b", Scaffold.tree)] []).LeadsInto
      (join "/zz/.." "r") ["r"] :=
    leadsInto_join leadsInto_rootDisk_behind (isNamed_rootDisk "r" (by decide)) (by decide) rfl
  have hsub := leadsInto_join hcommand (isNamed_rootDisk "a" (by decide)) (by decide) rfl
  have hother := hgains.mem_names.2 ("r", "a") ((mem_names_iff hnameless).mpr
    ⟨by decide, finds_of_leadsInto hcommand ⟨by decide, by decide⟩ (by decide) (by decide) (by decide),
      finds_of_leadsInto hsub ⟨by decide, by decide⟩ (by decide) (by decide) (by decide)⟩)
    (by decide)
  obtain ⟨es, hes, -⟩ := ((mem_names_iff hbefore).mp hother).2.1
  obtain ⟨place, hlocate⟩ := list_eq_ok_iff.mp hes
  have hmissing : (rootDisk [] [] []).locate "/zz/.." = .error .noEntry :=
    locateFrom_behind_missing ⟨by decide, by decide⟩ (by decide) rfl rfl
  have hnone := hmissing.symm.trans hlocate
  cases hnone

/-- An empty path is none of a directory. -/
theorem newCommand_below_nothing :
    AddsOthers (rootDisk [] [] []) "" "r" "b" := by
  have hnone : ∀ e ∈ ([] : List (String × FileTree)), e.2.Nameless := List.forall_mem_nil _
  have hreaches : (rootDisk [] [] []).Reaches (join "" "r") "b" ["r"] :=
    ⟨⟨_, .down rfl (isNamed_rootDisk "r" (by decide)) (.done rfl)⟩, isNamed_rootDisk "b" (by decide),
      by decide, by decide, by decide⟩
  obtain ⟨notes, hmade⟩ := exists_newCommand_of_reaches
    (s := rootSession "") (k := ⟨rootDisk [] [] [], default, []⟩)
    (by decide) (by decide) (by decide) hreaches rfl ⟨by decide, by decide⟩ ⟨by decide, by decide⟩
  refine ⟨_, namelessBelow_of_nameless (nameless_rootDisk hnone hnone hnone) "", hmade, ?_⟩
  intro hgains
  have hempty : unitsBelow (FileTree.put (rootDisk [] [] []) (["r"] ++ ["b"]) Scaffold.tree) "" =
      [] := by
    rw [unitsBelow, scanOrEmpty_eq]
    rfl
  have hmem := hgains.mem_names.1
  rw [rootSession, hempty] at hmem
  cases hmem

/-- A command that is made need not be the only new unit, nor a unit: another command may be a link to its
directory, the root may be found only once the command has been made, and the root may have no path. -/
theorem newCommand_adds_others :
    AddsOthers (rootDisk [] [("b", .link "a")] []) "/r" "b" "run" ∧
      AddsOthers (rootDisk [] [] []) "/zz/.." "r" "b" ∧
      AddsOthers (rootDisk [] [] []) "" "r" "b" :=
  ⟨newCommand_through_link, newCommand_behind_missing, newCommand_below_nothing⟩

end Session

end Runbook
