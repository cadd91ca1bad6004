import Runbook.Proofs.Command.Registration
import Runbook.Proofs.Command.Scanning
import Runbook.Proofs.Files.Making

/-!
# One directory more below a command root

A scan finds directories of commands and, in each of them, directories of sub-commands, and pairs what
describes the ones with what describes the others. A command root that gains the directory of a sub-command
has one more pair, in its place among the others, as long as a scan finds no other directory and no other
manifest than before.

Main statements: `pairs_scanOrEmpty` and `Gains.exists_pairs`.
-/

namespace Runbook

open Runbook.Disk Runbook.Path

/-! ## Lists that gain a member -/

/-- A list in strict order that has one more member has it in its place. -/
theorem exists_split_of_mem_iff
    {α : Type}
    {r : α → α → Prop}
    [Std.Antisymm r]
    [Std.Irrefl r]
    {l l' : List α}
    {a : α}
    (hl : l.Pairwise r)
    (hl' : l'.Pairwise r)
    (ha : a ∉ l)
    (h : ∀ x, x ∈ l' ↔ x = a ∨ x ∈ l) :
    ∃ before after, l = before ++ after ∧ l' = before ++ a :: after := by
  obtain ⟨before, after, rfl⟩ := List.append_of_mem ((h a).mpr (.inl rfl))
  refine ⟨before, after, ?_, rfl⟩
  have hsub : (before ++ after).Sublist (before ++ a :: after) :=
    (List.sublist_cons_self a after).append_left before
  refine hl.eq_of_mem_iff (hl'.sublist hsub) fun x => ?_
  have hnew : a ∉ before ++ after := (List.nodup_cons.mp (List.nodup_middle.mp hl'.nodup)).1
  have hx := h x
  simp only [List.mem_append, List.mem_cons] at hx hnew ⊢
  constructor
  · intro hmem
    rcases hx.mpr (.inr hmem) with hbefore | rfl | hafter
    · exact .inl hbefore
    · exact absurd hmem ha
    · exact .inr hafter
  · intro hmem
    have hsome : x ∈ before ∨ x = a ∨ x ∈ after := hmem.imp_right .inr
    refine (hx.mp hsome).resolve_left ?_
    rintro rfl
    exact hnew hmem

/-! ## What a scan finds -/

/-- A directory that a scan finds in another one by its name. -/
def Finds
    (d : Disk)
    (path name : String) : Prop :=
  ∃ es, d.list path = .ok es ∧ name ∈ es.map Prod.fst ∧ name.toList.head? ≠ some '.' ∧
    d.isDirectory (join path name) = true

theorem Finds.isDirectory
    {d : Disk}
    {path name : String}
    (h : Finds d path name) :
    d.isDirectory (join path name) = true := by
  obtain ⟨-, -, -, -, hdirectory⟩ := h
  exact hdirectory

/-- The names of the directories that a scan finds in another one. -/
def foundIn
    (d : Disk)
    (path : String) : List String :=
  match d.list path with
  | .ok es => subdirectories d path es
  | .error _ => []

/-- The directories of sub-commands that a scan finds below a root, each with that of its command. -/
def directoriesBelow
    (d : Disk)
    (root : String) : List (String × String) :=
  (foundIn d root).flatMap fun x => (foundIn d (join root x)).map fun y => (x, y)

/-- What describes the directory of a command and the directory of a sub-command in it. -/
def pairAt
    (d : Disk)
    (root : String)
    (names : String × String) : ScannedCommand × ScannedCommand :=
  ((scanDirectory d root names.1).1, (scanDirectory d (join root names.1) names.2).1)

section Finding

variable {d d' : Disk}
variable {root path name sub x y : String}
variable {place : Place}

theorem mem_foundIn :
    name ∈ foundIn d path ↔ Finds d path name := by
  unfold foundIn Finds
  cases d.list path with
  | error e => simp
  | ok es => simp [mem_subdirectories]

theorem pairwise_foundIn
    (d : Disk)
    (path : String) :
    (foundIn d path).Pairwise (· < ·) := by
  unfold foundIn
  split
  · exact pairwise_subdirectories d path _
  · exact List.Pairwise.nil

theorem mem_directoriesBelow :
    (x, y) ∈ directoriesBelow d root ↔ Finds d root x ∧ Finds d (join root x) y := by
  simp only [directoriesBelow, List.mem_flatMap, List.mem_map, mem_foundIn, Prod.mk.injEq]
  constructor
  · rintro ⟨x', hx, y', hy, rfl, rfl⟩
    exact ⟨hx, hy⟩
  · rintro ⟨hx, hy⟩
    exact ⟨x, hx, y, hy, rfl, rfl⟩

/-- The directories are found in the order of their names. -/
theorem pairwise_directoriesBelow
    (d : Disk)
    (root : String) :
    (directoriesBelow d root).Pairwise (Prod.Lex (· < ·) (· < ·)) := by
  refine List.pairwise_flatMap.mpr ⟨fun x _ => List.pairwise_map.mpr ?_, ?_⟩
  · exact (pairwise_foundIn d (join root x)).imp fun hless => Prod.Lex.right x hless
  · refine (pairwise_foundIn d root).imp fun hless p hp q hq => ?_
    obtain ⟨y, -, rfl⟩ := List.mem_map.mp hp
    obtain ⟨y', -, rfl⟩ := List.mem_map.mp hq
    exact Prod.Lex.left y y' hless

theorem scanOrEmpty_eq
    (d : Disk)
    (root : String) :
    (scanOrEmpty d root).1 = (foundIn d root).map fun x => (scanCommand d root x).1 := by
  unfold scanOrEmpty foundIn
  cases hes : d.list root with
  | error e => rw [scan, hes]; rfl
  | ok es => rw [scan_eq hes]

theorem scanCommand_eq
    (h : Finds d root x) :
    (scanCommand d root x).1 =
      ((scanDirectory d root x).1,
        (foundIn d (join root x)).map fun y => (scanDirectory d (join root x) y).1) := by
  obtain ⟨es, hes⟩ := exists_list_of_isDirectory h.isDirectory
  rw [foundIn, hes, ← scanCommand_of_list hes, ← scanCommand_fst_fst]

/-- The pairs below a root are those of the directories that a scan finds. -/
theorem pairs_scanOrEmpty
    (d : Disk)
    (root : String) :
    (scanOrEmpty d root).1.pairs = (directoriesBelow d root).map (pairAt d root) := by
  rw [scanOrEmpty_eq, CommandTree.pairs, List.flatMap_map, directoriesBelow, List.map_flatMap]
  refine List.flatMap_congr fun x hx => ?_
  rw [scanCommand_eq (mem_foundIn.mp hx), List.map_map, List.map_map]
  rfl

/-- The command of a directory that is found is one of the commands below the root. -/
theorem mem_commands_of_finds
    (h : Finds d root x) :
    (scanDirectory d root x).1 ∈ (scanOrEmpty d root).1.commands := by
  rw [scanOrEmpty_eq]
  refine List.mem_flatMap.mpr ⟨_, List.mem_map_of_mem (mem_foundIn.mpr h), ?_⟩
  exact List.mem_cons_self

theorem mem_commands_of_mem_pairs
    {tree : CommandTree}
    {p : ScannedCommand × ScannedCommand}
    (h : p ∈ tree.pairs) :
    p.1 ∈ tree.commands ∧ p.2 ∈ tree.commands := by
  obtain ⟨q, hq, hpq⟩ := List.mem_flatMap.mp h
  obtain ⟨c, hc, rfl⟩ := List.mem_map.mp hpq
  exact ⟨List.mem_flatMap.mpr ⟨q, hq, List.mem_cons_self⟩,
    List.mem_flatMap.mpr ⟨q, hq, List.mem_cons_of_mem _ hc⟩⟩

/-- What is listed in a directory that a path leads into is what is there. -/
theorem get?_of_list
    {es : List (String × FileTree)}
    (hinto : d.LeadsInto path place)
    (hes : d.list path = .ok es) :
    d.get? place = some (.directory es) := by
  obtain ⟨q, hlocate⟩ := list_eq_ok_iff.mp hes
  obtain rfl := hinto.eq_of_locate hlocate
  exact get?_of_locate hlocate

theorem exists_list_of_leadsInto
    (hinto : d.LeadsInto path place)
    (hfits : Fits path)
    (hne : path.toList ≠ []) :
    ∃ es, d.list path = .ok es := by
  obtain ⟨es, hlocate⟩ := hinto.exists_locate hfits hne
  exact ⟨es, list_eq_ok_iff.mpr ⟨place, hlocate⟩⟩

/-- What is found in a directory is an entry of it. -/
theorem Finds.exists_get?
    (h : Finds d path name)
    (hinto : d.LeadsInto path place) :
    ∃ t, d.get? (place ++ [name]) = some t := by
  obtain ⟨es, hes, hmem, -, -⟩ := h
  rw [FileTree.get?_entry (get?_of_list hinto hes)]
  exact Dict.mem_keys_iff.mp hmem

/-- A directory is found by its name unless that is hidden. -/
theorem finds_of_isDirectory
    (hname : IsPlainName name)
    (visible : name.toList.head? ≠ some '.')
    (hne : path.toList ≠ [])
    (h : d.isDirectory (join path name) = true) :
    Finds d path name := by
  obtain ⟨q, es, hlocate⟩ := isDirectory_iff.mp h
  obtain ⟨place, reaches⟩ := exists_reaches_of_locateFrom hname hlocate
  obtain ⟨around, haround⟩ := exists_list_of_leadsInto reaches.into reaches.fits_base hne
  refine ⟨around, haround, Dict.mem_keys_iff.mpr ?_, visible, h⟩
  rw [← FileTree.get?_entry (get?_of_list reaches.into haround)]
  cases hentry : d.get? (place ++ [name]) with
  | some t => exact ⟨t, rfl⟩
  | none =>
      have hfree := reaches.locateFrom_of_missing hentry true
      rw [← locate, hlocate] at hfree
      cases hfree

theorem finds_of_leadsInto
    (h : d.LeadsInto (join path name) place)
    (hfits : Fits (join path name))
    (hname : IsPlainName name)
    (visible : name.toList.head? ≠ some '.')
    (hne : path.toList ≠ []) :
    Finds d path name :=
  finds_of_isDirectory hname visible hne (h.isDirectory hfits (join_ne_nil hname path))

end Finding

/-! ## A tree that is put where nothing was -/

/-- A name that a scan may come upon in a directory: it is not hidden, and it is plain or listed there. -/
def MayList
    (d : Disk)
    (path name : String) : Prop :=
  name.toList.head? ≠ some '.' ∧
    ∃ es, d.list path = .ok es ∧ (IsPlainName name ∨ name ∈ es.map Prod.fst)

section Putting

variable {d : Disk}
variable {path x : String}
variable {parent place : Place}
variable {part : List Char}
variable {new : FileTree}

/-- A name is found if it may be listed and stands for a directory. -/
theorem MayList.finds
    (h : MayList d path x)
    (hdirectory : d.isDirectory (join path x) = true) :
    Finds d path x := by
  obtain ⟨hvisible, es, hes, hplain | hlisted⟩ := h
  · obtain ⟨q, hlocate⟩ := list_eq_ok_iff.mp hes
    exact finds_of_isDirectory hplain hvisible (leads_of_locateFrom hlocate).2.1 hdirectory
  · exact ⟨es, hes, hlisted, hvisible, hdirectory⟩

/-- Where all names that are listed are plain, those that may be are. -/
theorem MayList.isPlainName
    {es : List (String × FileTree)}
    (h : MayList d path x)
    (hinto : d.LeadsInto path place)
    (hes : d.get? place = some (.directory es))
    (hplain : ∀ name ∈ es.map Prod.fst, IsPlainName name) :
    IsPlainName x := by
  obtain ⟨-, es', hes', hself | hlisted⟩ := h
  · exact hself
  · have hsame := (get?_of_list hinto hes').symm.trans hes
    cases hsame
    exact hplain x hlisted

/-- A directory that is found still may be listed before, if what is put has a plain name. -/
theorem mayList_of_finds_put
    (room : Room d parent part)
    (missing : d.get? (parent ++ [String.ofList part]) = none)
    (hpart : IsPlainName (String.ofList part))
    (hpath : d.isDirectory path = true)
    (h : Finds (d.put (parent ++ [String.ofList part]) new) path x) :
    MayList d path x := by
  obtain ⟨around, haround⟩ := room.around
  obtain ⟨place, es, hlocate⟩ := isDirectory_iff.mp hpath
  obtain ⟨u, hu⟩ := h.exists_get? ((leadsInto_of_locate hlocate).put_missing haround missing new)
  obtain ⟨-, -, -, hvisible, -⟩ := h
  refine ⟨hvisible, es, list_eq_ok_iff.mpr ⟨place, hlocate⟩, ?_⟩
  by_cases hself : parent ++ [String.ofList part] <+: place ++ [x]
  · rcases List.prefix_concat_iff.mp hself with heq | ⟨rest, rfl⟩
    · obtain ⟨-, hname⟩ := List.append_inj' heq rfl
      cases hname
      exact .inl hpart
    · have hplace := get?_of_locate hlocate
      rw [FileTree.get?_append, missing] at hplace
      cases hplace
  · obtain ⟨u', hu', -⟩ := FileTree.exists_get?_of_put_outside haround hself hu
    rw [FileTree.get?_entry (get?_of_locate hlocate)] at hu'
    exact .inr (Dict.mem_keys_iff.mpr ⟨u', hu'⟩)

/-- What is found in a directory stays, and nothing else is found in it but what lacked the name of what is
put. -/
theorem finds_put_iff
    (room : Room d parent part)
    (missing : d.get? (parent ++ [String.ofList part]) = none)
    (hpart : IsPlainName (String.ofList part))
    (hnew : new.isLink = false)
    (hpath : d.isDirectory path = true)
    (apart : MayList d path x → ¬ d.LacksAt (join path x) (parent ++ [String.ofList part])) :
    Finds (d.put (parent ++ [String.ofList part]) new) path x ↔ Finds d path x := by
  constructor
  · intro h
    have hmay := mayList_of_finds_put room missing hpart hpath h
    obtain ⟨-, -, -, -, hdirectory⟩ := h
    obtain ⟨q, es, hlocate⟩ := isDirectory_iff.mp hdirectory
    obtain ⟨u, hbefore, hsame⟩ := exists_locate_of_put room missing (apart hmay) hlocate
    refine hmay.finds (isDirectory_iff.mpr ?_)
    rcases hsame with rfl | ⟨hu, -⟩
    · exact ⟨q, es, hbefore⟩
    · obtain ⟨es', rfl⟩ := FileTree.isDirectory_iff.mp hu
      exact ⟨q, es', hbefore⟩
  · intro h
    have hextends := room.extends_put_missing missing hnew
    obtain ⟨place, es, hlocate⟩ := isDirectory_iff.mp hpath
    obtain ⟨u, hu⟩ := h.exists_get? (leadsInto_of_locate hlocate)
    obtain ⟨-, -, -, hvisible, hdirectory⟩ := h
    obtain ⟨es', hlocate'⟩ := hextends.exists_directory hlocate
    obtain ⟨q, inner, hinner⟩ := isDirectory_iff.mp hdirectory
    obtain ⟨inner', hinner'⟩ := hextends.exists_directory hinner
    refine ⟨es', list_eq_ok_iff.mpr ⟨place, hlocate'⟩, ?_, hvisible,
      isDirectory_iff.mpr ⟨q, inner', hinner'⟩⟩
    have hne : place ++ [x] ≠ parent ++ [String.ofList part] := by
      intro heq
      rw [heq, missing] at hu
      cases hu
    obtain ⟨u', hu', -⟩ := room.exists_get?_put hne hu new
    rw [FileTree.get?_entry (get?_of_locate hlocate')] at hu'
    exact Dict.mem_keys_iff.mpr ⟨u', hu'⟩

/-- A directory is described as before if none of its manifests lacked the name of what is put. -/
theorem loadCommand_put
    (room : Room d parent part)
    (missing : d.get? (parent ++ [String.ofList part]) = none)
    (hnew : new.isLink = false)
    (apart : ∀ m ∈ manifestNames, ¬ d.LacksAt (join path m) (parent ++ [String.ofList part]))
    (directory : String) :
    loadCommand (d.put (parent ++ [String.ofList part]) new) path directory =
      loadCommand d path directory := by
  have hextends := room.extends_put_missing missing hnew
  have hmanifest : ∀ m ∈ manifestNames,
      manifestBy? (d.put (parent ++ [String.ofList part]) new) path m = manifestBy? d path m := by
    intro m hm
    refine Option.ext fun found => ?_
    rw [manifestBy?_eq_some_iff, manifestBy?_eq_some_iff]
    refine and_congr_right fun _ => ?_
    constructor
    · rintro ⟨place, traits, hlocate⟩
      obtain ⟨u, hbefore, hsame⟩ := exists_locate_of_put room missing (apart m hm) hlocate
      rcases hsame with rfl | ⟨-, hfile⟩
      · exact ⟨place, traits, hbefore⟩
      · cases hfile
    · rintro ⟨place, traits, hlocate⟩
      exact ⟨place, traits, hextends.locate_file hlocate⟩
  have hfirst : manifestIn? (d.put (parent ++ [String.ofList part]) new) path = manifestIn? d path := by
    simp only [manifestIn?_eq, manifestNames, List.findSome?_cons, List.findSome?_nil,
      hmanifest "command.yaml" (by decide), hmanifest "command.yml" (by decide)]
  rw [loadCommand, loadCommand, hfirst]

end Putting

/-! ## A directory with one entry -/

section Single

variable {d : Disk}
variable {path sub y : String}
variable {place : Place}
variable {t : FileTree}

/-- Behind a name that a directory does not have, nothing is found. -/
theorem not_finds_of_missing
    {name : String}
    (h : d.Reaches path name place)
    (missing : d.get? (place ++ [name]) = none) :
    ¬ Finds d (join path name) y := by
  rintro ⟨es, hes, -⟩
  obtain ⟨q, hlocate⟩ := list_eq_ok_iff.mp hes
  have hfree := h.locateFrom_of_missing missing true
  rw [← locate, hlocate] at hfree
  cases hfree

/-- In a directory that is put somewhere with one entry, nothing else is found, and it has no manifest if the
entry is none. -/
theorem single_of_put
    {name : String}
    (h : d.Reaches path name place)
    (missing : d.get? (place ++ [name]) = none)
    (hsub : sub ∉ manifestNames) :
    (∀ y, Finds (d.put (place ++ [name]) (.directory [(sub, t)])) (join path name) y → y = sub) ∧
      ∀ m ∈ manifestNames,
        isFile (d.put (place ++ [name]) (.directory [(sub, t)])) (join (join path name) m) = false := by
  obtain ⟨es, hes⟩ := h.into.stop
  have hinto := h.leadsInto_put missing [(sub, t)]
  have hone : (d.put (place ++ [name]) (.directory [(sub, t)])).get? (place ++ [name]) =
      some (.directory [(sub, t)]) := FileTree.get?_put hes _
  constructor
  · rintro y ⟨es', hes', hmem, -, -⟩
    have hsame := (get?_of_list hinto hes').symm.trans hone
    cases hsame
    exact List.mem_singleton.mp hmem
  · intro m hm
    have hne : sub ≠ m := by
      rintro rfl
      exact hsub hm
    have hnone : (d.put (place ++ [name]) (.directory [(sub, t)])).get? (place ++ [name] ++ [m]) =
        none := by
      rw [FileTree.get?_entry hone, Dict.get?, if_neg hne]
      rfl
    rw [Bool.eq_false_iff]
    intro hfile
    obtain ⟨q, content, traits, hlocate⟩ := isFile_iff.mp hfile
    obtain ⟨-, -, -, hentry⟩ := (hinto.locate_join_iff (isPlainName_of_mem_manifestNames hm)
      fun target => by rw [hnone]; exact (Option.some_ne_none _).symm).mp hlocate
    rw [hnone] at hentry
    cases hentry

end Single

/-! ## A root that gains a directory -/

/-- What a scan below a root looks up in directories: directories of commands and of sub-commands, other
than those of two names, and manifests. -/
inductive LooksUp
    (d : Disk)
    (root name sub : String) : String → String → Prop where
  | command
      {x : String}
      (listed : MayList d root x)
      (other : x ≠ name) :
      LooksUp d root name sub root x
  | subcommand
      {x y : String}
      (found : Finds d root x)
      (listed : MayList d (join root x) y)
      (other : (x, y) ≠ (name, sub)) :
      LooksUp d root name sub (join root x) y
  | commandManifest
      {x m : String}
      (found : Finds d root x)
      (manifest : m ∈ manifestNames) :
      LooksUp d root name sub (join root x) m
  | subcommandManifest
      {x y m : String}
      (found : Finds d root x)
      (found' : Finds d (join root x) y)
      (manifest : m ∈ manifestNames) :
      LooksUp d root name sub (join (join root x) y) m

/-- Nothing else that a scan below a root looks up lacks a name that the directory of a sub-command lacks. -/
def Apart
    (d : Disk)
    (root name sub : String) : Prop :=
  ∀ path entry place, LooksUp d root name sub path entry →
    d.LacksAt (join path entry) place → ¬ d.LacksAt (join (join root name) sub) place

/-- A command root gains the directory of a sub-command: a scan finds it and what it found before, which is
described as before, and nothing else. The directory of the command was found as well, or no manifest
describes it. -/
structure Gains
    (d d' : Disk)
    (root name sub : String) : Prop where
  finds : ∀ x y, Finds d' root x ∧ Finds d' (join root x) y ↔
    (x, y) = (name, sub) ∨ Finds d root x ∧ Finds d (join root x) y
  missing : ¬ (Finds d root name ∧ Finds d (join root name) sub)
  commands : ∀ x, Finds d root x → loadCommand d' (join root x) x = loadCommand d (join root x) x
  subcommands : ∀ x y, Finds d root x → Finds d (join root x) y →
    loadCommand d' (join (join root x) y) y = loadCommand d (join (join root x) y) y
  unmarked : ¬ Finds d root name → ∀ m ∈ manifestNames, d'.isFile (join (join root name) m) = false

section Gaining

variable {d d' : Disk}
variable {root name sub last : String}
variable {parent : Place}
variable {new : FileTree}

/-- A root gains the directory that is put where the path of the directory lacked a name. -/
theorem gains_put
    (room : Room d parent last.toList)
    (missing : d.get? (parent ++ [last]) = none)
    (hlast : IsPlainName last)
    (hnew : new.isLink = false)
    (hroot : d.isDirectory root = true)
    (apart : Apart d root name sub)
    (lacks : d.LacksAt (join (join root name) sub) (parent ++ [last]))
    (absent : ¬ Finds d (join root name) sub)
    (found : Finds (d.put (parent ++ [last]) new) root name)
    (found' : Finds (d.put (parent ++ [last]) new) (join root name) sub)
    (fresh : ¬ Finds d root name →
      (∀ y, Finds (d.put (parent ++ [last]) new) (join root name) y → y = sub) ∧
        ∀ m ∈ manifestNames, isFile (d.put (parent ++ [last]) new) (join (join root name) m) = false) :
    Gains d (d.put (parent ++ [last]) new) root name sub := by
  obtain ⟨part, rfl⟩ : ∃ part, last = String.ofList part := ⟨_, String.ofList_toList.symm⟩
  rw [String.toList_ofList] at room
  have hfree {path entry : String} (h : LooksUp d root name sub path entry) :
      ¬ d.LacksAt (join path entry) (parent ++ [String.ofList part]) :=
    fun hlacks => apart path entry _ h hlacks lacks
  have hcommand {x : String} (hx : x ≠ name) :
      Finds (d.put (parent ++ [String.ofList part]) new) root x ↔ Finds d root x :=
    finds_put_iff room missing hlast hnew hroot fun hlisted => hfree (.command hlisted hx)
  have hsubcommand {x y : String} (hx : Finds d root x) (hxy : (x, y) ≠ (name, sub)) :
      Finds (d.put (parent ++ [String.ofList part]) new) (join root x) y ↔
        Finds d (join root x) y :=
    finds_put_iff room missing hlast hnew hx.isDirectory
      fun hlisted => hfree (.subcommand hx hlisted hxy)
  refine ⟨fun x y => ?_, fun hboth => absent hboth.2, fun x hx => ?_, fun x y hx hy => ?_,
    fun hnone => (fresh hnone).2⟩
  · by_cases hxy : (x, y) = (name, sub)
    · cases hxy
      exact iff_of_true ⟨found, found'⟩ (.inl rfl)
    · rw [or_iff_right hxy]
      by_cases hx : x = name
      · subst hx
        by_cases hold : Finds d root x
        · rw [hsubcommand hold hxy]
          exact and_congr_left fun _ => iff_of_true found hold
        · refine iff_of_false (fun hboth => hxy ?_) fun hboth => hold hboth.1
          rw [(fresh hold).1 y hboth.2]
      · rw [hcommand hx]
        exact and_congr_right fun hfound => hsubcommand hfound hxy
  · exact loadCommand_put room missing hnew (fun m hm => hfree (.commandManifest hx hm)) x
  · exact loadCommand_put room missing hnew (fun m hm => hfree (.subcommandManifest hx hy hm)) y

/-- A root that held nothing gains the directory that it is made with. -/
theorem gains_of_empty
    {d₁ : Disk}
    {place : Place}
    {t : FileTree}
    (reaches : d₁.Reaches root name place)
    (empty : d₁.get? place = some (.directory []))
    (hsub : sub ∉ manifestNames)
    (before : ∀ x, ¬ Finds d root x)
    (found : Finds (d₁.put (place ++ [name]) (.directory [(sub, t)])) root name)
    (found' : Finds (d₁.put (place ++ [name]) (.directory [(sub, t)])) (join root name) sub) :
    Gains d (d₁.put (place ++ [name]) (.directory [(sub, t)])) root name sub := by
  have hnone (x : String) : d₁.get? (place ++ [x]) = none := by
    rw [FileTree.get?_entry empty]
    rfl
  obtain ⟨honly, hunmarked⟩ := single_of_put reaches (hnone name) hsub
  refine ⟨fun x y => ?_, fun hboth => before name hboth.1, fun x hx => absurd hx (before x),
    fun x y hx => absurd hx (before x), fun _ => hunmarked⟩
  rw [or_iff_left fun hold => before x hold.1]
  constructor
  · rintro ⟨hx, hy⟩
    obtain ⟨t, ht⟩ := hx.exists_get? (reaches.into.put (.inl (hnone name)) _)
    obtain rfl : x = name := by
      by_contra hother
      rw [FileTree.get?_put_sibling empty hother, hnone] at ht
      cases ht
    rw [honly y hy]
  · rintro ⟨rfl, rfl⟩
    exact ⟨found, found'⟩

/-- What was found before is described as before. -/
theorem Gains.pairAt_eq
    {x y : String}
    (h : Gains d d' root name sub)
    (hx : Finds d root x)
    (hy : Finds d (join root x) y) :
    pairAt d' root (x, y) = pairAt d root (x, y) := by
  simp only [pairAt, scanDirectory_fst, h.commands x hx, h.subcommands x y hx hy]

/-- After a command root has gained a directory, there is one more pair, in its place among the others. -/
theorem Gains.exists_pairs
    (h : Gains d d' root name sub) :
    ∃ before after, (scanOrEmpty d root).1.pairs = before ++ after ∧
      (scanOrEmpty d' root).1.pairs = before ++ pairAt d' root (name, sub) :: after := by
  have hnew : (name, sub) ∉ directoriesBelow d root :=
    fun hmem => h.missing (mem_directoriesBelow.mp hmem)
  obtain ⟨front, back, hfront, hback⟩ := exists_split_of_mem_iff
    (pairwise_directoriesBelow d root) (pairwise_directoriesBelow d' root) hnew fun ⟨x, y⟩ => by
      rw [mem_directoriesBelow, mem_directoriesBelow, h.finds]
  have hsame : ∀ names ∈ directoriesBelow d root, pairAt d' root names = pairAt d root names := by
    rintro ⟨x, y⟩ hmem
    obtain ⟨hx, hy⟩ := mem_directoriesBelow.mp hmem
    exact h.pairAt_eq hx hy
  have hkept := List.map_congr_left hsame
  rw [hfront, List.map_append, List.map_append] at hkept
  obtain ⟨hkept₁, hkept₂⟩ := List.append_inj hkept (by simp)
  refine ⟨front.map (pairAt d root), back.map (pairAt d root), ?_, ?_⟩
  · rw [pairs_scanOrEmpty, hfront, List.map_append]
  · rw [pairs_scanOrEmpty, hback, List.map_append, List.map_cons, hkept₁, hkept₂]

end Gaining

/-! ## Units of commands that are called by their directories -/

section Registering

variable {d : Disk}
variable {root : String}
variable {tree tree' : CommandTree}

/-- A list without repeated keys is kept as it is. -/
theorem firsts_eq_self
    {α κ : Type}
    [DecidableEq κ]
    {key : α → κ}
    {l : List α}
    (h : (l.map key).Nodup) :
    firsts key l = l := by
  induction l with
  | nil => rfl
  | cons a rest ih =>
      rw [List.map_cons, List.nodup_cons] at h
      rw [firsts, ih h.2, List.filter_eq_self.mpr]
      intro b hb
      rw [decide_eq_true_eq]
      intro hkey
      exact h.1 (hkey ▸ List.mem_map_of_mem hb)

/-- Where all names are different, every sub-command that can be called has its unit. -/
theorem register_of_nodup
    (h : (tree.pairs.map namesOf).Nodup) :
    (register tree).1 = tree.callable.map unitOf := by
  rw [register_eq, firsts_eq_self]
  have hcallable : (tree.callable.map namesOf).Nodup := h.sublist (List.filter_sublist.map namesOf)
  rwa [List.map_map]

/-- One more pair that can be called makes one more unit, in its place. -/
theorem exists_register_of_pairs
    {before after : List (ScannedCommand × ScannedCommand)}
    {p : ScannedCommand × ScannedCommand}
    (hpairs : tree.pairs = before ++ after)
    (hpairs' : tree'.pairs = before ++ p :: after)
    (hnames : (tree'.pairs.map namesOf).Nodup)
    (hp : IsCallable p) :
    ∃ front back, (register tree).1 = front ++ back ∧
      (register tree').1 = front ++ unitOf p :: back := by
  have hsub : tree.pairs.Sublist tree'.pairs := by
    rw [hpairs, hpairs']
    exact (List.sublist_cons_self p after).append_left before
  refine ⟨(before.filter fun q => IsCallable q).map unitOf,
    (after.filter fun q => IsCallable q).map unitOf, ?_, ?_⟩
  · rw [register_of_nodup (hnames.sublist (hsub.map namesOf)), CommandTree.callable, hpairs,
      List.filter_append, List.map_append]
  · rw [register_of_nodup hnames, CommandTree.callable, hpairs', List.filter_append,
      List.filter_cons_of_pos (by simpa using hp), List.map_append, List.map_cons]

end Registering

end Runbook
