import Mathlib.Data.List.Forall2
import Mathlib.Data.List.Sort
import Runbook.Command.Registry
import Runbook.Proofs.Files.Altering
import Runbook.Proofs.Files.Ordering

/-!
# What is found below a command root

A scan finds each directory below the root that is not hidden, and each one below that, in the order of
their names, however the disk lists its entries. What describes one of them is the first manifest in it,
if that is fit for use. When a manifest is written, replaced or taken away, the same directories are
found, and only those whose manifest shares the file are described otherwise.

Main statement: `scan_finds`.
-/

namespace Runbook

open Runbook.Path

/-! ## What describes a directory -/

/-- What a manifest holds that is not fit for use: no text, no description of a command, or one that is
refused. -/
inductive Unusable (directory : String) : Content → Prop where
  | bytes (b : List UInt8) :
      Unusable directory (.bytes b)
  | unreadable
      {s : String}
      (h : Command.ofManifest? directory s = none) :
      Unusable directory (.text s)
  | refused
      {s : String}
      {c : Command}
      {e : ManifestError}
      (read : Command.ofManifest? directory s = some c)
      (h : c.validate = .error e) :
      Unusable directory (.text s)

/-- The manifest of a directory is the file by the first of the names that a file has. -/
structure HasManifest
    (d : Disk)
    (path name : String)
    (content : Content) : Prop where
  first : ∃ before after, manifestNames = before ++ name :: after ∧
    ∀ other ∈ before, d.isFile (join path other) = false
  file : ∃ place traits, d.locate (join path name) = .ok (.found place (.file content traits))

/-- What describes a directory: a manifest that is fit for use, or else its name. -/
inductive Describes
    (d : Disk)
    (path directory : String) : Command → Prop where
  | unmarked
      (h : ∀ name ∈ manifestNames, d.isFile (join path name) = false) :
      Describes d path directory (.ofDirectory directory)
  | unusable
      {name : String}
      {content : Content}
      (here : HasManifest d path name content)
      (h : Unusable directory content) :
      Describes d path directory (.ofDirectory directory)
  | usable
      {name s : String}
      {c : Command}
      (here : HasManifest d path name (.text s))
      (read : Command.ofManifest? directory s = some c)
      (h : c.validate = .ok ()) :
      Describes d path directory c

section Describing

variable {d d' : Disk}
variable {path directory name : String}
variable {content : Content}

/-- The manifest by a name, if the name leads to a file. -/
def manifestBy?
    (d : Disk)
    (path name : String) :
    Option (String × Content) :=
  match d.tree? (join path name) with
  | .ok (.file c _) => some (name, c)
  | _ => none

theorem manifestIn?_eq (d : Disk) (path : String) :
    manifestIn? d path = manifestNames.findSome? (manifestBy? d path) := by
  rfl

theorem manifestBy?_eq_some_iff
    {found : String × Content} :
    manifestBy? d path name = some found ↔
      found.1 = name ∧
        ∃ place traits, d.locate (join path name) = .ok (.found place (.file found.2 traits)) := by
  obtain ⟨name', content⟩ := found
  unfold manifestBy? Disk.tree?
  cases d.locate (join path name) with
  | error e => simp
  | ok spot =>
      cases spot with
      | free parent last slash => simp
      | found place t => cases t <;> simp [eq_comm, and_comm]

theorem manifestBy?_eq_none_iff :
    manifestBy? d path name = none ↔ d.isFile (join path name) = false := by
  rw [← not_iff_not, Bool.not_eq_false, Disk.isFile_iff, ← Ne, Option.ne_none_iff_exists']
  constructor
  · rintro ⟨found, hfound⟩
    obtain ⟨-, place, traits, hlocate⟩ := manifestBy?_eq_some_iff.mp hfound
    exact ⟨place, found.2, traits, hlocate⟩
  · rintro ⟨place, content, traits, hlocate⟩
    exact ⟨(name, content), manifestBy?_eq_some_iff.mpr ⟨rfl, place, traits, hlocate⟩⟩

theorem manifestIn?_eq_some_iff :
    manifestIn? d path = some (name, content) ↔ HasManifest d path name content := by
  rw [manifestIn?_eq, List.findSome?_eq_some_iff]
  simp only [manifestBy?_eq_some_iff, manifestBy?_eq_none_iff]
  constructor
  · rintro ⟨before, other, after, hsplit, ⟨rfl, hfile⟩, hbefore⟩
    exact ⟨⟨before, after, hsplit, hbefore⟩, hfile⟩
  · rintro ⟨⟨before, after, hsplit, hbefore⟩, hfile⟩
    exact ⟨before, name, after, hsplit, ⟨rfl, hfile⟩, hbefore⟩

theorem manifestIn?_eq_none_iff :
    manifestIn? d path = none ↔ ∀ name ∈ manifestNames, d.isFile (join path name) = false := by
  rw [manifestIn?_eq, List.findSome?_eq_none_iff]
  simp only [manifestBy?_eq_none_iff]

theorem usableCommand?_eq_some_iff
    {c : Command} :
    usableCommand? directory content = some c ↔
      ∃ s, content = .text s ∧ Command.ofManifest? directory s = some c ∧ c.validate = .ok () := by
  cases content with
  | bytes b => simp [usableCommand?]
  | text s =>
      simp only [usableCommand?, Content.text.injEq, exists_eq_left']
      cases hread : Command.ofManifest? directory s with
      | none => simp
      | some c' =>
          cases hvalid : c'.validate with
          | error e =>
              simp only [hvalid, reduceCtorEq, Option.some.injEq, false_iff, not_and]
              rintro rfl
              simp [hvalid]
          | ok u =>
              simp only [hvalid, Option.some.injEq, iff_self_and]
              rintro rfl
              exact hvalid

theorem unusable_of_usableCommand?_eq_none
    (h : usableCommand? directory content = none) :
    Unusable directory content := by
  cases content with
  | bytes b => exact .bytes b
  | text s =>
      cases hread : Command.ofManifest? directory s with
      | none => exact .unreadable hread
      | some c =>
          cases hvalid : c.validate with
          | error e => exact .refused hread hvalid
          | ok u => simp [usableCommand?, hread, hvalid] at h

/-- What a directory is described by is what describes it. -/
theorem describes_loadCommand
    (d : Disk)
    (path directory : String) :
    Describes d path directory (loadCommand d path directory).1 := by
  unfold loadCommand
  cases hmanifest : manifestIn? d path with
  | none => exact .unmarked (manifestIn?_eq_none_iff.mp hmanifest)
  | some found =>
      obtain ⟨name, content⟩ := found
      have here := manifestIn?_eq_some_iff.mp hmanifest
      dsimp only
      cases husable : usableCommand? directory content with
      | none => exact .unusable here (unusable_of_usableCommand?_eq_none husable)
      | some c =>
          obtain ⟨s, rfl, read, hvalid⟩ := usableCommand?_eq_some_iff.mp husable
          exact .usable here read hvalid

/-- The manifest of a directory is by one of some paths. -/
def ManifestAmong
    (paths : String → Prop)
    (d : Disk)
    (path : String) : Prop :=
  ∃ name content, HasManifest d path name content ∧ paths (join path name)

section Alike

variable {before after : String → Prop}

theorem HasManifest.isFile
    (h : HasManifest d path name content) :
    d.isFile (join path name) = true := by
  obtain ⟨place, traits, hlocate⟩ := h.file
  exact Disk.isFile_iff.mpr ⟨place, content, traits, hlocate⟩

/-- A manifest that nothing happens to stays the first one, or an earlier one comes. -/
theorem exists_hasManifest_of_alike
    (h : Disk.Alike before after d d')
    (here : HasManifest d path name content)
    (hnot : ¬ ManifestAmong before d path) :
    ∃ name' content', HasManifest d' path name' content' := by
  cases hmanifest : manifestIn? d' path with
  | some found => exact ⟨found.1, found.2, manifestIn?_eq_some_iff.mp hmanifest⟩
  | none =>
      obtain ⟨front, back, hsplit, -⟩ := here.first
      have hname : name ∈ manifestNames := by simp [hsplit]
      have hkept := h.isFile_of_not here.isFile fun hbefore => hnot ⟨name, content, here, hbefore⟩
      rw [manifestIn?_eq_none_iff.mp hmanifest name hname] at hkept
      cases hkept

/-- No earlier name has come to be that of the manifest. -/
theorem not_mem_front
    {name' : String}
    {content' : Content}
    {front : List String}
    (h : Disk.Alike before after d d')
    (hfront : ∀ other ∈ front, d.isFile (join path other) = false)
    (here' : HasManifest d' path name' content')
    (hnot' : ¬ ManifestAmong after d' path) :
    name' ∉ front := by
  intro hmem
  have hback := h.symm.isFile_of_not here'.isFile fun hafter => hnot' ⟨name', content', here', hafter⟩
  rw [hfront name' hmem] at hback
  cases hback

/-- A directory whose manifest is by none of the paths that lead elsewhere has the same manifest. -/
theorem HasManifest.of_alike
    (h : Disk.Alike before after d d')
    (here : HasManifest d path name content)
    (hnot : ¬ ManifestAmong before d path)
    (hnot' : ¬ ManifestAmong after d' path) :
    HasManifest d' path name content := by
  obtain ⟨name', content', here'⟩ := exists_hasManifest_of_alike h here hnot
  obtain ⟨front, back, hsplit, hfront⟩ := here.first
  obtain ⟨front', back', hsplit', hfront'⟩ := here'.first
  have hlate := not_mem_front h hfront here' hnot'
  have hlate' := not_mem_front h.symm hfront' here hnot
  -- Neither name stands before the other one, so they are one name.
  have hname : name' = name := by
    have hsplits := List.append_eq_append_iff.mp (hsplit.symm.trans hsplit')
    rcases hsplits with ⟨as, hf, hb⟩ | ⟨as, hf, hb⟩
    all_goals
      cases as with
      | nil =>
          simp only [List.nil_append, List.cons.injEq] at hb
          simp [hb.1]
      | cons a as =>
          simp only [List.cons_append, List.cons.injEq] at hb
          simp [hf, hb.1] at hlate hlate'
  subst hname
  obtain ⟨place, traits, hlocate⟩ := here.file
  have hsame := h.same (join path name') (fun hbefore => hnot ⟨_, _, here, hbefore⟩)
    fun hafter => hnot' ⟨_, _, here', hafter⟩
  exact ⟨here'.first, place, traits, hsame.locate_of_not_directory hlocate rfl⟩

/-- Such a directory is described as before. -/
theorem loadCommand_eq
    (h : Disk.Alike before after d d')
    (hnot : ¬ ManifestAmong before d path)
    (hnot' : ¬ ManifestAmong after d' path)
    (directory : String) :
    loadCommand d' path directory = loadCommand d path directory := by
  have hmanifest : manifestIn? d' path = manifestIn? d path := by
    refine Option.ext fun ⟨name, content⟩ => ?_
    rw [manifestIn?_eq_some_iff, manifestIn?_eq_some_iff]
    exact ⟨fun here => here.of_alike h.symm hnot' hnot, fun here => here.of_alike h hnot hnot'⟩
  rw [loadCommand, loadCommand, hmanifest]

end Alike

end Describing

/-! ## The directories in a directory -/

/-- The commands found in a directory: one for each directory in it that is not hidden, in the order of
their names, each described as its directory says. -/
structure Lists
    (d : Disk)
    (path : String)
    (found : List ScannedCommand) : Prop where
  ordered : found.Pairwise fun c c' => c.directory < c'.directory
  exact : ∀ name, name ∈ found.map ScannedCommand.directory ↔
    ∃ es, d.list path = .ok es ∧ name ∈ es.map Prod.fst ∧ name.toList.head? ≠ some '.' ∧
      d.isDirectory (join path name) = true
  placed : ∀ c ∈ found, c.path = join path c.directory
  described : ∀ c ∈ found, Describes d c.path c.directory c.command

section Listing

variable {d d' : Disk}
variable {path name : String}
variable {es es' : List (String × FileTree)}

theorem mem_subdirectories :
    name ∈ subdirectories d path es ↔
      name ∈ es.map Prod.fst ∧ name.toList.head? ≠ some '.' ∧ d.isDirectory (join path name) = true := by
  have hkeys : name ∈ (Dict.ofList es).map Prod.fst ↔ name ∈ es.map Prod.fst := by
    rw [Dict.mem_keys_iff, Dict.get?_ofList, ← Dict.get?_eq_map_find?, ← Dict.mem_keys_iff]
    simp
  simp [subdirectories, hkeys]

theorem pairwise_subdirectories
    (d : Disk)
    (path : String)
    (es : List (String × FileTree)) :
    (subdirectories d path es).Pairwise (· < ·) :=
  (List.pairwise_map.mpr (Dict.sorted_ofList es)).filter _

/-- The names found do not depend on anything but which names lead to directories. -/
theorem subdirectories_eq
    {before after : String → Prop}
    (h : Disk.Alike before after d d')
    (hes : d.list path = .ok es)
    (hes' : d'.list path = .ok es') :
    subdirectories d' path es' = subdirectories d path es := by
  refine (pairwise_subdirectories d' path es').eq_of_mem_iff (pairwise_subdirectories d path es) ?_
  intro name
  rw [mem_subdirectories, mem_subdirectories, h.directory]
  exact and_congr_left fun hname => (h.names path name es es' hes hes' hname.2).symm

theorem scanDirectory_fst
    (d : Disk)
    (path name : String) :
    (scanDirectory d path name).1 =
      ⟨name, join path name, (loadCommand d (join path name) name).1⟩ := by
  rfl

theorem lists_map_scanDirectory
    (h : d.list path = .ok es) :
    Lists d path ((subdirectories d path es).map fun name => (scanDirectory d path name).1) := by
  simp only [scanDirectory_fst]
  refine ⟨List.pairwise_map.mpr (pairwise_subdirectories d path es), fun name => ?_, ?_, ?_⟩
  · rw [List.map_map, Function.comp_def, List.map_id', mem_subdirectories]
    constructor
    · exact fun hname => ⟨es, h, hname⟩
    · rintro ⟨es', hes', hname⟩
      rw [h] at hes'
      cases hes'
      exact hname
  · intro c hc
    obtain ⟨name, -, rfl⟩ := List.mem_map.mp hc
    rfl
  · intro c hc
    obtain ⟨name, -, rfl⟩ := List.mem_map.mp hc
    exact describes_loadCommand d (join path name) name

theorem exists_list_of_isDirectory
    (h : d.isDirectory path = true) :
    ∃ es, d.list path = .ok es := by
  obtain ⟨place, es, hlocate⟩ := Disk.isDirectory_iff.mp h
  exact ⟨es, Disk.list_eq_ok_iff.mpr ⟨place, hlocate⟩⟩

end Listing

/-! ## The tree of commands -/

/-- The commands in a root, each with those in its directory. -/
structure IsTreeOf
    (d : Disk)
    (root : String)
    (tree : CommandTree) : Prop where
  commands : Lists d root (tree.map Prod.fst)
  below : ∀ p ∈ tree, Lists d p.1.path p.2

/-- One command is the other one, but for what describes it if its path is among some. -/
structure ScannedCommand.SameBut
    (changed : String → Prop)
    (c c' : ScannedCommand) : Prop where
  directory : c'.directory = c.directory
  path : c'.path = c.path
  command : ¬ changed c.path → c'.command = c.command

namespace CommandTree

/-- All commands of a tree. -/
def commands (tree : CommandTree) : List ScannedCommand :=
  tree.flatMap fun p => p.1 :: p.2

/-- One tree is the other one, but for what describes the commands whose paths are among some. -/
def SameBut
    (changed : String → Prop)
    (tree tree' : CommandTree) : Prop :=
  List.Forall₂
    (fun p p' => p.1.SameBut changed p'.1 ∧ List.Forall₂ (ScannedCommand.SameBut changed) p.2 p'.2)
    tree tree'

/-- What comes after all commands of a tree is put at its end. -/
theorem insert_of_precedes
    {tree : CommandTree}
    {command : ScannedCommand}
    (h : ∀ p ∈ tree, p.1.directory < command.directory)
    (below : List ScannedCommand) :
    tree.insert command below = tree ++ [(command, below)] := by
  induction tree with
  | nil => rfl
  | cons p rest ih =>
      obtain ⟨c, subs⟩ := p
      have hfirst : c.precedes command = true := by
        have hlt : c.directory < command.directory := h (c, subs) List.mem_cons_self
        simp [ScannedCommand.precedes, hlt]
      have hrest := ih fun q hq => h q (List.mem_cons_of_mem _ hq)
      rw [insert, if_pos hfirst, hrest, List.cons_append]

/-- Commands in the order of their directories are a tree as they are. -/
theorem ofList_eq
    {found : List (ScannedCommand × List ScannedCommand)}
    (h : found.Pairwise fun p q => p.1.directory < q.1.directory) :
    ofList found = found := by
  induction found using List.reverseRecOn with
  | nil => rfl
  | append_singleton rest p ih =>
      obtain ⟨hrest, -, hlast⟩ := List.pairwise_append.mp h
      have hinit : rest.foldl (fun tree f => CommandTree.insert tree f.1 f.2) [] = rest := ih hrest
      rw [ofList, List.foldl_append, hinit]
      exact insert_of_precedes (fun q hq => hlast q hq p (List.mem_singleton_self p)) p.2

theorem SameBut.imp
    {changed changed' : String → Prop}
    {tree tree' : CommandTree}
    (h : tree.SameBut changed tree')
    (himp : ∀ c ∈ tree.commands, changed c.path → changed' c.path) :
    tree.SameBut changed' tree' := by
  have step {c c' : ScannedCommand} (hc : c ∈ tree.commands) (hsame : c.SameBut changed c') :
      c.SameBut changed' c' :=
    ⟨hsame.directory, hsame.path, fun hnot => hsame.command fun hchanged => hnot (himp c hc hchanged)⟩
  have hmem : ∀ p ∈ tree, ∀ c ∈ p.1 :: p.2, c ∈ tree.commands :=
    fun p hp c hc => List.mem_flatMap.mpr ⟨p, hp, hc⟩
  have hall := (List.forall₂_and_left tree tree').mpr ⟨hmem, h⟩
  refine hall.imp fun p p' ⟨hin, hfirst, hbelow⟩ => ⟨step (hin p.1 List.mem_cons_self) hfirst, ?_⟩
  have hsubs := (List.forall₂_and_left p.2 p'.2).mpr
    ⟨fun c hc => hin c (List.mem_cons_of_mem _ hc), hbelow⟩
  exact hsubs.imp fun c c' ⟨hc, hsame⟩ => step hc hsame

end CommandTree

section Scanning

variable {d d' : Disk}
variable {root name : String}
variable {es es' : List (String × FileTree)}

theorem scanCommand_fst_fst
    (d : Disk)
    (root name : String) :
    (scanCommand d root name).1.1 = (scanDirectory d root name).1 := by
  rfl

theorem scanCommand_of_list
    (h : d.list (join root name) = .ok es) :
    (scanCommand d root name).1.2 =
      (subdirectories d (join root name) es).map fun sub => (scanDirectory d (join root name) sub).1 := by
  simp [scanCommand, scanDirectories, scanDirectory_fst, h]

/-- The commands below a root that can be listed. -/
theorem scan_eq
    (h : d.list root = .ok es) :
    scan d root = .ok ((subdirectories d root es).map fun name => (scanCommand d root name).1,
      (subdirectories d root es).flatMap fun name => (scanCommand d root name).2) := by
  have hordered : ((subdirectories d root es).map fun name => (scanCommand d root name).1).Pairwise
      fun p q => p.1.directory < q.1.directory :=
    List.pairwise_map.mpr (pairwise_subdirectories d root es)
  simp only [scan, h, List.map_map, List.flatMap_map, Function.comp_def]
  rw [CommandTree.ofList_eq hordered]

theorem isTreeOf_map_scanCommand
    (h : d.list root = .ok es) :
    IsTreeOf d root ((subdirectories d root es).map fun name => (scanCommand d root name).1) := by
  constructor
  · simp only [List.map_map, Function.comp_def, scanCommand_fst_fst]
    exact lists_map_scanDirectory h
  · intro p hp
    obtain ⟨name, hname, rfl⟩ := List.mem_map.mp hp
    obtain ⟨-, -, hdirectory⟩ := mem_subdirectories.mp hname
    obtain ⟨es', hes'⟩ := exists_list_of_isDirectory hdirectory
    have hpath : (scanDirectory d root name).1.path = join root name := rfl
    rw [scanCommand_of_list hes', scanCommand_fst_fst, hpath]
    exact lists_map_scanDirectory hes'

/-- The directories in a root are among the paths of its tree. -/
theorem IsTreeOf.join_mem_paths
    {tree : CommandTree}
    (h : IsTreeOf d root tree)
    (hes : d.list root = .ok es)
    (hname : name ∈ subdirectories d root es) :
    join root name ∈ tree.commands.map ScannedCommand.path := by
  have hfound := (h.commands.exact name).mpr ⟨es, hes, mem_subdirectories.mp hname⟩
  obtain ⟨c, hc, rfl⟩ := List.mem_map.mp hfound
  obtain ⟨p, hp, rfl⟩ := List.mem_map.mp hc
  rw [← h.commands.placed p.1 hc]
  exact List.mem_map_of_mem (List.mem_flatMap.mpr ⟨p, hp, List.mem_cons_self⟩)

end Scanning

/-! ## Scans of disks that look alike -/

section Comparing

variable {d d' : Disk}
variable {before after : String → Prop}
variable {root : String}
variable {es : List (String × FileTree)}

theorem sameBut_scanDirectory
    (h : Disk.Alike before after d d')
    (path name : String) :
    (scanDirectory d path name).1.SameBut
      (fun p => ManifestAmong before d p ∨ ManifestAmong after d' p)
      (scanDirectory d' path name).1 := by
  rw [scanDirectory_fst, scanDirectory_fst]
  refine ⟨rfl, rfl, fun hnot => ?_⟩
  have hload := loadCommand_eq h (fun hbefore => hnot (Or.inl hbefore))
    (fun hafter => hnot (Or.inr hafter)) name
  exact congrArg Prod.fst hload

/-- What can be listed can be listed where paths lead to the same directories. -/
theorem Disk.Alike.exists_list
    (h : Disk.Alike before after d d')
    (hes : d.list root = .ok es) :
    ∃ es', d'.list root = .ok es' := by
  obtain ⟨place, hlocate⟩ := Disk.list_eq_ok_iff.mp hes
  refine exists_list_of_isDirectory ?_
  rw [h.directory]
  exact Disk.isDirectory_iff.mpr ⟨place, es, hlocate⟩

theorem sameBut_scanCommand
    (h : Disk.Alike before after d d')
    {name : String}
    (hname : d.isDirectory (join root name) = true) :
    (scanCommand d root name).1.1.SameBut
        (fun p => ManifestAmong before d p ∨ ManifestAmong after d' p)
        (scanCommand d' root name).1.1 ∧
      List.Forall₂
        (ScannedCommand.SameBut fun p => ManifestAmong before d p ∨ ManifestAmong after d' p)
        (scanCommand d root name).1.2 (scanCommand d' root name).1.2 := by
  rw [scanCommand_fst_fst, scanCommand_fst_fst]
  refine ⟨sameBut_scanDirectory h root name, ?_⟩
  obtain ⟨es, hes⟩ := exists_list_of_isDirectory hname
  obtain ⟨es', hes'⟩ := h.exists_list hes
  rw [scanCommand_of_list hes, scanCommand_of_list hes', subdirectories_eq h hes hes',
    List.forall₂_map_left_iff, List.forall₂_map_right_iff, List.forall₂_same]
  exact fun sub _ => sameBut_scanDirectory h (join root name) sub

/-- Below a root the same commands are found, and only those whose manifest is by a path that leads
elsewhere are described otherwise. -/
theorem exists_scan_of_alike
    (h : Disk.Alike before after d d')
    {tree : CommandTree}
    {warnings : List Warning}
    (hscan : scan d root = .ok (tree, warnings)) :
    ∃ tree' warnings', scan d' root = .ok (tree', warnings') ∧ IsTreeOf d' root tree' ∧
      tree.SameBut (fun p => ManifestAmong before d p ∨ ManifestAmong after d' p) tree' := by
  cases hlist : d.list root with
  | error e => simp [scan, hlist] at hscan
  | ok es =>
      obtain ⟨es', hlist'⟩ := h.exists_list hlist
      rw [scan_eq hlist] at hscan
      cases hscan
      refine ⟨_, _, scan_eq hlist', isTreeOf_map_scanCommand hlist', ?_⟩
      rw [CommandTree.SameBut, subdirectories_eq h hlist hlist', List.forall₂_map_left_iff,
        List.forall₂_map_right_iff, List.forall₂_same]
      exact fun name hname => sameBut_scanCommand h (mem_subdirectories.mp hname).2.2

/-- In whatever order the disk lists entries, a scan gives the same. -/
theorem scan_of_relisted
    (h : FileTree.Relisted d d')
    (hes : d.list root = .ok es) :
    scan d' root = scan d root := by
  have alike := Disk.alike_of_relisted h
  have hload (path directory : String) : loadCommand d' path directory = loadCommand d path directory :=
    loadCommand_eq alike (fun ⟨_, _, _, h⟩ => h) (fun ⟨_, _, _, h⟩ => h) directory
  have hdirectory : scanDirectory d' = scanDirectory d := by
    funext path name
    rw [scanDirectory, scanDirectory, hload]
  have hcommand {name : String} (hname : d.isDirectory (join root name) = true) :
      scanCommand d' root name = scanCommand d root name := by
    obtain ⟨below, hbelow⟩ := exists_list_of_isDirectory hname
    obtain ⟨below', hbelow'⟩ := alike.exists_list hbelow
    have hnames := subdirectories_eq alike hbelow hbelow'
    simp only [scanCommand, scanDirectories, hdirectory, scanDirectory_fst, hbelow, hbelow', hnames]
  obtain ⟨es', hes'⟩ := alike.exists_list hes
  rw [scan, scan, hes, hes']
  dsimp only
  rw [subdirectories_eq alike hes hes',
    List.map_congr_left fun name hname => hcommand (mem_subdirectories.mp hname).2.2]

end Comparing

/-! ## Trees without links -/

/-- A tree in which every name stands for one entry, nothing is a link, and no file has another name. -/
inductive FileTree.Linkless : FileTree → Prop where
  | file
      {c : Content}
      {traits : Traits}
      (h : traits.twin = none) :
      Linkless (.file c traits)
  | device (kind : Device) :
      Linkless (.device kind)
  | directory
      {es : List (String × FileTree)}
      (named : ∀ e ∈ es, Disk.IsPlainName e.1)
      (entries : ∀ e ∈ es, Linkless e.2) :
      Linkless (.directory es)

namespace FileTree.Linkless

variable {t : FileTree}

theorem isLink_eq
    (h : t.Linkless) :
    t.isLink = false := by
  cases h <;> rfl

theorem twin?_eq
    (h : t.Linkless) :
    t.twin? = none := by
  cases h with
  | file htwin => exact htwin
  | device kind => rfl
  | directory named entries => rfl

end FileTree.Linkless

/-- A path leads to a directory in a place, and there is no link in it. -/
def Unlinked
    (d : Disk)
    (path : String)
    (place : Place) : Prop :=
  ∃ es, d.locate path = .ok (.found place (.directory es)) ∧ (FileTree.directory es).Linkless

namespace Unlinked

variable {d : Disk}
variable {path path' name name' : String}
variable {place place' : Place}
variable {t : FileTree}

/-- An entry has a plain name, and there is no link in it. -/
theorem entry
    (h : Unlinked d path place)
    (ht : d.get? (place ++ [name]) = some t) :
    Disk.IsPlainName name ∧ t.Linkless := by
  obtain ⟨es, hlocate, hlinkless⟩ := h
  rw [FileTree.get?_entry (Disk.get?_of_locate hlocate)] at ht
  have hmem := Dict.mem_of_get? ht
  cases hlinkless with
  | directory named entries => exact ⟨named _ hmem, entries _ hmem⟩

/-- A name leads to the entry of that name. -/
theorem of_locate_join
    (h : Unlinked d path place)
    (hname : Disk.IsPlainName name)
    {q : Place}
    (hlocate : d.locate (Path.join path name) = .ok (.found q t)) :
    q = place ++ [name] ∧ t.Linkless := by
  obtain ⟨parent, hreaches⟩ := Disk.exists_reaches_of_locateFrom hname hlocate
  obtain rfl : parent = place := by
    obtain ⟨es, hes, -⟩ := h
    exact hreaches.into.eq_of_locate hes
  cases hentry : d.get? (parent ++ [name]) with
  | none =>
      have hmissing : d.locate (Path.join path name) = _ := hreaches.locateFrom_of_missing hentry true
      rw [hmissing] at hlocate
      cases hlocate
  | some u =>
      obtain ⟨-, hlinkless⟩ := h.entry hentry
      rw [hreaches.locate_of_found hentry hlinkless.isLink_eq] at hlocate
      cases hlocate
      exact ⟨rfl, hlinkless⟩

/-- There is no link in the directories in it either. -/
theorem join
    (h : Unlinked d path place)
    (hname : Disk.IsPlainName name)
    (hdirectory : d.isDirectory (Path.join path name) = true) :
    Unlinked d (Path.join path name) (place ++ [name]) := by
  obtain ⟨q, es, hlocate⟩ := Disk.isDirectory_iff.mp hdirectory
  obtain ⟨rfl, hlinkless⟩ := h.of_locate_join hname hlocate
  exact ⟨es, hlocate, hlinkless⟩

/-- Paths by names in such directories share a file only if they lead to one entry. -/
theorem eq_of_sharesFile
    (h : Unlinked d path place)
    (h' : Unlinked d path' place')
    (hname : Disk.IsPlainName name)
    (hname' : Disk.IsPlainName name')
    (hshares : d.SharesFile (Path.join path name) (Path.join path' name')) :
    place' = place ∧ name' = name := by
  obtain ⟨q, q', t, t', hlocate, hlocate', hsame⟩ := hshares
  obtain ⟨rfl, hlinkless⟩ := h.of_locate_join hname hlocate
  obtain ⟨rfl, -⟩ := h'.of_locate_join hname' hlocate'
  rcases hsame with heq | ⟨hsome, -⟩
  · obtain ⟨rfl, hlast⟩ := List.append_inj' heq rfl
    exact ⟨rfl, List.singleton_inj.mp hlast⟩
  · rw [hlinkless.twin?_eq] at hsome
    cases hsome

end Unlinked

section Standing

variable {d d' : Disk}
variable {root path : String}
variable {place place' names : Place}
variable {found : List ScannedCommand}
variable {tree : CommandTree}
variable {c : ScannedCommand}

/-- A directory that is found has a plain name. -/
theorem Unlinked.isPlainName
    (h : Unlinked d path place)
    (hfound : Lists d path found)
    (hc : c ∈ found) :
    Disk.IsPlainName c.directory := by
  obtain ⟨es, hlist, hname, -⟩ := (hfound.exact c.directory).mp (List.mem_map_of_mem hc)
  have ⟨es', hlocate, _⟩ := h
  obtain ⟨q, hlocate'⟩ := Disk.list_eq_ok_iff.mp hlist
  rw [hlocate] at hlocate'
  cases hlocate'
  obtain ⟨t, ht⟩ := Dict.mem_keys_iff.mp hname
  have hentry := FileTree.get?_entry (Disk.get?_of_locate hlocate) c.directory
  exact (h.entry (hentry.trans ht)).1

/-- A path leads by names below a root, on two disks without links there. -/
structure Stands
    (d d' : Disk)
    (root : String)
    (place place' : Place)
    (path : String)
    (names : Place) : Prop where
  path_eq : path = below root names
  before : Unlinked d path (place ++ names)
  after : Unlinked d' path (place' ++ names)

/-- What is found in a directory stands below it by its name. -/
theorem Stands.of_mem
    (h : Stands d d' root place place' path names)
    (hdirectory : ∀ path', d'.isDirectory path' = d.isDirectory path')
    (hfound : Lists d path found)
    (hc : c ∈ found) :
    Stands d d' root place place' c.path (names ++ [c.directory]) := by
  have hname := h.before.isPlainName hfound hc
  obtain ⟨-, -, -, -, hdir⟩ := (hfound.exact c.directory).mp (List.mem_map_of_mem hc)
  rw [hfound.placed c hc]
  constructor
  · rw [h.path_eq, below, below, List.foldl_append]
    rfl
  · rw [← List.append_assoc]
    exact h.before.join hname hdir
  · rw [← List.append_assoc]
    exact h.after.join hname ((hdirectory _).trans hdir)

/-- Every command of a tree stands below the root. -/
theorem exists_stands_of_mem_commands
    (h : Unlinked d root place)
    (h' : Unlinked d' root place')
    (hdirectory : ∀ path', d'.isDirectory path' = d.isDirectory path')
    (htree : IsTreeOf d root tree)
    (hc : c ∈ tree.commands) :
    ∃ names, Stands d d' root place place' c.path names := by
  have hroot : Stands d d' root place place' root [] :=
    ⟨rfl, by rwa [List.append_nil], by rwa [List.append_nil]⟩
  obtain ⟨p, hp, hmem⟩ := List.mem_flatMap.mp hc
  have hfirst := hroot.of_mem hdirectory htree.commands (List.mem_map_of_mem hp)
  rcases List.mem_cons.mp hmem with rfl | hbelow
  · exact ⟨_, hfirst⟩
  · exact ⟨_, hfirst.of_mem hdirectory (htree.below p hp) hbelow⟩

end Standing

/-! ## One manifest changed -/

/-- The manifest of a directory is the file that a path leads to. -/
def SharesManifest
    (d : Disk)
    (file : String) :
    String → Prop :=
  ManifestAmong (d.SharesFile file) d

theorem SharesManifest.exists_sharesFile
    {d : Disk}
    {file path : String}
    (h : SharesManifest d file path) :
    ∃ name ∈ manifestNames, d.SharesFile file (join path name) := by
  obtain ⟨name, content, here, hshares⟩ := h
  obtain ⟨front, back, hsplit, -⟩ := here.first
  exact ⟨name, by simp [hsplit], hshares⟩

section Changing

variable {d : Disk}
variable {root : String}
variable {es : List (String × FileTree)}

theorem isPlainName_of_mem_manifestNames
    {name : String}
    (h : name ∈ manifestNames) :
    Disk.IsPlainName name := by
  have hall : ∀ name ∈ manifestNames, Disk.IsPlainName name := by decide
  exact hall name h

/-- Without links no two commands share a manifest. -/
theorem path_eq_of_sharesManifest
    {d' : Disk}
    {place place' : Place}
    {tree : CommandTree}
    {c c' : ScannedCommand}
    {name : String}
    (h : Unlinked d root place)
    (h' : Unlinked d' root place')
    (hdirectory : ∀ path', d'.isDirectory path' = d.isDirectory path')
    (htree : IsTreeOf d root tree)
    (hc : c ∈ tree.commands)
    (hc' : c' ∈ tree.commands)
    (hname : name ∈ manifestNames)
    (hshares : SharesManifest d (join c.path name) c'.path ∨
      SharesManifest d' (join c.path name) c'.path) :
    c'.path = c.path := by
  obtain ⟨names, hstands⟩ := exists_stands_of_mem_commands h h' hdirectory htree hc
  obtain ⟨names', hstands'⟩ := exists_stands_of_mem_commands h h' hdirectory htree hc'
  have hplain := isPlainName_of_mem_manifestNames hname
  have hnames : names' = names := by
    rcases hshares with hbefore | hafter
    · obtain ⟨other, hother, hshares⟩ := hbefore.exists_sharesFile
      have hplain' := isPlainName_of_mem_manifestNames hother
      have hplace := hstands.before.eq_of_sharesFile hstands'.before hplain hplain' hshares
      exact List.append_cancel_left hplace.1
    · obtain ⟨other, hother, hshares⟩ := hafter.exists_sharesFile
      have hplain' := isPlainName_of_mem_manifestNames hother
      have hplace := hstands.after.eq_of_sharesFile hstands'.after hplain hplain' hshares
      exact List.append_cancel_left hplace.1
  rw [hstands.path_eq, hstands'.path_eq, hnames]

/-- A scan of a root that can be listed finds exactly its directories and theirs, in order, however the
disk lists them, and each is described by its manifest, or by its name where that is of no use. When a
manifest is changed, or taken away, the same is found, and what describes a directory stays, unless a
manifest in it shares the file; without links that is only the directory of the manifest. -/
theorem scan_finds
    (h : d.list root = .ok es) :
    ∃ tree warnings, scan d root = .ok (tree, warnings) ∧ IsTreeOf d root tree ∧
      (∀ d', FileTree.Relisted d d' → scan d' root = .ok (tree, warnings)) ∧
      ∀ base name d', name ∈ manifestNames → d.isFile (join base name) = true →
        d.FileChanged (join base name) d' →
        ∃ tree' warnings', scan d' root = .ok (tree', warnings') ∧ IsTreeOf d' root tree' ∧
          tree.SameBut
            (fun p => SharesManifest d (join base name) p ∨ SharesManifest d' (join base name) p)
            tree' ∧
          ∀ place place', Unlinked d root place → Unlinked d' root place' →
            base ∈ tree.commands.map ScannedCommand.path → tree.SameBut (· = base) tree' := by
  have hscan := scan_eq h
  have htree := isTreeOf_map_scanCommand h
  refine ⟨_, _, hscan, htree, fun d' hd' => (scan_of_relisted hd' h).trans hscan, ?_⟩
  intro base name d' hname hfile hchanged
  have alike := Disk.alike_of_fileChanged (isPlainName_of_mem_manifestNames hname) hfile hchanged
  obtain ⟨tree', warnings', hscan', htree', hsame⟩ := exists_scan_of_alike alike hscan
  refine ⟨tree', warnings', hscan', htree', hsame, fun place place' hplace hplace' hbase => ?_⟩
  obtain ⟨c, hc, rfl⟩ := List.mem_map.mp hbase
  exact hsame.imp fun c' hc' hshares =>
    path_eq_of_sharesManifest hplace hplace' alike.directory htree hc hc' hname hshares

end Changing

/-! ## Two directories -/

/-- A disk with a directory whose manifest holds something, and another directory beside it. -/
def manifestDisk
    (c : Content)
    (beside : List (String × FileTree)) : Disk :=
  .directory
    [("r", .directory
      [("a", .directory [("command.yaml", .file c .plain)]), ("b", .directory beside)])]

section Sample

variable (c : Content)
variable (beside : List (String × FileTree))

theorem isNamed_sample :
    ∀ s ∈ ["r", "a", "b", "command.yaml"], Disk.IsNamed s.toList := by
  have hall : ∀ s ∈ ["r", "a", "b", "command.yaml"],
      (s.toList ≠ [] ∧ s.toList ≠ ['.'] ∧ s.toList ≠ ['.', '.']) ∧
        s.utf8ByteSize ≤ Disk.maxName := by decide
  exact fun s hs => Disk.isNamed_of_short (hall s hs).1 (hall s hs).2

theorem locate_root_manifestDisk :
    (manifestDisk c beside).locate "/r" = .ok (.found ["r"] (.directory
      [("a", .directory [("command.yaml", .file c .plain)]), ("b", .directory beside)])) := by
  have hparts : Text.splitOn '/' "/r".toList = [[], "r".toList] := rfl
  have hr := isNamed_sample "r" (by decide)
  rw [Disk.locate, Disk.locateFrom_eq ⟨by decide, by decide⟩ (by decide), hparts,
    Disk.follow_stay rfl rfl, Disk.follow_down rfl hr rfl rfl, Disk.follow_nil rfl]
  rfl

theorem list_manifestDisk :
    (manifestDisk c beside).list "/r" =
      .ok [("a", .directory [("command.yaml", .file c .plain)]), ("b", .directory beside)] :=
  Disk.list_eq_ok_iff.mpr ⟨["r"], locate_root_manifestDisk c beside⟩

theorem isDirectory_beside :
    (manifestDisk c beside).isDirectory (join "/r" "b") = true := by
  have hinto : (manifestDisk c beside).LeadsInto "/r" ["r"] :=
    ⟨_, .stay rfl rfl (.down rfl (isNamed_sample "r" (by decide)) (.done rfl))⟩
  have hreaches : (manifestDisk c beside).Reaches "/r" "b" ["r"] :=
    ⟨hinto, isNamed_sample "b" (by decide), by decide, by decide, by decide⟩
  exact Disk.isDirectory_iff.mpr ⟨_, beside, hreaches.locate_of_found rfl rfl⟩

theorem isDirectory_own :
    (manifestDisk c beside).isDirectory (join "/r" "a") = true := by
  have hinto : (manifestDisk c beside).LeadsInto "/r" ["r"] :=
    ⟨_, .stay rfl rfl (.down rfl (isNamed_sample "r" (by decide)) (.done rfl))⟩
  have hreaches : (manifestDisk c beside).Reaches "/r" "a" ["r"] :=
    ⟨hinto, isNamed_sample "a" (by decide), by decide, by decide, by decide⟩
  exact Disk.isDirectory_iff.mpr ⟨_, _, hreaches.locate_of_found rfl rfl⟩

theorem locate_manifest :
    (manifestDisk c beside).locate (join (join "/r" "a") "command.yaml") =
      .ok (.found ["r", "a", "command.yaml"] (.file c .plain)) := by
  have hinto : (manifestDisk c beside).LeadsInto (join "/r" "a") ["r", "a"] :=
    ⟨_, .stay rfl rfl (.down rfl (isNamed_sample "r" (by decide))
      (.down rfl (isNamed_sample "a" (by decide)) (.done rfl)))⟩
  have hreaches : (manifestDisk c beside).Reaches (join "/r" "a") "command.yaml" ["r", "a"] :=
    ⟨hinto, isNamed_sample "command.yaml" (by decide), by decide, by decide, by decide⟩
  exact hreaches.locate_of_found rfl rfl

/-- A link to the manifest of the other directory. -/
def manifestLink : String × FileTree :=
  ("command.yaml", .link "../a/command.yaml")

theorem locate_manifestLink :
    (manifestDisk c [manifestLink]).locate (join (join "/r" "b") "command.yaml") =
      .ok (.found ["r", "a", "command.yaml"] (.file c .plain)) := by
  have hparts : Text.splitOn '/' (join (join "/r" "b") "command.yaml").toList =
      [[], "r".toList, "b".toList, "command.yaml".toList] := rfl
  have htarget : Text.splitOn '/' "../a/command.yaml".toList ++ [] =
      [['.', '.'], "a".toList, "command.yaml".toList] := rfl
  have hlinks : Disk.maxLinks = 39 + 1 := rfl
  have hr := isNamed_sample "r" (by decide)
  have ha := isNamed_sample "a" (by decide)
  have hb := isNamed_sample "b" (by decide)
  have hm := isNamed_sample "command.yaml" (by decide)
  rw [Disk.locate, Disk.locateFrom_eq ⟨by decide, by decide⟩ (by decide), hparts, hlinks,
    Disk.follow_stay rfl rfl, Disk.follow_down rfl hr rfl rfl, Disk.follow_down rfl hb rfl rfl,
    Disk.follow_link rfl hm rfl (Or.inl rfl), htarget, Disk.follow_up rfl,
    Disk.follow_down rfl ha rfl rfl, Disk.follow_down rfl hm rfl rfl, Disk.follow_nil rfl]
  rfl

theorem write_manifest
    (c' : Content) :
    (manifestDisk c beside).write (join (join "/r" "a") "command.yaml") c' =
      .ok (manifestDisk c' beside) := by
  have hbare : Disk.isSlashed (join (join "/r" "a") "command.yaml") = false := by decide
  have hstore : FileTree.store (manifestDisk c beside) ["r", "a", "command.yaml"] c' =
      manifestDisk c' beside := by
    simp [FileTree.store, manifestDisk, FileTree.put, Dict.get?, Dict.insert, Traits.plain]
  refine Disk.write_eq_ok_iff.mpr ?_
  rw [Disk.overwrite, hbare, if_neg Bool.false_ne_true, locate_manifest]
  exact congrArg (fun d : Disk => (d, (Except.ok () : Except FileFault Unit))) hstore

/-- What a scan finds in the directory whose manifest is a link. -/
theorem exists_command_of_manifestLink
    {s : String}
    {command : Command}
    (h : usableCommand? "b" (.text s) = some command) :
    ∃ tree warnings, scan (manifestDisk (.text s) [manifestLink]) "/r" = .ok (tree, warnings) ∧
      ⟨"b", join "/r" "b", command⟩ ∈ tree.map Prod.fst := by
  have here : HasManifest (manifestDisk (.text s) [manifestLink]) (join "/r" "b") "command.yaml"
      (.text s) :=
    ⟨⟨[], ["command.yml"], rfl, nofun⟩, _, _, locate_manifestLink (.text s)⟩
  have hb : "b" ∈ subdirectories (manifestDisk (.text s) [manifestLink]) "/r"
      [("a", .directory [("command.yaml", .file (.text s) .plain)]), ("b", .directory [manifestLink])] :=
    mem_subdirectories.mpr ⟨by simp, by decide, isDirectory_beside (.text s) [manifestLink]⟩
  refine ⟨_, _, scan_eq (list_manifestDisk (.text s) [manifestLink]), ?_⟩
  rw [List.map_map]
  refine List.mem_map.mpr ⟨"b", hb, ?_⟩
  rw [Function.comp_apply, scanCommand_fst_fst, scanDirectory_fst, loadCommand,
    manifestIn?_eq_some_iff.mpr here]
  simp only [h]

theorem unlinked_manifestDisk :
    Unlinked (manifestDisk c []) "/r" ["r"] := by
  have hm : Disk.IsPlainName "command.yaml" := by decide
  have ha : Disk.IsPlainName "a" := by decide
  have hb : Disk.IsPlainName "b" := by decide
  have hdir : (FileTree.directory [("command.yaml", .file c .plain)]).Linkless :=
    .directory (List.forall_mem_singleton.mpr hm) (List.forall_mem_singleton.mpr (.file rfl))
  have hempty : (FileTree.directory []).Linkless := .directory nofun nofun
  exact ⟨_, locate_root_manifestDisk c [],
    .directory (List.forall_mem_cons.mpr ⟨ha, List.forall_mem_singleton.mpr hb⟩)
      (List.forall_mem_cons.mpr ⟨hdir, List.forall_mem_singleton.mpr hempty⟩)⟩

end Sample

/-- The manifest of a directory is spoilt; the directory beside it, without links, is described as before. -/
theorem scan_finds_unlinked :
    ∃ tree tree' warnings warnings',
      (manifestDisk (.text "description: one\n") []).list "/r" =
        .ok [("a", .directory [("command.yaml", .file (.text "description: one\n") .plain)]),
          ("b", .directory [])] ∧
      scan (manifestDisk (.text "description: one\n") []) "/r" = .ok (tree, warnings) ∧
      IsTreeOf (manifestDisk (.text "description: one\n") []) "/r" tree ∧
      scan (manifestDisk (.bytes [255]) []) "/r" = .ok (tree', warnings') ∧
      IsTreeOf (manifestDisk (.bytes [255]) []) "/r" tree' ∧
      tree.SameBut (· = join "/r" "a") tree' := by
  have hlist := list_manifestDisk (.text "description: one\n") []
  have hfile : (manifestDisk (.text "description: one\n") []).isFile
      (join (join "/r" "a") "command.yaml") = true :=
    Disk.isFile_iff.mpr ⟨_, _, _, locate_manifest _ _⟩
  have hchanged := Disk.FileChanged.written
    (write_manifest (.text "description: one\n") [] (.bytes [255]))
  obtain ⟨tree, warnings, hscan, htree, -, hisolated⟩ := scan_finds hlist
  obtain ⟨tree', warnings', hscan', htree', -, hown⟩ :=
    hisolated (join "/r" "a") "command.yaml" _ (by decide) hfile hchanged
  have hbase := htree.join_mem_paths hlist
    (mem_subdirectories.mpr ⟨by simp, by decide, isDirectory_own _ []⟩)
  exact ⟨tree, tree', warnings, warnings', hlist, hscan, htree, hscan', htree',
    hown ["r"] ["r"] (unlinked_manifestDisk _) (unlinked_manifestDisk _) hbase⟩

/-- The manifest of a directory is written, and the directory beside it, whose manifest is a link to that
one, is described otherwise. -/
theorem scan_changes_linked :
    ∃ tree tree' warnings warnings',
      (manifestDisk (.text "description: one\n") [manifestLink]).write
          (join (join "/r" "a") "command.yaml") (.text "description: two\n") =
        .ok (manifestDisk (.text "description: two\n") [manifestLink]) ∧
      scan (manifestDisk (.text "description: one\n") [manifestLink]) "/r" = .ok (tree, warnings) ∧
      scan (manifestDisk (.text "description: two\n") [manifestLink]) "/r" = .ok (tree', warnings') ∧
      ⟨"b", join "/r" "b", ⟨"b", "one", []⟩⟩ ∈ tree.map Prod.fst ∧
      ⟨"b", join "/r" "b", ⟨"b", "two", []⟩⟩ ∈ tree'.map Prod.fst := by
  have hone : usableCommand? "b" (.text "description: one\n") = some ⟨"b", "one", []⟩ := by
    decide +kernel
  have htwo : usableCommand? "b" (.text "description: two\n") = some ⟨"b", "two", []⟩ := by
    decide +kernel
  obtain ⟨tree, warnings, hscan, hmem⟩ := exists_command_of_manifestLink hone
  obtain ⟨tree', warnings', hscan', hmem'⟩ := exists_command_of_manifestLink htwo
  exact ⟨tree, tree', warnings, warnings', write_manifest _ _ _, hscan, hscan', hmem, hmem'⟩

end Runbook
