import Runbook.CommandLine.Dispatch
import Runbook.Proofs.Action.Discovery
import Runbook.Proofs.Command.Adding

/-!
# The directory of a new command

A new command is a directory with a manifest and a file of actions. It is made where nothing is, below a
directory that is there or made as well, and nothing else on the disk changes. In the directory a scan
finds what the manifest says, and a search finds the one file of actions. A command whose names are
refused, or whose directory is there, changes nothing.

Main statements: `result_newCommand_of_not_accepts`, `adds_of_writes`, `findActionFiles_of_tree` and
`Adds.gains`.
-/

namespace Runbook

open Runbook.Disk Runbook.Path

/-! ## Steps of a session -/

namespace SessionM

/-- How a step of a session ends, and what it leaves. -/
def result
    {α : Type}
    (m : SessionM α)
    (k : Desk) :
    Except SessionError α × Desk :=
  m k

section Equations

variable {α β : Type}
variable (k : Desk)

@[simp] theorem result_pure (a : α) :
    result (pure a : SessionM α) k = (.ok a, k) := by
  rfl

@[simp] theorem result_get :
    result (get : SessionM Desk) k = (.ok k, k) := by
  rfl

@[simp] theorem result_say (text : String) :
    result (say text) k = (.ok (), { k with notes := .line text :: k.notes }) := by
  rfl

theorem result_bind
    (m : SessionM α)
    (f : α → SessionM β) :
    result (m >>= f) k =
      match result m k with
      | (.ok a, k') => result (f a) k'
      | (.error e, k') => (.error e, k') := by
  have hstep : result (m >>= f) k = ExceptT.bindCont f (result m k).1 (result m k).2 := rfl
  rw [hstep]
  rcases result m k with ⟨e | a, k'⟩ <;> rfl

/-- A step that changes the disk, as far as the change can be made. -/
theorem result_onDisk
    (wrap : FileFault → SessionError)
    (change : Disk → Disk × Except FileFault Unit) :
    result (onDisk wrap change) k =
      match change k.disk with
      | (d, .ok ()) => (.ok (), { k with disk := d })
      | (d, .error e) => (.error (wrap e), { k with disk := d }) := by
  unfold onDisk
  rw [result_bind, result_get]
  dsimp only
  rcases change k.disk with ⟨d, e | ⟨⟩⟩ <;> rfl

end Equations

end SessionM

namespace Session

open SessionM

/-- The directory of a sub-command of a session. -/
def directoryOf
    (s : Session)
    (name sub : String) :
    String :=
  join (join s.commandsRoot name) sub

/-- A command can be made: its names are fit and free, and nothing is where its directory would be. -/
structure Accepts
    (s : Session)
    (d : Disk)
    (name sub : String) : Prop where
  fit : Scaffold.isFitName name = true
  fit' : Scaffold.isFitName sub = true
  free : Scaffold.isReserved name sub = false
  absent : d.exists? (s.directoryOf name sub) = false

/-- The files of a new command are written into a directory that is made for it. -/
structure Writes
    (s : Session)
    (name sub : String)
    (d d₁ d₂ d' : Disk) : Prop where
  made : d.ensureDirectory (s.directoryOf name sub) = .ok d₁
  manifest : d₁.write (join (s.directoryOf name sub) "command.yaml") (.text Scaffold.manifest) = .ok d₂
  actions : d₂.write (join (s.directoryOf name sub) "hello.yaml") (.text Scaffold.actions) = .ok d'

section Making

variable {s : Session}
variable {name sub : String}
variable {k k' : Desk}

/-- The steps behind the checks of a new command. -/
def scaffold
    (s : Session)
    (name sub : String) :
    SessionM Unit := do
  onDisk (.uncreatable (s.directoryOf name sub)) fun d => d.provideDirectory (s.directoryOf name sub)
  writeScaffold (s.directoryOf name sub) Scaffold.files
  say ""
  say s!"✔ Try it with: crank {name} {sub} --name you"

/-- Names that are refused are refused before anything is looked at. -/
theorem result_newCommand_of_refused
    (s : Session)
    (k : Desk)
    (h : ¬ (Scaffold.isFitName name = true ∧ Scaffold.isFitName sub = true ∧
      Scaffold.isReserved name sub = false)) :
    ∃ e, result (s.newCommand name sub) k = (.error e, k) := by
  unfold newCommand
  cases hname : Scaffold.isFitName name with
  | false => exact ⟨_, rfl⟩
  | true =>
      cases hsub : Scaffold.isFitName sub with
      | false => exact ⟨_, rfl⟩
      | true =>
          cases hreserved : Scaffold.isReserved name sub with
          | true => exact ⟨_, rfl⟩
          | false => exact absurd ⟨hname, hsub, hreserved⟩ h

/-- With names that are fit and free, a command is made where nothing is. -/
theorem result_newCommand_of_fit
    (s : Session)
    (k : Desk)
    (hname : Scaffold.isFitName name = true)
    (hsub : Scaffold.isFitName sub = true)
    (hfree : Scaffold.isReserved name sub = false) :
    result (s.newCommand name sub) k =
      if k.disk.exists? (s.directoryOf name sub) then
        (.error (.taken (s.directoryOf name sub)), k)
      else result (s.scaffold name sub) k := by
  have hchecked : result (s.newCommand name sub) k =
      result (get >>= fun desk =>
        if desk.disk.exists? (s.directoryOf name sub) then
          throw (.taken (s.directoryOf name sub)) >>= fun _ : Unit => s.scaffold name sub
        else s.scaffold name sub) k := by
    unfold newCommand
    rw [hname, hsub, hfree]
    rfl
  rw [hchecked, result_bind, result_get]
  dsimp only
  cases k.disk.exists? (s.directoryOf name sub) <;> rfl

/-- A command that is not accepted changes nothing. -/
theorem result_newCommand_of_not_accepts
    (h : ¬ s.Accepts k.disk name sub) :
    ∃ e, result (s.newCommand name sub) k = (.error e, k) := by
  by_cases hnames : Scaffold.isFitName name = true ∧ Scaffold.isFitName sub = true ∧
      Scaffold.isReserved name sub = false
  · obtain ⟨hname, hsub, hfree⟩ := hnames
    rw [result_newCommand_of_fit s k hname hsub hfree]
    cases hthere : k.disk.exists? (s.directoryOf name sub) with
    | true => exact ⟨_, rfl⟩
    | false => exact absurd ⟨hname, hsub, hfree, hthere⟩ h
  · exact result_newCommand_of_refused s k hnames

theorem result_newCommand_of_accepts
    (h : s.Accepts k.disk name sub) :
    result (s.newCommand name sub) k = result (s.scaffold name sub) k := by
  rw [result_newCommand_of_fit s k h.fit h.fit' h.free, h.absent, if_neg Bool.false_ne_true]

/-- A command is made when its directory is and its files are written. -/
theorem exists_result_scaffold
    {d₁ d₂ d' : Disk}
    (h : s.Writes name sub k.disk d₁ d₂ d') :
    ∃ notes, result (s.scaffold name sub) k = (.ok (), ⟨d', k.jobs, notes⟩) := by
  unfold scaffold Scaffold.files
  simp only [writeScaffold, result_bind, result_onDisk, result_say, result_pure,
    ensureDirectory_eq_ok_iff.mp h.made, write_eq_ok_iff.mp h.manifest, write_eq_ok_iff.mp h.actions]
  exact ⟨_, rfl⟩

/-- When a command has been made, its names were accepted and its files were written. -/
theorem exists_writes_of_newCommand
    (h : result (s.newCommand name sub) k = (.ok (), k')) :
    s.Accepts k.disk name sub ∧ ∃ d₁ d₂, s.Writes name sub k.disk d₁ d₂ k'.disk := by
  by_cases haccepts : s.Accepts k.disk name sub
  · refine ⟨haccepts, ?_⟩
    rw [result_newCommand_of_accepts haccepts] at h
    unfold scaffold Scaffold.files at h
    simp only [writeScaffold, result_bind, result_onDisk, result_say, result_pure] at h
    rcases hmade : k.disk.provideDirectory (s.directoryOf name sub) with ⟨d₁, e | ⟨⟩⟩
    · simp [hmade] at h
    · simp only [hmade] at h
      rcases hmanifest : d₁.overwrite (join (s.directoryOf name sub) "command.yaml")
          (.text Scaffold.manifest) with ⟨d₂, e | ⟨⟩⟩
      · simp [hmanifest] at h
      · simp only [hmanifest] at h
        rcases hactions : d₂.overwrite (join (s.directoryOf name sub) "hello.yaml")
            (.text Scaffold.actions) with ⟨d₃, e | ⟨⟩⟩
        · simp [hactions] at h
        · simp only [hactions, Prod.mk.injEq] at h
          obtain ⟨-, rfl⟩ := h
          exact ⟨d₁, d₂, ensureDirectory_eq_ok_iff.mpr hmade, write_eq_ok_iff.mpr hmanifest,
            write_eq_ok_iff.mpr hactions⟩
  · obtain ⟨e, he⟩ := result_newCommand_of_not_accepts haccepts
    rw [he] at h
    cases h

end Making

end Session

/-! ## What a new command holds -/

namespace Scaffold

/-- The directory of a new sub-command. -/
def tree : FileTree :=
  .directory
    [("command.yaml", .file (.text manifest) .plain), ("hello.yaml", .file (.text actions) .plain)]

/-- The option of a new sub-command. -/
def option : CommandOption :=
  ⟨"name", none, some "Who to greet", "string", some "world", false, none, []⟩

/-- The action file of a new sub-command. -/
def actionFile : ActionFile :=
  ⟨none, [.generate ⟨some "Hello \x7b\x7bname\x7d\x7d", none, "hello.txt", false⟩]⟩

theorem named_tree : tree.Named := by
  refine FileTree.named_directory ?_
  simp only [List.forall_mem_cons, FileTree.named_file, and_true]
  exact ⟨by decide, by decide, by simp⟩

theorem read?_manifest :
    Yaml.Node.read? (Yaml.Node.optional Command.ofNode) manifest.toList =
      some (some ⟨"", "Says hello", [option]⟩) := by
  decide +kernel

theorem recognise_actions :
    recognise actions = .actions actionFile := by
  decide +kernel

section Names

variable {name : String}

/-- A fit name has neither a point nor a slash. -/
theorem ne_of_isFitName
    (h : isFitName name = true)
    {c : Char}
    (hc : c ∈ name.toList) :
    c ≠ '.' ∧ c ≠ '/' := by
  simp only [isFitName, Bool.and_eq_true, List.all_eq_true] at h
  have hfit := h.2 c hc
  constructor <;> rintro rfl <;> exact absurd hfit (by decide)

theorem isPlainName_of_isFitName
    (h : isFitName name = true) :
    IsPlainName name := by
  have hne : name.toList ≠ [] := by
    simp only [isFitName, Bool.and_eq_true] at h
    simpa using h.1
  have hpoint : '.' ∉ name.toList := fun hmem => (ne_of_isFitName h hmem).1 rfl
  refine ⟨decide_eq_true ⟨hne, ?_⟩, ?_, fun hmem => (ne_of_isFitName h hmem).2 rfl⟩
  · rintro heq
    simp [heq] at hpoint
  · rintro heq
    simp [heq] at hpoint

/-- A fit name is not hidden. -/
theorem head?_ne_of_isFitName
    (h : isFitName name = true) :
    name.toList.head? ≠ some '.' :=
  fun hhead => (ne_of_isFitName h (List.mem_of_head? hhead)).1 rfl

theorem not_mem_manifestNames_of_isFitName
    (h : isFitName name = true) :
    name ∉ manifestNames := by
  intro hmem
  have hpoint : ∀ m ∈ manifestNames, '.' ∈ m.toList := by decide
  exact (ne_of_isFitName h (hpoint name hmem)).1 rfl

end Names

/-- The manifest of a new sub-command describes it by the name of its directory. -/
theorem usableCommand?_manifest (sub : String) :
    usableCommand? sub (.text manifest) = some ⟨sub, "Says hello", [option]⟩ := by
  have hblank : Text.trimString "" = "" := by decide
  have hgiven : Text.trimString "Says hello" ≠ "" := by decide
  have hread : Command.ofManifest? sub manifest = some ⟨sub, "Says hello", [option]⟩ := by
    rw [Command.ofManifest?, read?_manifest]
    simp [Command.fillDefaults, hblank, hgiven]
  have hvalid : Command.validate ⟨sub, "Says hello", [option]⟩ = .ok () := by
    have hnone : Command.firstFault? [] [option] = none := by decide
    rw [Command.validate, hnone]
  exact usableCommand?_eq_some_iff.mpr ⟨manifest, rfl, hread, hvalid⟩

end Scaffold

/-! ## A command below a root -/

/-- A root below which a new command is found where it is made, and nothing else is. It has a path, which
does not go back from a directory that is missing. And no other entry that a scan looks up below the root,
be it the directory of a command, that of a sub-command or a manifest, lacks the name that the directory of
the new command lacks, so that it would lead there once the directory is made. -/
structure TakesCommands
    (d : Disk)
    (root name sub : String) : Prop where
  named : root ≠ ""
  turns : TurnsInside d root
  apart : Apart d root name sub

/-- The directory of a new sub-command is put on a disk: into the directory of the command, or with that
into the root, or with both into a root that has just been made. -/
inductive Adds (d : Disk) (root name sub : String) : Disk → Prop where
  | inner
      {place : Place}
      (reaches : d.Reaches (join root name) sub place)
      (missing : d.get? (place ++ [sub]) = none) :
      Adds d root name sub (d.put (place ++ [sub]) Scaffold.tree)
  | outer
      {place : Place}
      (reaches : d.Reaches root name place)
      (missing : d.get? (place ++ [name]) = none) :
      Adds d root name sub (d.put (place ++ [name]) (.directory [(sub, Scaffold.tree)]))
  | root
      {d₁ : Disk}
      {place : Place}
      (off : ∀ q, ¬ d.LeadsInto root q)
      (reaches : d₁.Reaches root name place)
      (empty : d₁.get? place = some (.directory [])) :
      Adds d root name sub (d₁.put (place ++ [name]) (.directory [(sub, Scaffold.tree)]))

section Below

variable {d d₁ d₂ d' : Disk}
variable {root path name sub : String}
variable {parent place : Place}

/-- The files of a new command fill its directory. -/
theorem eq_put_of_writes
    (hpath : d₁.LeadsInto path (parent ++ [sub]))
    (hempty : d₁.get? (parent ++ [sub]) = some (.directory []))
    (hmanifest : d₁.write (join path "command.yaml") (.text Scaffold.manifest) = .ok d₂)
    (hactions : d₂.write (join path "hello.yaml") (.text Scaffold.actions) = .ok d') :
    Fits (join path "command.yaml") ∧ d' = d₁.put (parent ++ [sub]) Scaffold.tree := by
  have hnone (file : String) : d₁.get? (parent ++ [sub] ++ [file]) = none := by
    rw [FileTree.get?_entry hempty]
    rfl
  obtain ⟨hreaches, hd₂⟩ :=
    hpath.eq_put_of_write (by decide) (hnone "command.yaml") hmanifest
  have hpath₂ := hpath.put_missing hempty (hnone "command.yaml") (.file (.text Scaffold.manifest) .plain)
  have hnone₂ := (FileTree.get?_put_sibling hempty (by decide : "hello.yaml" ≠ "command.yaml")
    (.file (.text Scaffold.manifest) .plain)).trans (hnone "hello.yaml")
  rw [← hd₂] at hpath₂ hnone₂
  obtain ⟨-, hd'⟩ := hpath₂.eq_put_of_write (by decide) hnone₂ hactions
  refine ⟨hreaches.fits, ?_⟩
  obtain ⟨around, haround⟩ := exists_directory_dropLast hempty
  rw [List.dropLast_concat] at haround
  rw [hd', hd₂, FileTree.put_append hempty (List.cons_ne_nil _ _),
    FileTree.put_put_below haround (List.cons_ne_nil _ _)]
  rfl

/-- A command whose files are written is put on the disk. -/
theorem adds_of_writes
    {s : Session}
    (hturns : TurnsInside d s.commandsRoot)
    (haccepts : s.Accepts d name sub)
    (h : s.Writes name sub d d₁ d₂ d') :
    Adds d s.commandsRoot name sub d' ∧ IsNamed sub.toList ∧
      Fits (join (s.directoryOf name sub) "command.yaml") := by
  have hname := Scaffold.isPlainName_of_isFitName haccepts.fit
  have hsub := Scaffold.isPlainName_of_isFitName haccepts.fit'
  have hnone : d.isDirectory (s.directoryOf name sub) = false := by
    rw [Bool.eq_false_iff]
    intro hthere
    obtain ⟨place, es, hlocate⟩ := isDirectory_iff.mp hthere
    have hexists := exists?_iff.mpr ⟨place, _, hlocate⟩
    rw [haccepts.absent] at hexists
    cases hexists
  obtain ⟨d₀, place, dₘ, hopens, hmiddle, hmake⟩ :=
    exists_made_of_ensureDirectory hname hsub hturns hnone h.made
  obtain ⟨inner, hreaches, hmissing, rfl⟩ := exists_reaches_of_makeDirectory hsub hmake
  obtain ⟨around, haround⟩ := hreaches.into.stop
  obtain ⟨hmanifest, hd'⟩ := eq_put_of_writes (hreaches.leadsInto_put hmissing [])
    (FileTree.get?_put haround _) h.manifest h.actions
  rw [FileTree.put_put haround] at hd'
  refine ⟨?_, hreaches.named, hmanifest⟩
  obtain ⟨place', hreaches', hentry⟩ := hmiddle.exists_reaches hname
  obtain rfl : place' = place := hopens.into.unique hreaches'.into
  rcases hentry with ⟨hnew, rfl⟩ | ⟨rfl, hthere⟩
  · -- The directory of the command is new, so the one that is made in it is its only entry.
    obtain ⟨es, hes⟩ := hopens.into.stop
    obtain rfl : inner = place' ++ [name] := (hreaches'.leadsInto_put hnew []).unique hreaches.into
    rw [FileTree.put_put_below hes (List.cons_ne_nil _ _)] at hd'
    rcases hopens.eq_or_empty with rfl | ⟨hoff, hempty⟩
    · exact hd' ▸ .outer hreaches' hnew
    · exact hd' ▸ .root hoff hreaches' hempty
  · rcases hopens.eq_or_empty with rfl | ⟨-, hempty⟩
    · exact hd' ▸ .inner hreaches hmissing
    · rw [not_isDirectory_join_of_empty hopens.into hempty hname] at hthere
      cases hthere

section Finding

/-- The path of a new sub-command leads into its directory. -/
theorem Adds.exists_leadsInto
    (h : Adds d root name sub d')
    (named : IsNamed sub.toList)
    (plain : '/' ∉ sub.toList) :
    ∃ place, d'.LeadsInto (join (join root name) sub) place ∧ d'.get? place = some Scaffold.tree := by
  have houter {d : Disk} {place : Place} (reaches : d.Reaches root name place)
      (missing : d.get? (place ++ [name]) = none) :
      LeadsInto (d.put (place ++ [name]) (.directory [(sub, Scaffold.tree)]))
          (join (join root name) sub) (place ++ [name] ++ [sub]) ∧
        (d.put (place ++ [name]) (.directory [(sub, Scaffold.tree)])).get? (place ++ [name] ++ [sub]) =
          some Scaffold.tree := by
    obtain ⟨around, haround⟩ := reaches.into.stop
    have hentry : (d.put (place ++ [name]) (.directory [(sub, Scaffold.tree)])).get?
        (place ++ [name] ++ [sub]) = some Scaffold.tree := by
      rw [FileTree.get?_append, FileTree.get?_put haround]
      simp [FileTree.get?, Dict.get?]
    exact ⟨leadsInto_join (reaches.leadsInto_put missing _) named plain hentry, hentry⟩
  cases h with
  | inner reaches missing =>
      obtain ⟨around, haround⟩ := reaches.into.stop
      exact ⟨_, reaches.leadsInto_put missing _, FileTree.get?_put haround _⟩
  | outer reaches missing => exact ⟨_, houter reaches missing⟩
  | root off reaches empty =>
      refine ⟨_, houter reaches ?_⟩
      rw [FileTree.get?_entry empty]
      rfl

/-- A new sub-command is described by its manifest. -/
theorem scanDirectory_of_tree
    (hinto : d'.LeadsInto (join path sub) place)
    (htree : d'.get? place = some Scaffold.tree)
    (hfits : Fits (join (join path sub) "command.yaml")) :
    (scanDirectory d' path sub).1 =
      ⟨sub, join path sub, ⟨sub, "Says hello", [Scaffold.option]⟩⟩ := by
  have hentry : d'.get? (place ++ ["command.yaml"]) = some (.file (.text Scaffold.manifest) .plain) := by
    rw [FileTree.get?_append, htree]
    rfl
  have hlocate := (hinto.locate_join_iff (by decide) fun target => by
    rw [hentry]
    simp).mpr
    ⟨⟨by decide, by decide, by decide, by decide⟩, hfits, rfl, hentry⟩
  have hmanifest : HasManifest d' (join path sub) "command.yaml" (.text Scaffold.manifest) :=
    ⟨⟨[], ["command.yml"], rfl, by simp⟩, _, _, hlocate⟩
  rw [scanDirectory_fst, loadCommand, manifestIn?_eq_some_iff.mpr hmanifest]
  simp only [Scaffold.usableCommand?_manifest]

/-- A file right below a path may hold actions unless its name is that of a manifest or a backup. -/
theorem isCandidate_join
    (h : IsEntryName name)
    (path : String)
    (c : Content) :
    FoundFile.isCandidate ⟨join path name, 1, c⟩ =
      (!manifestNames.contains name && !(backupSuffixes.any fun suffix => name.endsWith suffix)) := by
  simp only [FoundFile.isCandidate, fileName?_join h, Option.getD_some, decide_true, Bool.true_and]

/-- Of the files of a new sub-command one has actions. -/
theorem filterMap_inTree_tree (path : String) :
    (FoundFile.inTree path 0 Scaffold.tree.ordered).filterMap FoundFile.action? =
        [(join path "hello.yaml", Scaffold.actionFile)] ∧
      (FoundFile.inTree path 0 Scaffold.tree.ordered).filterMap FoundFile.malformed? = [] := by
  have hordered : Scaffold.tree.ordered = Scaffold.tree := by
    rfl
  have hfiles : FoundFile.inTree path 0 Scaffold.tree =
      [⟨join path "command.yaml", 1, .text Scaffold.manifest⟩,
        ⟨join path "hello.yaml", 1, .text Scaffold.actions⟩] := by
    simp [Scaffold.tree, FoundFile.inTree, FoundFile.inEntries]
  have hmanifest : FoundFile.isCandidate ⟨join path "command.yaml", 1, .text Scaffold.manifest⟩ =
      false := by
    rw [isCandidate_join (by decide)]
    decide
  have hactions : FoundFile.isCandidate ⟨join path "hello.yaml", 1, .text Scaffold.actions⟩ =
      true := by
    rw [isCandidate_join (by decide)]
    decide +kernel
  have hread : FoundFile.recognised ⟨join path "hello.yaml", 1, .text Scaffold.actions⟩ =
      .actions Scaffold.actionFile :=
    Scaffold.recognise_actions
  rw [hordered, hfiles]
  simp [FoundFile.action?, FoundFile.malformed?, hmanifest, hactions, hread]

/-- The directory of a new sub-command has one action file. -/
theorem findActionFiles_of_tree
    (hinto : d'.LeadsInto path place)
    (htree : d'.get? place = some Scaffold.tree)
    (hfits : Fits path)
    (hne : path.toList ≠ []) :
    findActionFiles d' path = .ok ([(join path "hello.yaml", Scaffold.actionFile)], []) := by
  obtain ⟨es, hlocate⟩ := hinto.exists_locate hfits hne
  have htree : d'.tree? path = .ok Scaffold.tree := by
    rw [tree?, hlocate, ← Option.some.inj ((get?_of_locate hlocate).symm.trans htree)]
  obtain ⟨hactions, hmalformed⟩ := filterMap_inTree_tree path
  rw [findActionFiles_eq htree rfl Scaffold.named_tree, hactions, hmalformed]

/-- A command that is put on the disk is gained, and found as long as its names fit. -/
theorem Adds.gains
    (h : Adds d root name sub d')
    (hroot : TakesCommands d root name sub)
    (hname : Scaffold.isFitName name = true)
    (hsub : Scaffold.isFitName sub = true)
    (named : IsNamed sub.toList)
    (hfits : Fits (join (join root name) sub)) :
    Gains d d' root name sub := by
  have plain := Scaffold.isPlainName_of_isFitName hname
  have plain' := Scaffold.isPlainName_of_isFitName hsub
  have visible := Scaffold.head?_ne_of_isFitName hname
  have visible' := Scaffold.head?_ne_of_isFitName hsub
  have hne : root.toList ≠ [] := by simpa using hroot.named
  obtain ⟨place', hinto', -⟩ := h.exists_leadsInto named plain'.plain
  have hfound' : Finds d' (join root name) sub :=
    finds_of_leadsInto hinto' hfits plain' visible' (join_ne_nil plain root)
  have hfound : Finds d' root name := by
    obtain ⟨es, hes, -⟩ := hfound'
    obtain ⟨q, hlocate⟩ := list_eq_ok_iff.mp hes
    exact finds_of_isDirectory plain visible hne (isDirectory_iff.mpr ⟨q, es, hlocate⟩)
  have hmanifest := Scaffold.not_mem_manifestNames_of_isFitName hsub
  cases h with
  | inner reaches missing =>
      obtain ⟨es, hes⟩ := reaches.into.stop
      have hthere := reaches.isDirectory_base (join_ne_nil plain root)
      obtain ⟨q, es', hlocate⟩ := isDirectory_iff.mp hthere
      obtain ⟨place, hreaches⟩ := exists_reaches_of_locateFrom plain hlocate
      refine gains_put (room_of_missing reaches.named hes (by rwa [String.ofList_toList])) missing plain'
        rfl (hreaches.isDirectory_base hne) hroot.apart (reaches.lacksAt missing) ?_ hfound hfound'
        fun hnone => absurd (finds_of_isDirectory plain visible hne hthere) hnone
      intro hfinds
      obtain ⟨t, ht⟩ := hfinds.exists_get? reaches.into
      rw [missing] at ht
      cases ht
  | outer reaches missing =>
      obtain ⟨es, hes⟩ := reaches.into.stop
      refine gains_put (room_of_missing reaches.named hes (by rwa [String.ofList_toList])) missing plain
        rfl (reaches.isDirectory_base hne) hroot.apart
        (lacksAt_join_join (reaches.lacksAt missing) reaches.named reaches.plain plain'.plain)
        (not_finds_of_missing reaches missing) hfound hfound'
        fun _ => single_of_put reaches missing hmanifest
  | @root d₁ place off reaches empty =>
      refine gains_of_empty reaches empty hmanifest (fun x hx => ?_) hfound hfound'
      obtain ⟨es, hes, -⟩ := hx
      obtain ⟨q, hlocate⟩ := list_eq_ok_iff.mp hes
      exact off q (leadsInto_of_locate hlocate)

end Finding

end Below

/-! ## Commands that can be made -/

namespace Session

open SessionM

section Succeeding

variable {s : Session}
variable {name sub : String}
variable {k : Desk}
variable {d d₁ : Disk}
variable {parent : Place}

/-- The files of a new command can be written once its directory is there, if their paths are not too
long. -/
theorem exists_writes_of_made
    (made : d.ensureDirectory (s.directoryOf name sub) = .ok d₁)
    (hpath : d₁.LeadsInto (s.directoryOf name sub) (parent ++ [sub]))
    (hempty : d₁.get? (parent ++ [sub]) = some (.directory []))
    (hmanifest : Fits (join (s.directoryOf name sub) "command.yaml"))
    (hactions : Fits (join (s.directoryOf name sub) "hello.yaml")) :
    ∃ d₂, s.Writes name sub d d₁ d₂ (d₁.put (parent ++ [sub]) Scaffold.tree) := by
  have hnone (file : String) : d₁.get? (parent ++ [sub] ++ [file]) = none := by
    rw [FileTree.get?_entry hempty]
    rfl
  have hreaches : d₁.Reaches (s.directoryOf name sub) "command.yaml" (parent ++ [sub]) :=
    ⟨hpath, ⟨by decide, by decide, by decide, by decide⟩, by decide, hmanifest⟩
  have hwrite := hreaches.write_eq (.inl (hnone "command.yaml")) (.text Scaffold.manifest)
  have hreaches₂ : Reaches (d₁.put (parent ++ [sub] ++ ["command.yaml"])
      (.file (.text Scaffold.manifest) .plain)) (s.directoryOf name sub) "hello.yaml"
        (parent ++ [sub]) :=
    ⟨hpath.put_missing hempty (hnone "command.yaml") _, ⟨by decide, by decide, by decide, by decide⟩,
      by decide, hactions⟩
  have hnone₂ := (FileTree.get?_put_sibling hempty (by decide : "hello.yaml" ≠ "command.yaml")
    (.file (.text Scaffold.manifest) .plain)).trans (hnone "hello.yaml")
  have hwrite₂ := hreaches₂.write_eq (.inl hnone₂) (.text Scaffold.actions)
  obtain ⟨-, hboth⟩ := eq_put_of_writes hpath hempty hwrite hwrite₂
  exact ⟨_, made, hwrite, hboth ▸ hwrite₂⟩

/-- A command that is accepted is made, once its directory can be. -/
theorem exists_newCommand_of_made
    (haccepts : s.Accepts k.disk name sub)
    (made : k.disk.ensureDirectory (s.directoryOf name sub) = .ok d₁)
    (hpath : d₁.LeadsInto (s.directoryOf name sub) (parent ++ [sub]))
    (hempty : d₁.get? (parent ++ [sub]) = some (.directory []))
    (hmanifest : Fits (join (s.directoryOf name sub) "command.yaml"))
    (hactions : Fits (join (s.directoryOf name sub) "hello.yaml")) :
    ∃ notes, result (s.newCommand name sub) k =
      (.ok (), ⟨d₁.put (parent ++ [sub]) Scaffold.tree, k.jobs, notes⟩) := by
  obtain ⟨d₂, hwrites⟩ := exists_writes_of_made made hpath hempty hmanifest hactions
  rw [result_newCommand_of_accepts haccepts]
  exact exists_result_scaffold hwrites

/-- A command is made in the directory of a command that is there, where it has no entry of the name. -/
theorem exists_newCommand_of_reaches
    (hname : Scaffold.isFitName name = true)
    (hsub : Scaffold.isFitName sub = true)
    (hfree : Scaffold.isReserved name sub = false)
    (h : k.disk.Reaches (join s.commandsRoot name) sub parent)
    (missing : k.disk.get? (parent ++ [sub]) = none)
    (hmanifest : Fits (join (s.directoryOf name sub) "command.yaml"))
    (hactions : Fits (join (s.directoryOf name sub) "hello.yaml")) :
    ∃ notes, result (s.newCommand name sub) k =
      (.ok (), ⟨k.disk.put (parent ++ [sub]) Scaffold.tree, k.jobs, notes⟩) := by
  have absent : k.disk.exists? (s.directoryOf name sub) = false := by
    rw [Bool.eq_false_iff]
    intro hexists
    obtain ⟨place, t, hfound⟩ := exists?_iff.mp hexists
    have hfree := h.locateFrom_of_missing missing true
    rw [← locate, ← directoryOf, hfound] at hfree
    cases hfree
  have hne : (s.directoryOf name sub).toList ≠ [] :=
    join_ne_nil (Scaffold.isPlainName_of_isFitName hsub) _
  have made : k.disk.ensureDirectory (s.directoryOf name sub) =
      .ok (k.disk.put (parent ++ [sub]) (.directory [])) := by
    refine ensureDirectory_eq_ok_iff.mpr ?_
    rw [provideDirectory, if_neg (by simpa using hne)]
    exact makeDirectories_of_provides hne (.made (h.makeDirectory_eq missing)) _
  obtain ⟨around, haround⟩ := h.into.stop
  have hresult := exists_newCommand_of_made ⟨hname, hsub, hfree, absent⟩ made
    (h.leadsInto_put missing []) (FileTree.get?_put haround _) hmanifest hactions
  rwa [FileTree.put_put haround] at hresult

end Succeeding

end Session

end Runbook
