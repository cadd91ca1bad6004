import Runbook.Proofs.Files.Writing
import Runbook.Role.Store

/-!
# The role store as a map of maps

Each role has its own file in the directory of the store, and an update writes the whole file again. So
after any calls a role has what the last update of each of its keys wrote, and updates of other roles do
not matter.

Main statement: `load_after`.
-/

namespace Runbook

/-! ## The order of the variables -/

namespace Yaml

/-- What a reading gives has a property. -/
def Reading.Gives
    {α : Type}
    (m : Reading α)
    (p : α → Prop) :
    Prop :=
  ∀ anchored left a left', m anchored left = some (a, left') → p a

section Gives

variable {α β : Type}
variable {p : α → Prop}
variable {q : β → Prop}

theorem Reading.Gives.pure
    {a : α}
    (h : p a) :
    Gives (Pure.pure a : Reading α) p := by
  intro anchored left b left' hb
  cases hb
  exact h

theorem Reading.Gives.bind
    {m : Reading α}
    {f : α → Reading β}
    (hm : Gives m p)
    (hf : ∀ a, p a → Gives (f a) q) :
    Gives (m >>= f) q := by
  intro anchored left b left' hb
  obtain ⟨⟨a, rest⟩, ha, hrest⟩ := Option.bind_eq_some_iff.mp hb
  exact hf a (hm _ _ _ _ ha) anchored rest b left' hrest

theorem Reading.Gives.any (m : Reading α) :
    Gives m fun _ => True :=
  fun _ _ _ _ _ => trivial

end Gives

theorem gives_readDict (n : Node) :
    (readDict n).Gives Dict.Sorted :=
  .bind (.any _) fun _ _ => .bind (.any _) fun _ _ => .pure (Dict.sorted_ofList _)

/-- The keys of a dictionary that is read stand in order. -/
theorem sorted_of_parseDict?
    {text : String}
    {d : Dict String}
    (h : parseDict? text = some d) :
    Dict.Sorted d := by
  obtain ⟨found, hread, rfl⟩ := Option.map_eq_some_iff.mp h
  unfold Node.read? at hread
  split at hread
  · cases hread
  · split at hread
    · cases hread
    · rename_i t _
      obtain ⟨⟨found', left⟩, hrun, rfl⟩ := Option.map_eq_some_iff.mp hread
      have hgives : (Node.optional readDict ⟨t, Node.maxDepth⟩).Gives
          fun found => Dict.Sorted (found.getD []) := by
        refine .bind (.any _) fun tree _ => .bind (.any _) fun absent _ => ?_
        split
        · exact .pure List.Pairwise.nil
        · rw [map_eq_pure_bind]
          exact .bind (gives_readDict _) fun d hd => .pure hd
      exact hgives _ _ _ _ hrun

end Yaml

namespace RoleStore

open Disk
open Runbook.Path

theorem sorted_of_load
    {s : RoleStore}
    {d : Disk}
    {role : String}
    {vars : Dict String}
    (h : s.load d role = .ok vars) :
    Dict.Sorted vars := by
  unfold load at h
  cases hfile : s.file role with
  | error e =>
      rw [hfile] at h
      cases h
  | ok path =>
      rw [hfile, Except.bind, readFile] at h
      split at h
      · split at h
        · cases h
        · split at h
          · rename_i hparse
            cases h
            exact Yaml.sorted_of_parseDict? hparse
          · cases h
      · cases h
        exact List.Pairwise.nil

/-! ## The files of roles -/

/-- A role has a fitting name. The default role has the empty one. -/
def IsRole (role : String) : Prop :=
  ∀ c ∈ role.toList, isRoleChar c = true

/-- The name of the file of a role. -/
def fileName (role : String) : String :=
  if role.isEmpty then "vars.yaml" else "vars-" ++ role ++ ".yaml"

section Names

variable {s : RoleStore}
variable {role role' : String}

theorem isRole_iff :
    IsRole role ↔ role.toList.all isRoleChar = true :=
  List.all_eq_true.symm

theorem file_eq
    (h : IsRole role) :
    s.file role = .ok (join s.directory (fileName role)) := by
  unfold file fileName
  by_cases hempty : role.isEmpty = true
  · simp [hempty]
  · have hall : role.toList.all isRoleChar = true := isRole_iff.mp h
    simp [hempty, hall]

theorem file_of_not_isRole
    (h : ¬ IsRole role) :
    s.file role = .error (.invalidRole role) := by
  have hempty : role.isEmpty = false := by
    by_contra hempty
    obtain rfl : role = "" := by simpa using hempty
    exact h fun c hc => by simp at hc
  have hall : role.toList.all isRoleChar = false := by
    by_contra hall
    exact h (isRole_iff.mpr (by simpa using hall))
  simp [file, hempty, hall]

theorem toList_fileName (role : String) :
    (role = "" ∧ (fileName role).toList = "vars.yaml".toList) ∨
      (role ≠ "" ∧ (fileName role).toList = "vars-".toList ++ role.toList ++ ".yaml".toList) := by
  unfold fileName
  by_cases hempty : role = ""
  · exact Or.inl ⟨hempty, by simp [hempty]⟩
  · exact Or.inr ⟨hempty, by simp [hempty]⟩

/-- Different roles have different files. -/
theorem fileName_inj
    (h : fileName role = fileName role') :
    role = role' := by
  rcases toList_fileName role with ⟨hrole, hname⟩ | ⟨-, hname⟩ <;>
    rcases toList_fileName role' with ⟨hrole', hname'⟩ | ⟨-, hname'⟩
  · rw [hrole, hrole']
  · rw [h, hname'] at hname
    simp at hname
  · rw [h, hname'] at hname
    simp at hname
  · rw [h, hname', List.append_left_inj, List.append_right_inj] at hname
    exact (String.toList_inj.mp hname).symm

theorem isPlainName_fileName
    (h : IsRole role) :
    IsPlainName (fileName role) := by
  rcases toList_fileName role with ⟨-, hname⟩ | ⟨-, hname⟩
  · exact ⟨by rw [hname]; decide, by rw [hname]; decide, by rw [hname]; decide⟩
  · refine ⟨by rw [hname]; simp [isActive], by rw [hname]; simp, fun hmem => ?_⟩
    rw [hname, List.mem_append, List.mem_append] at hmem
    rcases hmem with (hmem | hmem) | hmem
    · revert hmem
      decide
    · exact absurd (h '/' hmem) (by decide)
    · revert hmem
      decide

end Names

/-! ## Calls -/

/-- A call on the store. -/
inductive Call where
  | update (role key value : String)
  | load (role : String)
  deriving DecidableEq, Repr

/-- The disk after a call. -/
def Call.run
    (s : RoleStore)
    (d : Disk) :
    Call → Disk
  | .update role key value => (s.update d role key value).1
  | .load _ => d

/-- The disk after calls, one after another. -/
def after
    (s : RoleStore)
    (d : Disk)
    (calls : List Call) :
    Disk :=
  calls.foldl (Call.run s) d

/-- What a call writes under a key of a role. -/
def Call.written?
    (role key : String) :
    Call → Option String
  | .update r k value => if r = role ∧ k = key then some value else none
  | .load _ => none

/-- The last value that calls write under a key of a role. -/
def lastWritten
    (calls : List Call)
    (role key : String) :
    Option String :=
  calls.reverse.findSome? (Call.written? role key)

/-- What a call writes for a role. -/
def Call.entry?
    (role : String) :
    Call → Option (String × String)
  | .update r key value => if r = role then some (key, value) else none
  | .load _ => none

/-- What calls write for a role. -/
def writtenTo
    (role : String)
    (calls : List Call) :
    List (String × String) :=
  calls.filterMap (Call.entry? role)

/-- The variables that calls leave for a role. -/
def held
    (role : String)
    (calls : List Call) :
    Dict String :=
  Dict.ofList (writtenTo role calls)

section Calls

variable {role role' key value : String}
variable {calls : List Call}

theorem after_concat
    (s : RoleStore)
    (d : Disk)
    (calls : List Call)
    (c : Call) :
    s.after d (calls ++ [c]) = c.run s (s.after d calls) := by
  simp [after]

theorem writtenTo_update_self :
    writtenTo role (calls ++ [.update role key value]) = writtenTo role calls ++ [(key, value)] := by
  simp [writtenTo, Call.entry?]

theorem writtenTo_update_of_ne
    (h : role ≠ role') :
    writtenTo role' (calls ++ [.update role key value]) = writtenTo role' calls := by
  simp [writtenTo, Call.entry?, h]

theorem writtenTo_load :
    writtenTo role' (calls ++ [.load role]) = writtenTo role' calls := by
  simp [writtenTo, Call.entry?]

theorem held_update_self :
    held role (calls ++ [.update role key value]) = Dict.insert (held role calls) key value := by
  rw [held, writtenTo_update_self, Dict.ofList_concat, held]

theorem held_update_of_ne
    (h : role ≠ role') :
    held role' (calls ++ [.update role key value]) = held role' calls :=
  congrArg Dict.ofList (writtenTo_update_of_ne h)

/-- The variables of a role are the last values written under its keys. -/
theorem get?_held (calls : List Call) (role key : String) :
    Dict.get? (held role calls) key = lastWritten calls role key := by
  induction calls using List.reverseRecOn with
  | nil => rfl
  | append_singleton calls c ih =>
      rw [lastWritten, List.reverse_append, List.reverse_singleton, List.singleton_append,
        List.findSome?_cons]
      cases c with
      | load r =>
          rw [held, writtenTo_load]
          exact ih
      | update r k v =>
          by_cases hrole : r = role
          · subst hrole
            rw [held_update_self]
            by_cases hkey : k = key
            · subst hkey
              simp [Dict.get?_insert_self, Call.written?]
            · rw [Dict.get?_insert_of_ne _ _ (Ne.symm hkey), ih]
              simp [Call.written?, hkey, lastWritten]
          · rw [held_update_of_ne hrole, ih]
            simp [Call.written?, hrole, lastWritten]

theorem mem_held_iff :
    (key, value) ∈ held role calls ↔ lastWritten calls role key = some value := by
  have hnodup : ((held role calls).map Prod.fst).Nodup := (Dict.sorted_ofList _).nodup
  rw [← get?_held, Dict.get?_eq_some_iff hnodup]

end Calls

/-! ## An update on any disk -/

/-- Variables that are read back as they were written. -/
def RoundTrips (vars : Dict String) : Prop :=
  Yaml.parseDict? (Yaml.printDict vars) = some vars

/-- The file of a role is a device. -/
def IsDevice
    (s : RoleStore)
    (d : Disk)
    (role : String) : Prop :=
  ∃ path place kind, s.file role = .ok path ∧ d.locate path = .ok (.found place (.device kind))

section Update

variable {s : RoleStore}
variable {d d' : Disk}
variable {role key value : String}

/-- An update that goes well has read the variables of the role, made sure of the directory and written
the variables with the new value. -/
theorem exists_of_update
    (h : s.update d role key value = (d', .ok ())) :
    ∃ path vars made, s.file role = .ok path ∧ s.load d role = .ok vars ∧
      d.ensureDirectory s.directory = .ok made ∧
      made.write path (.text (Yaml.printDict (Dict.insert vars key value))) = .ok d' := by
  unfold update at h
  split at h
  · cases h
  · rename_i path hpath
    split at h
    · cases h
    · rename_i vars hvars
      have hload : s.load d role = .ok vars := by
        rw [load, hpath]
        exact hvars
      unfold writeFile at h
      split at h
      · cases h
      · rename_i made hmade
        split at h
        · cases h
        · rename_i written hwritten
          cases h
          exact ⟨path, vars, made, hpath, hload, ensureDirectory_eq_ok_iff.mpr hmade,
            write_eq_ok_iff.mpr hwritten⟩

/-- A device stays the file of its role, whatever directory is made. -/
theorem IsDevice.made
    (hdevice : s.IsDevice d role) :
    s.IsDevice (d.provideDirectory s.directory).1 role := by
  obtain ⟨path, place, kind, hpath, hlocate⟩ := hdevice
  obtain ⟨t, ht, rfl | ⟨hdirectory, -⟩⟩ :=
    extends_provideDirectory d s.directory path place _ hlocate
  · exact ⟨path, place, kind, hpath, ht⟩
  · cases hdirectory

/-- So it does when something is written to it. -/
theorem IsDevice.update
    (hdevice : s.IsDevice d role)
    (h : s.update d role key value = (d', .ok ())) :
    s.IsDevice d' role := by
  obtain ⟨path, vars, made, hpath, -, hmade, hwritten⟩ := exists_of_update h
  obtain ⟨path', place, kind, hpath', hlocate⟩ := hdevice.made
  rw [ensureDirectory_eq_ok_iff.mp hmade] at hlocate
  obtain rfl : path = path' := Except.ok.inj (hpath.symm.trans hpath')
  exact ⟨path, place, kind, hpath, write_device hlocate hwritten ▸ hlocate⟩

/-- Unless its file is a device, a role has the new value after an update, and keeps all others. -/
theorem load_update
    {vars : Dict String}
    (h : s.update d role key value = (d', .ok ()))
    (noDevice : ¬ s.IsDevice d' role)
    (hload : s.load d role = .ok vars)
    (hround : RoundTrips (Dict.insert vars key value)) :
    s.load d' role = .ok (Dict.insert vars key value) := by
  obtain ⟨path, vars', made, hpath, hload', -, hwritten⟩ := exists_of_update h
  obtain rfl : vars = vars' := Except.ok.inj (hload.symm.trans hload')
  have hplain : ∀ place kind, made.locate path ≠ .ok (.found place (.device kind)) := by
    intro place kind hdevice
    exact noDevice ⟨path, place, kind, hpath, write_device hdevice hwritten ▸ hdevice⟩
  obtain ⟨place, traits, hback⟩ := exists_locate_of_write hwritten hplain
  unfold RoundTrips at hround
  rw [load, hpath, Except.bind, readFile, exists?_iff.mpr ⟨_, _, hback⟩, if_pos rfl,
    readText_of_locate hback]
  simp only [hround]

end Update

/-! ## What the disk has -/

/-- The file in which a role has what calls leave for it. -/
def stored
    (role : String)
    (calls : List Call) :
    FileTree :=
  .file (.text (Yaml.printDict (held role calls))) .plain

/-- The directory of the store is in a place, and each role that calls have written to has the file
there which they leave. No other role has one. -/
structure Mirrors
    (s : RoleStore)
    (d : Disk)
    (parent : Place)
    (calls : List Call) : Prop where
  into : d.LeadsInto s.directory parent
  taken : ∀ role, IsRole role → writtenTo role calls ≠ [] →
    d.Reaches s.directory (fileName role) parent ∧
      d.get? (parent ++ [fileName role]) = some (stored role calls) ∧
      RoundTrips (held role calls)
  free : ∀ role, IsRole role → writtenTo role calls = [] →
    d.Reaches s.directory (fileName role) parent → d.get? (parent ++ [fileName role]) = none

/-- The store has no files yet, nor does it once its directory is there. -/
structure Vacant
    (s : RoleStore)
    (d : Disk) : Prop where
  absent : ∀ role path, s.file role = .ok path → d.exists? path = false
  free : ∀ made, d.ensureDirectory s.directory = .ok made →
    ∀ role path, s.file role = .ok path → ∀ place t, made.locateEntry path ≠ .ok (.found place t)

section Mirrors

variable {s : RoleStore}
variable {d made : Disk}
variable {parent : Place}
variable {calls : List Call}
variable {role key value : String}

/-- Only what is written for roles matters. -/
theorem Mirrors.congr
    {calls' : List Call}
    (h : Mirrors s d parent calls)
    (hsame : ∀ role, IsRole role → writtenTo role calls' = writtenTo role calls) :
    Mirrors s d parent calls' where
  into := h.into
  taken := by
    intro role hrole hne
    have hheld : held role calls' = held role calls := congrArg Dict.ofList (hsame role hrole)
    rw [stored, hheld]
    exact h.taken role hrole (hsame role hrole ▸ hne)
  free := fun role hrole hnil => h.free role hrole (hsame role hrole ▸ hnil)

/-- In either case a write finds an entry that it can make a new file. -/
theorem Mirrors.isReplaceable
    (h : Mirrors s d parent calls)
    (hrole : IsRole role)
    (reaches : d.Reaches s.directory (fileName role) parent) :
    IsReplaceable (d.get? (parent ++ [fileName role])) := by
  by_cases hnil : writtenTo role calls = []
  · exact Or.inl (h.free role hrole hnil reaches)
  · exact Or.inr ⟨_, (h.taken role hrole hnil).2.1⟩

/-- The store reads what the calls leave. -/
theorem Mirrors.load_eq
    (h : Mirrors s d parent calls)
    (hrole : IsRole role) :
    s.load d role = .ok (held role calls) := by
  have hload : s.load d role = readFile d (join s.directory (fileName role)) := by
    rw [load, file_eq hrole]
    rfl
  rw [hload, readFile]
  by_cases hnil : writtenTo role calls = []
  · have habsent : d.exists? (join s.directory (fileName role)) = false := by
      by_contra hexists
      obtain ⟨place, t, hlocate⟩ := exists?_iff.mp (by simpa using hexists)
      obtain ⟨q, reaches⟩ := exists_reaches_of_locateFrom (isPlainName_fileName hrole) hlocate
      obtain rfl := h.into.unique reaches.into
      rw [locate, reaches.locateFrom_of_missing (h.free role hrole hnil reaches)] at hlocate
      cases hlocate
    rw [habsent, held, hnil]
    rfl
  · obtain ⟨reaches, hentry, hround⟩ := h.taken role hrole hnil
    have hlocate := reaches.locate_of_found hentry rfl
    unfold RoundTrips at hround
    rw [exists?_iff.mpr ⟨_, _, hlocate⟩, if_pos rfl, readText_of_locate hlocate]
    simp only [hround]

/-- The file of a role that has been written to is no device. -/
theorem Mirrors.not_isDevice
    (h : Mirrors s d parent calls)
    (hrole : IsRole role)
    (hne : writtenTo role calls ≠ []) :
    ¬ s.IsDevice d role := by
  rintro ⟨path, place, kind, hpath, hdevice⟩
  obtain ⟨reaches, hentry, -⟩ := h.taken role hrole hne
  obtain rfl : join s.directory (fileName role) = path :=
    Except.ok.inj ((file_eq hrole).symm.trans hpath)
  rw [reaches.locate_of_found hentry rfl] at hdevice
  cases hdevice

/-- An update writes the file of its role, and leaves the files of all others. -/
theorem Mirrors.update
    (h : Mirrors s made parent calls)
    (hmade : d.ensureDirectory s.directory = .ok made)
    (hload : s.load d role = .ok (held role calls))
    (hrole : IsRole role)
    (reaches : made.Reaches s.directory (fileName role) parent)
    (hround : RoundTrips (held role (calls ++ [.update role key value]))) :
    let next : Disk := made.put (parent ++ [fileName role])
      (stored role (calls ++ [.update role key value]))
    s.update d role key value = (next, .ok ()) ∧
      Mirrors s next parent (calls ++ [.update role key value]) := by
  intro next
  have hentry := h.isReplaceable hrole reaches
  obtain ⟨es, hes⟩ := h.into.stop
  have hinto : next.LeadsInto s.directory parent := h.into.put hentry _
  constructor
  · have hread : readFile d (join s.directory (fileName role)) = .ok (held role calls) := by
      rw [load, file_eq hrole] at hload
      exact hload
    rw [RoleStore.update, file_eq hrole]
    simp only [hread, writeFile, ensureDirectory_eq_ok_iff.mp hmade, ← held_update_self,
      reaches.overwrite_eq hentry]
    rfl
  · have hfiles {role' : String} (hne : role ≠ role') : fileName role' ≠ fileName role :=
      fun heq => hne (fileName_inj heq).symm
    refine ⟨hinto, fun role' hrole' hne => ?_, fun role' hrole' hnil hreaches => ?_⟩
    · by_cases heq : role = role'
      · subst heq
        exact ⟨{ reaches with into := hinto }, FileTree.get?_put hes _, hround⟩
      · rw [writtenTo_update_of_ne heq] at hne
        obtain ⟨hreaches, hfile, hparse⟩ := h.taken role' hrole' hne
        rw [stored, held_update_of_ne heq, ← stored,
          FileTree.get?_put_sibling hes (hfiles heq)]
        exact ⟨{ hreaches with into := hinto }, hfile, hparse⟩
    · by_cases heq : role = role'
      · subst heq
        simp [writtenTo_update_self] at hnil
      · rw [writtenTo_update_of_ne heq] at hnil
        rw [FileTree.get?_put_sibling hes (hfiles heq)]
        exact h.free role' hrole' hnil { hreaches with into := h.into }

/-- A store without files has none once its directory is there. -/
theorem Vacant.mirrors
    (vacant : Vacant s d)
    (hmade : d.ensureDirectory s.directory = .ok made)
    (hinto : made.LeadsInto s.directory parent)
    (hnone : ∀ role, IsRole role → writtenTo role calls = []) :
    Mirrors s made parent calls where
  into := hinto
  taken := fun role hrole hne => absurd (hnone role hrole) hne
  free := fun _ hrole _ reaches =>
    reaches.missing_of_locateEntry (vacant.free made hmade _ _ (file_eq hrole))

theorem Vacant.load_eq
    (vacant : Vacant s d)
    (hrole : IsRole role) :
    s.load d role = .ok [] := by
  rw [load, file_eq hrole, Except.bind, readFile, vacant.absent role _ (file_eq hrole)]
  rfl

end Mirrors

/-! ## All calls -/

/-- What calls rely on: what they write as a map is read back, and their writes succeed. -/
structure Reliable
    (s : RoleStore)
    (d : Disk)
    (calls : List Call) : Prop where
  round : ∀ before role key value, before ++ [.update role key value] <+: calls → IsRole role →
    RoundTrips (held role (before ++ [.update role key value]))
  writes : ∀ before role key value, before ++ [.update role key value] <+: calls → IsRole role →
    ∀ path vars, s.file role = .ok path → (s.writeFile (s.after d before) path vars).2 = .ok ()

/-- Calls have not written to any role and have left the disk, or the disk has what they leave. -/
def Follows
    (s : RoleStore)
    (d : Disk)
    (parent : Place)
    (calls : List Call) : Prop :=
  (s.after d calls = d ∧ ∀ role, IsRole role → writtenTo role calls = []) ∨
    Mirrors s (s.after d calls) parent calls

section Follows

variable {s : RoleStore}
variable {d : Disk}
variable {parent : Place}
variable {calls before : List Call}
variable {role key value : String}

/-- A write that succeeds makes sure of the directory, and its path leads to an entry there. -/
theorem exists_made_of_writeFile
    {vars : Dict String}
    (hrole : IsRole role)
    (h : (s.writeFile d (join s.directory (fileName role)) vars).2 = .ok ()) :
    ∃ made q, d.ensureDirectory s.directory = .ok made ∧
      made.Reaches s.directory (fileName role) q := by
  unfold writeFile at h
  split at h
  · cases h
  · rename_i made hmade
    split at h
    · cases h
    · rename_i written hwritten
      obtain ⟨q, reaches⟩ :=
        exists_reaches_of_write (isPlainName_fileName hrole) (write_eq_ok_iff.mpr hwritten)
      exact ⟨made, q, ensureDirectory_eq_ok_iff.mpr hmade, reaches⟩

/-- Before an update the directory of the store is made sure of, and it has what the calls before
leave. -/
theorem Follows.exists_made
    (h : Follows s d parent calls)
    (vacant : Vacant s d)
    (hparent : ∀ made q, d.ensureDirectory s.directory = .ok made →
      made.LeadsInto s.directory q → q = parent)
    (hrole : IsRole role)
    (hwrites : ∀ vars,
      (s.writeFile (s.after d calls) (join s.directory (fileName role)) vars).2 = .ok ()) :
    ∃ made, (s.after d calls).ensureDirectory s.directory = .ok made ∧
      Mirrors s made parent calls ∧ made.Reaches s.directory (fileName role) parent ∧
      s.load (s.after d calls) role = .ok (held role calls) := by
  obtain ⟨made, q, hmade, reaches⟩ := exists_made_of_writeFile hrole (hwrites [])
  rcases h with ⟨hsame, hnone⟩ | hmirrors
  · rw [hsame] at hmade ⊢
    obtain rfl := hparent made q hmade reaches.into
    refine ⟨made, hmade, vacant.mirrors hmade reaches.into hnone, reaches, ?_⟩
    rw [vacant.load_eq hrole, held, hnone role hrole]
    rfl
  · have hsame : made = s.after d calls := by
      obtain ⟨left, hwalk⟩ := hmirrors.into
      have hready := ensureDirectory_of_enters reaches.fits_base hwalk
      exact Except.ok.inj (hmade.symm.trans hready)
    subst hsame
    obtain rfl := hmirrors.into.unique reaches.into
    exact ⟨_, hmade, hmirrors, reaches, hmirrors.load_eq hrole⟩

/-- One more call is followed. -/
theorem Follows.concat
    {c : Call}
    (h : Follows s d parent before)
    (vacant : Vacant s d)
    (reliable : Reliable s d calls)
    (hparent : ∀ made q, d.ensureDirectory s.directory = .ok made →
      made.LeadsInto s.directory q → q = parent)
    (hinit : before ++ [c] <+: calls) :
    Follows s d parent (before ++ [c]) := by
  have hidle (hrun : c.run s (s.after d before) = s.after d before)
      (hwritten : ∀ role, IsRole role → writtenTo role (before ++ [c]) = writtenTo role before) :
      Follows s d parent (before ++ [c]) := by
    unfold Follows
    rw [after_concat, hrun]
    exact h.imp (fun hnone => ⟨hnone.1, fun role hrole => (hwritten role hrole).trans
      (hnone.2 role hrole)⟩) fun hmirrors => hmirrors.congr hwritten
  cases c with
  | load role => exact hidle rfl fun _ _ => writtenTo_load
  | update role key value =>
      by_cases hrole : IsRole role
      · obtain ⟨made, hmade, hmirrors, reaches, hload⟩ := h.exists_made vacant hparent hrole
          fun vars => reliable.writes before role key value hinit hrole _ vars (file_eq hrole)
        obtain ⟨hupdate, hnext⟩ := hmirrors.update hmade hload hrole reaches
          (reliable.round before role key value hinit hrole)
        right
        rw [after_concat, Call.run, hupdate]
        exact hnext
      · refine hidle ?_ fun role' hrole' => writtenTo_update_of_ne fun heq => hrole (heq ▸ hrole')
        rw [Call.run, RoleStore.update, file_of_not_isRole hrole]

theorem follows_of_initial
    (vacant : Vacant s d)
    (reliable : Reliable s d calls)
    (hparent : ∀ made q, d.ensureDirectory s.directory = .ok made →
      made.LeadsInto s.directory q → q = parent)
    (hinit : before <+: calls) :
    Follows s d parent before := by
  induction before using List.reverseRecOn with
  | nil => exact Or.inl ⟨rfl, fun role _ => rfl⟩
  | append_singleton before c ih =>
      have hbefore := ih ((List.prefix_append before [c]).trans hinit)
      exact hbefore.concat vacant reliable hparent hinit

theorem Follows.load_eq
    (h : Follows s d parent before)
    (vacant : Vacant s d)
    (hrole : IsRole role) :
    s.load (s.after d before) role = .ok (held role before) := by
  rcases h with ⟨hsame, hnone⟩ | hmirrors
  · rw [hsame, vacant.load_eq hrole, held, hnone role hrole]
    rfl
  · exact hmirrors.load_eq hrole

end Follows

/-- From a store without files on, a role has after any calls what they wrote last under each of its
keys, and nothing else. A role without a fitting name is refused, and the disk left as it is. There is
one directory in which every update writes the file of its role, each role having a file of its own, and
no other file changes. -/
theorem load_after
    {s : RoleStore}
    {d : Disk}
    {calls : List Call}
    (vacant : Vacant s d)
    (reliable : Reliable s d calls) :
    (∀ before, before <+: calls → ∀ role, IsRole role →
      ∃ vars, s.load (s.after d before) role = .ok vars ∧ Dict.Sorted vars ∧
        ∀ key value, (key, value) ∈ vars ↔ lastWritten before role key = some value) ∧
    (∀ before, before <+: calls → ∀ role, ¬ IsRole role →
      s.load (s.after d before) role = .error (.invalidRole role) ∧
        ∀ key value, s.update (s.after d before) role key value =
          (s.after d before, .error (.invalidRole role))) ∧
    (∃ parent, ∀ before role key value, before ++ [.update role key value] <+: calls →
      IsRole role →
      ∃ next content, s.update (s.after d before) role key value = (next, .ok ()) ∧
        next.LeadsInto s.directory parent ∧
        next.HasFile (parent ++ [fileName role]) content ∧
        FileTree.SameBut (parent ++ [fileName role]) (s.after d before) next) ∧
    ∀ role role', IsRole role → IsRole role' → role ≠ role' →
      fileName role ≠ fileName role' ∧ s.file role ≠ s.file role' := by
  obtain ⟨parent, hparent⟩ : ∃ parent, ∀ made q, d.ensureDirectory s.directory = .ok made →
      made.LeadsInto s.directory q → q = parent := by
    by_cases hany : ∃ made q, d.ensureDirectory s.directory = .ok made ∧
        made.LeadsInto s.directory q
    · obtain ⟨made, q, hmade, hinto⟩ := hany
      refine ⟨q, fun made' q' hmade' hinto' => ?_⟩
      obtain rfl : made = made' := Except.ok.inj (hmade.symm.trans hmade')
      exact hinto.unique hinto'
    · exact ⟨[], fun made q hmade hinto => absurd ⟨made, q, hmade, hinto⟩ hany⟩
  refine ⟨fun before hinit role hrole => ?_, fun before _ role hrole => ⟨?_, fun key value => ?_⟩,
    ⟨parent, fun before role key value hinit hrole => ?_⟩, fun role role' hrole hrole' hne => ?_⟩
  · have hfollows := follows_of_initial vacant reliable hparent hinit
    exact ⟨_, hfollows.load_eq vacant hrole, Dict.sorted_ofList _, fun key value => mem_held_iff⟩
  · rw [load, file_of_not_isRole hrole]
    rfl
  · rw [update, file_of_not_isRole hrole]
  · have hfollows := follows_of_initial vacant reliable hparent
      ((List.prefix_append before _).trans hinit)
    obtain ⟨made, hmade, hmirrors, reaches, hload⟩ := hfollows.exists_made vacant hparent hrole
      fun vars => reliable.writes before role key value hinit hrole _ vars (file_eq hrole)
    obtain ⟨hupdate, hnext⟩ := hmirrors.update hmade hload hrole reaches
      (reliable.round before role key value hinit hrole)
    obtain ⟨es, hes⟩ := hmirrors.into.stop
    refine ⟨_, _, hupdate, hnext.into, ⟨_, FileTree.get?_put hes _⟩, fun q hq c => ?_⟩
    rw [← hasFile_ensureDirectory hmade q c]
    exact hmirrors.into.sameBut_put (hmirrors.isReplaceable hrole reaches) _ q hq c
  · have hfiles : fileName role ≠ fileName role' := fun heq => hne (fileName_inj heq)
    refine ⟨hfiles, fun heq => hfiles ?_⟩
    rw [file_eq hrole, file_eq hrole', Except.ok.injEq] at heq
    have hlists := congrArg String.toList heq
    rw [toList_join (not_isAbsolute (isPlainName_fileName hrole).plain),
      toList_join (not_isAbsolute (isPlainName_fileName hrole').plain),
      List.append_right_inj] at hlists
    exact String.toList_inj.mp hlists

/-! ## A store below an empty root -/

/-- A store below the root. -/
def rootStore : RoleStore :=
  ⟨"roles"⟩

/-- The disk with the directory of the store. -/
def rootMade : Disk :=
  .directory [("roles", .directory [])]

theorem isNamed_roles :
    IsNamed "roles".toList :=
  isNamed_of_short (by decide) (by decide)

theorem ensureDirectory_root :
    ensureDirectory (.directory []) rootStore.directory = .ok rootMade := by
  have hbare : bare "roles" = "roles" := by decide
  have hparts : Text.splitOn '/' "roles".toList = ["roles".toList] := rfl
  have hmade : makeDirectory (.directory []) "roles" = .ok rootMade := by
    unfold makeDirectory
    rw [hbare, locateEntry, locateFrom_eq ⟨by decide, by decide⟩ (by decide), hparts,
      follow_missing rfl isNamed_roles rfl]
    rfl
  refine ensureDirectory_eq_ok_iff.mpr ?_
  unfold provideDirectory rootStore
  rw [if_neg (by decide), makeDirectories, hmade]
  rfl

theorem leadsInto_root :
    rootMade.LeadsInto rootStore.directory ["roles"] :=
  ⟨maxLinks, .down rfl isNamed_roles (.done rfl)⟩

/-- The store below an empty root has no files. -/
theorem vacant_root :
    Vacant rootStore (.directory []) where
  absent := by
    intro role path hpath
    by_cases hrole : IsRole role
    · rw [file_eq hrole, Except.ok.injEq] at hpath
      subst hpath
      by_contra hexists
      obtain ⟨place, t, hlocate⟩ := exists?_iff.mp (by simpa using hexists)
      obtain ⟨q, reaches⟩ := exists_reaches_of_locateFrom (isPlainName_fileName hrole) hlocate
      obtain ⟨left, hwalk⟩ := reaches.into
      obtain ⟨es, hfollow⟩ := hwalk.follow_eq
      have hparts : Text.splitOn '/' rootStore.directory.toList = ["roles".toList] := rfl
      rw [hparts, follow_missing rfl isNamed_roles rfl] at hfollow
      cases hfollow
    · rw [file_of_not_isRole hrole] at hpath
      cases hpath
  free := by
    intro made hmade role path hpath place t hlocate
    obtain rfl : rootMade = made := Except.ok.inj (ensureDirectory_root.symm.trans hmade)
    by_cases hrole : IsRole role
    · rw [file_eq hrole, Except.ok.injEq] at hpath
      subst hpath
      obtain ⟨q, reaches⟩ := exists_reaches_of_locateFrom (isPlainName_fileName hrole) hlocate
      obtain rfl := leadsInto_root.unique reaches.into
      rw [locateEntry, reaches.locateFrom_of_missing rfl] at hlocate
      cases hlocate
    · rw [file_of_not_isRole hrole] at hpath
      cases hpath

/-- Calls that write for two roles. -/
def rootCalls : List Call :=
  [.update "" "language" "java", .update "dev" "language" "rust"]

theorem writeFile_of_reaches
    {s : RoleStore}
    {d made : Disk}
    {parent : Place}
    {name : String}
    (hmade : d.ensureDirectory s.directory = .ok made)
    (reaches : made.Reaches s.directory name parent)
    (entry : IsReplaceable (made.get? (parent ++ [name])))
    (vars : Dict String) :
    s.writeFile d (join s.directory name) vars =
      (made.put (parent ++ [name]) (.file (.text (Yaml.printDict vars)) .plain), .ok ()) := by
  simp only [writeFile, ensureDirectory_eq_ok_iff.mp hmade, reaches.overwrite_eq entry]

theorem eq_of_prefix_rootCalls
    {before : List Call}
    {role key value : String}
    (h : before ++ [.update role key value] <+: rootCalls) :
    (before = [] ∧ role = "" ∧ key = "language" ∧ value = "java") ∨
      (before = [.update "" "language" "java"] ∧ role = "dev" ∧ key = "language" ∧
        value = "rust") := by
  match before, h with
  | [], h =>
      obtain ⟨hcall, -⟩ := List.cons_prefix_cons.mp h
      cases hcall
      exact Or.inl ⟨rfl, rfl, rfl, rfl⟩
  | [first], h =>
      obtain ⟨rfl, hrest⟩ := List.cons_prefix_cons.mp h
      obtain ⟨hcall, -⟩ := List.cons_prefix_cons.mp hrest
      cases hcall
      exact Or.inr ⟨rfl, rfl, rfl, rfl⟩
  | _ :: _ :: rest, h =>
      have hlength := h.length_le
      simp [rootCalls] at hlength

theorem isRole_default :
    IsRole "" :=
  isRole_iff.mpr rfl

theorem reaches_root :
    rootMade.Reaches rootStore.directory (fileName "") ["roles"] :=
  ⟨leadsInto_root, ⟨by decide, by decide, by decide, by decide⟩, by decide, by decide, by decide⟩

/-- The disk after an update for the default role. -/
def rootKept : Disk :=
  rootMade.put (["roles"] ++ [fileName ""]) (stored "" [.update "" "language" "java"])

theorem roundTrips_root :
    RoundTrips (held "" [.update "" "language" "java"]) := by
  unfold RoundTrips
  decide +kernel

theorem update_root :
    rootStore.update (.directory []) "" "language" "java" = (rootKept, .ok ()) ∧
      Mirrors rootStore rootKept ["roles"] [.update "" "language" "java"] := by
  have hmirrors : Mirrors rootStore rootMade ["roles"] [] :=
    vacant_root.mirrors ensureDirectory_root leadsInto_root fun _ _ => rfl
  exact hmirrors.update ensureDirectory_root (vacant_root.load_eq isRole_default) isRole_default
    reaches_root roundTrips_root

/-- The calls on the store below an empty root can be relied on. -/
theorem reliable_root :
    Reliable rootStore (.directory []) rootCalls := by
  obtain ⟨hupdate, hnext⟩ := update_root
  have hafter : rootStore.after (.directory []) [.update "" "language" "java"] = rootKept :=
    congrArg Prod.fst hupdate
  refine ⟨fun before role key value hinit _ => ?_,
    fun before role key value hinit hrole path vars hpath => ?_⟩
  · rcases eq_of_prefix_rootCalls hinit with ⟨rfl, rfl, rfl, rfl⟩ | ⟨rfl, rfl, rfl, rfl⟩
    · exact roundTrips_root
    · unfold RoundTrips
      decide +kernel
  · rw [file_eq hrole, Except.ok.injEq] at hpath
    subst hpath
    rcases eq_of_prefix_rootCalls hinit with ⟨rfl, rfl, -, -⟩ | ⟨rfl, rfl, -, -⟩
    · exact congrArg Prod.snd
        (writeFile_of_reaches ensureDirectory_root reaches_root (Or.inl rfl) vars)
    · rw [hafter]
      have hdev : rootKept.Reaches rootStore.directory (fileName "dev") ["roles"] :=
        ⟨hnext.into, ⟨by decide, by decide, by decide, by decide⟩, by decide, by decide, by decide⟩
      obtain ⟨left, hwalk⟩ := hdev.into
      exact congrArg Prod.snd (writeFile_of_reaches (ensureDirectory_of_enters hdev.fits_base hwalk)
        hdev (Or.inl rfl) vars)

/-- Two roles in a store below an empty root. -/
theorem load_after_root :
    Vacant rootStore (.directory []) ∧ Reliable rootStore (.directory []) rootCalls ∧
      (∃ vars, rootStore.load (rootStore.after (.directory []) rootCalls) "dev" = .ok vars ∧
        ("language", "rust") ∈ vars) ∧
      ∃ vars, rootStore.load (rootStore.after (.directory []) rootCalls) "" = .ok vars ∧
        ("language", "java") ∈ vars := by
  obtain ⟨hload, -⟩ := load_after vacant_root reliable_root
  have hdev : IsRole "dev" := isRole_iff.mpr rfl
  obtain ⟨vars, hvars, -, hmem⟩ := hload rootCalls (List.prefix_refl _) "dev" hdev
  obtain ⟨vars', hvars', -, hmem'⟩ := hload rootCalls (List.prefix_refl _) "" isRole_default
  exact ⟨vacant_root, reliable_root, ⟨vars, hvars, (hmem _ _).mpr rfl⟩,
    vars', hvars', (hmem' _ _).mpr rfl⟩

end RoleStore
end Runbook
