import Runbook.Proofs.Files.Sharing
import Runbook.Proofs.Role.Store

/-!
# Updates of one role

Updates of a role that go well leave it the variables that it had, with all that has been written since.
Another role has what it had, unless its file is the file that is written, or comes to light when the
directory of the store is made. An update that fails leaves the variables of the other roles as well, and
those of its own role if it changes no file.

Main statements: `Ended.load_self` and `Ended.load_other`.
-/

namespace Runbook
namespace RoleStore

open Disk
open Runbook.Path

/-- The files of two roles are one file. -/
def Shares
    (s : RoleStore)
    (d : Disk)
    (role role' : String) : Prop :=
  ∃ path path', s.file role = .ok path ∧ s.file role' = .ok path' ∧ d.SharesFile path path'

/-- A role has other variables as soon as the directory of the store is made sure of, as far as possible. -/
def Unveils
    (s : RoleStore)
    (d : Disk)
    (role : String) : Prop :=
  s.load (d.provideDirectory s.directory).1 role ≠ s.load d role

/-- Updates of a role that go well, one after another, and the disk that they leave. -/
inductive Updated
    (s : RoleStore)
    (role : String)
    (d : Disk) :
    List (String × String) → Disk → Prop where
  | start :
      Updated s role d [] d
  | update
      {entries : List (String × String)}
      {key value : String}
      {d₁ d₂ : Disk}
      (before : Updated s role d entries d₁)
      (h : s.update d₁ role key value = (d₂, .ok ())) :
      Updated s role d (entries ++ [(key, value)]) d₂

/-- Updates of a role that go well, and perhaps a last one that fails. -/
inductive Ended
    (s : RoleStore)
    (role : String)
    (d : Disk)
    (entries : List (String × String)) :
    Disk → Prop where
  | well
      {d₁ : Disk}
      (before : Updated s role d entries d₁) :
      Ended s role d entries d₁
  | badly
      {key value : String}
      {d₁ d₂ : Disk}
      {e : StoreError}
      (before : Updated s role d entries d₁)
      (h : s.update d₁ role key value = (d₂, .error e)) :
      Ended s role d entries d₂

/-- The update that leaves a disk, if it fails after updates that went well, has changed no file. -/
def FailsCleanly
    (s : RoleStore)
    (role : String)
    (d : Disk)
    (entries : List (String × String))
    (d' : Disk) : Prop :=
  ∀ d₁ key value e, Updated s role d entries d₁ → s.update d₁ role key value = (d', .error e) →
    ∀ place c, d'.HasFile place c ↔ d₁.HasFile place c

section Reading

variable {d d' : Disk}
variable {path : String}

/-- Where a path leads to the same, it is read the same. -/
theorem readFile_of_sameAt
    (h : SameAt d d' path) :
    readFile d' path = readFile d path := by
  unfold readFile
  by_cases hexists : d.exists? path = true
  · obtain ⟨place, t, hlocate⟩ := exists?_iff.mp hexists
    obtain ⟨t', hlocate', hsame⟩ := h.kept place t hlocate
    have hread : d'.readText path = d.readText path := by
      unfold readText Disk.read tree?
      rw [hlocate, hlocate']
      rcases hsame with rfl | ⟨ht, ht'⟩
      · rfl
      · cases t <;> cases ht
        cases t' <;> cases ht'
        rfl
    rw [exists?_iff.mpr ⟨_, _, hlocate'⟩, hexists, hread]
  · have hexists' : ¬ d'.exists? path = true := by
      intro hfound
      obtain ⟨place, t', hlocate'⟩ := exists?_iff.mp hfound
      obtain ⟨t, hlocate⟩ := h.old place t' hlocate'
      exact hexists (exists?_iff.mpr ⟨_, _, hlocate⟩)
    rw [if_neg hexists, if_neg hexists']

end Reading

section Step

variable {s : RoleStore}
variable {d d' : Disk}
variable {role role' key value : String}

/-- A role that has a file has a fitting name. -/
theorem isRole_of_file
    {path : String}
    (h : s.file role = .ok path) :
    IsRole role ∧ path = join s.directory (fileName role) := by
  by_cases hrole : IsRole role
  · rw [file_eq hrole, Except.ok.injEq] at h
    exact ⟨hrole, h.symm⟩
  · rw [file_of_not_isRole hrole] at h
    cases h

/-- An update that fails leaves the disk, or makes sure of the directory as far as possible, or has then
written something else to the file of its role. -/
theorem eq_or_made_of_failed
    {e : StoreError}
    (h : s.update d role key value = (d', .error e)) :
    d' = d ∨ d' = (d.provideDirectory s.directory).1 ∨
      ∃ path c, s.file role = .ok path ∧ Written (d.provideDirectory s.directory).1 path c d' := by
  unfold update at h
  split at h
  · cases h
    exact Or.inl rfl
  · rename_i path hpath
    split at h
    · cases h
      exact Or.inl rfl
    · rename_i vars hvars
      unfold writeFile at h
      split at h
      · rename_i made e' hmade
        cases h
        exact Or.inr (Or.inl (by rw [hmade]))
      · rename_i made hmade
        rw [hmade]
        rcases overwrite_cases made path (.text (Yaml.printDict (Dict.insert vars key value))) with
          ⟨d'', hdone, -⟩ | ⟨e', hkept⟩ | ⟨d'', n, hcut, hwritten⟩
        · rw [hdone] at h
          cases h
        · rw [hkept] at h
          cases h
          exact Or.inr (Or.inl rfl)
        · rw [hcut] at h
          cases h
          exact Or.inr (Or.inr ⟨path, _, hpath, hwritten⟩)

/-- After an update that goes well the directory of the store is there. -/
theorem provideDirectory_of_update
    (h : s.update d role key value = (d', .ok ())) :
    d'.provideDirectory s.directory = (d', .ok ()) := by
  obtain ⟨path, vars, made, hpath, -, -, hwritten⟩ := exists_of_update h
  obtain ⟨hrole, rfl⟩ := isRole_of_file hpath
  obtain ⟨parent, reaches⟩ := exists_reaches_of_write (isPlainName_fileName hrole) hwritten
  obtain ⟨left, hwalk⟩ := (written_of_write hwritten).leadsInto reaches.into
  exact provideDirectory_of_enters reaches.fits_base hwalk

/-- Then nothing comes to light any more. -/
theorem not_unveils_of_update
    (h : s.update d role key value = (d', .ok ())) :
    ¬ s.Unveils d' role' := by
  rw [Unveils, provideDirectory_of_update h]
  exact fun hne => hne rfl

theorem load_of_made
    (veiled : ¬ s.Unveils d role) :
    s.load (d.provideDirectory s.directory).1 role = s.load d role :=
  not_not.mp veiled

theorem Shares.made
    (shares : s.Shares d role role') :
    s.Shares (d.provideDirectory s.directory).1 role role' := by
  obtain ⟨path, path', hpath, hpath', hfile⟩ := shares
  exact ⟨path, path', hpath, hpath', hfile.extends (extends_provideDirectory d s.directory)⟩

theorem Shares.written
    {path : String}
    {c : Content}
    (shares : s.Shares d role role')
    (hpath : s.file role = .ok path)
    (h : Written d path c d') :
    s.Shares d' role role' := by
  obtain ⟨path₁, path', hpath₁, hpath', hfile⟩ := shares
  obtain rfl : path = path₁ := Except.ok.inj (hpath.symm.trans hpath₁)
  exact ⟨path, path', hpath, hpath', h.sharesFile hfile⟩

theorem Shares.update
    (shares : s.Shares d role role')
    (h : s.update d role key value = (d', .ok ())) :
    s.Shares d' role role' := by
  obtain ⟨path, vars, made, hpath, -, hmade, hwritten⟩ := exists_of_update h
  have hshares := shares.made
  rw [ensureDirectory_eq_ok_iff.mp hmade] at hshares
  exact hshares.written hpath (written_of_write hwritten)

/-- What is written for a role leaves the variables of the roles whose files are others. -/
theorem load_of_written
    {path : String}
    {c : Content}
    (hpath : s.file role = .ok path)
    (h : Written d path c d')
    (apart : ¬ s.Shares d' role role') :
    s.load d' role' = s.load d role' := by
  rw [load, load]
  cases hpath' : s.file role' with
  | error e => rfl
  | ok path' =>
      have hother : ¬ d'.SharesFile path path' := fun hfile => apart ⟨_, _, hpath, hpath', hfile⟩
      exact readFile_of_sameAt (h.sameAt hother)

/-- What changes no file leaves the variables of all roles, and the device of a role. -/
theorem load_of_hasFile
    {path : String}
    {c : Content}
    (h : Written d path c d')
    (hfiles : ∀ place content, d'.HasFile place content ↔ d.HasFile place content)
    (role : String) :
    s.load d' role = s.load d role ∧ (s.IsDevice d role → s.IsDevice d' role) := by
  constructor
  · rw [load, load]
    cases s.file role with
    | error e => rfl
    | ok path' => exact readFile_of_sameAt (h.sameAt_of_hasFile hfiles path')
  · rintro ⟨path', place, kind, hpath', hlocate⟩
    obtain ⟨t, ht, rfl | ⟨hdirectory, -⟩⟩ := (h.sameAt_of_hasFile hfiles path').kept _ _ hlocate
    · exact ⟨path', place, kind, hpath', ht⟩
    · cases hdirectory

/-- An update leaves the variables of the roles whose files are others. -/
theorem load_other
    (h : s.update d role key value = (d', .ok ()))
    (apart : ¬ s.Shares d' role role')
    (veiled : ¬ s.Unveils d role') :
    s.load d' role' = s.load d role' := by
  obtain ⟨path, vars, made, hpath, -, hmade, hwritten⟩ := exists_of_update h
  have hveiled := load_of_made veiled
  rw [ensureDirectory_eq_ok_iff.mp hmade] at hveiled
  rw [load_of_written hpath (written_of_write hwritten) apart, hveiled]

end Step

section Run

variable {s : RoleStore}
variable {d d' : Disk}
variable {role role' key value : String}
variable {entries : List (String × String)}

/-- The first of several updates. -/
theorem Updated.cons
    {d₁ : Disk}
    (first : s.update d role key value = (d₁, .ok ()))
    (h : Updated s role d₁ entries d') :
    Updated s role d ((key, value) :: entries) d' := by
  induction h with
  | start => exact .update .start first
  | update _ hstep ih => exact .update ih hstep

theorem Ended.cons
    {d₁ : Disk}
    (first : s.update d role key value = (d₁, .ok ()))
    (h : Ended s role d₁ entries d') :
    Ended s role d ((key, value) :: entries) d' := by
  cases h with
  | well before => exact .well (.cons first before)
  | badly before fails => exact .badly (.cons first before) fails

/-- What is still to come to light after updates was so before, and there have been none. -/
theorem Updated.unveils
    (h : Updated s role d entries d')
    (unveils : s.Unveils d' role') :
    entries = [] ∧ s.Unveils d role' := by
  cases h with
  | start => exact ⟨rfl, unveils⟩
  | update _ hstep => exact absurd unveils (not_unveils_of_update hstep)

theorem Updated.eq_of_nil
    (h : Updated s role d entries d')
    (hnil : entries = []) :
    d' = d := by
  cases h with
  | start => rfl
  | update => exact absurd hnil (List.concat_ne_nil _ _)

/-- The only one of updates. -/
theorem Updated.eq_of_singleton
    (h : Updated s role d [(key, value)] d') :
    s.update d role key value = (d', .ok ()) := by
  generalize hentries : [(key, value)] = all at h
  cases h with
  | start => cases hentries
  | @update front key' value' d₁ d₂ before hstep =>
      obtain ⟨hfront, hlast⟩ := List.append_inj' ((List.nil_append _).trans hentries) rfl
      cases hlast
      rwa [before.eq_of_nil hfront.symm] at hstep

/-- A role that is updated can be read before. -/
theorem Updated.exists_load
    (h : Updated s role d entries d')
    (hne : entries ≠ []) :
    ∃ vars, s.load d role = .ok vars := by
  induction h with
  | start => exact absurd rfl hne
  | @update entries key value d₁ d₂ before hstep ih =>
      by_cases hentries : entries = []
      · obtain ⟨path, vars, made, -, hload, -, -⟩ := exists_of_update hstep
        rw [before.eq_of_nil hentries] at hload
        exact ⟨vars, hload⟩
      · exact ih hentries

/-- Unless its file is a device, a role has after updates what it had before, and all that has been
written. -/
theorem Updated.load_self
    (h : Updated s role d entries d')
    (noDevice : ¬ s.IsDevice d' role)
    (hround : ∀ vars before, s.load d role = .ok vars → before <+: entries → before ≠ [] →
      RoundTrips (Dict.insertAll vars before)) :
    s.load d' role = (s.load d role).map (Dict.insertAll · entries) := by
  induction h with
  | start => cases s.load d role <;> rfl
  | @update entries key value d₁ d₂ before hstep ih =>
      have hbefore := ih (fun device => noDevice (device.update hstep))
        fun vars front hload hfront =>
          hround vars front hload (hfront.trans (List.prefix_append entries _))
      obtain ⟨path, vars₁, made, -, hload₁, -, -⟩ := exists_of_update hstep
      cases hload : s.load d role with
      | error e =>
          rw [hload, hload₁] at hbefore
          cases hbefore
      | ok vars =>
          rw [hload] at hbefore
          have hall := hround vars _ hload (List.prefix_refl _) (by simp)
          rw [Dict.insertAll_concat] at hall
          rw [load_update hstep noDevice hbefore hall, Except.map, Dict.insertAll_concat]

/-- A role has after updates of another role what it had before, unless they have one file, or its file
comes to light. -/
theorem Updated.load_other
    (h : Updated s role d entries d')
    (apart : ¬ s.Shares d' role role')
    (veiled : ¬ s.Unveils d role') :
    s.load d' role' = s.load d role' := by
  induction h with
  | start => rfl
  | update before hstep ih =>
      rw [RoleStore.load_other hstep apart fun unveils => veiled (before.unveils unveils).2]
      exact ih fun shares => apart (shares.update hstep)

/-- The same when a last update fails, provided that it changes no file. If no update goes well, the own
file of the role must not come to light either. -/
theorem Ended.load_self
    (h : Ended s role d entries d')
    (cleanly : s.FailsCleanly role d entries d')
    (noDevice : ¬ s.IsDevice d' role)
    (veiled : entries = [] → ¬ s.Unveils d role)
    (hround : ∀ vars before, s.load d role = .ok vars → before <+: entries → before ≠ [] →
      RoundTrips (Dict.insertAll vars before)) :
    s.load d' role = (s.load d role).map (Dict.insertAll · entries) := by
  cases h with
  | well before => exact before.load_self noDevice hround
  | @badly key value d₁ d₂ e before fails =>
      have hfiles := cleanly d₁ key value e before fails
      have hmade : s.load (d₁.provideDirectory s.directory).1 role = s.load d₁ role :=
        load_of_made fun unveils => veiled (before.unveils unveils).1 (before.unveils unveils).2
      rcases eq_or_made_of_failed fails with rfl | rfl | ⟨path, c, -, hwritten⟩
      · exact before.load_self noDevice hround
      · rw [hmade]
        exact before.load_self (fun device => noDevice device.made) hround
      · obtain ⟨hload, hdevice⟩ := load_of_hasFile (s := s) hwritten
          (fun place content =>
            (hfiles place content).trans (hasFile_provideDirectory d₁ s.directory place content).symm)
          role
        rw [hload, hmade]
        exact before.load_self (fun device => noDevice (hdevice device.made)) hround

theorem Ended.load_other
    (h : Ended s role d entries d')
    (apart : ¬ s.Shares d' role role')
    (veiled : ¬ s.Unveils d role') :
    s.load d' role' = s.load d role' := by
  cases h with
  | well before => exact before.load_other apart veiled
  | badly before fails =>
      have hmade := load_of_made fun unveils => veiled (before.unveils unveils).2
      rcases eq_or_made_of_failed fails with rfl | rfl | ⟨path, c, hpath, hwritten⟩
      · exact before.load_other apart veiled
      · rw [hmade]
        exact before.load_other (fun shares => apart shares.made) veiled
      · rw [load_of_written hpath hwritten apart, hmade]
        exact before.load_other (fun shares => apart (shares.made.written hpath hwritten)) veiled

theorem Ended.exists_load
    (h : Ended s role d entries d')
    (hne : entries ≠ []) :
    ∃ vars, s.load d role = .ok vars := by
  cases h with
  | well before => exact before.exists_load hne
  | badly before fails => exact before.exists_load hne

end Run

end RoleStore
end Runbook
