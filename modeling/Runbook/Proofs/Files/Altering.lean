import Runbook.Proofs.Files.Sharing

/-!
# One file changed, or entries in another order

A file that a path leads to may be written, replaced as a whole or taken away. Paths that share it neither
before nor afterwards lead where they led, and a directory keeps every name that leads to a directory. The
same holds for all paths when directories list their entries in another order.

Main statements: `alike_of_relisted` and `alike_of_fileChanged`.
-/

namespace Runbook

/-! ## Trees -/

namespace FileTree

/-- What is at a place of two trees is the same, or a directory in both. -/
def Resembles (a b : Option FileTree) : Prop :=
  a = b ∨ ∃ es es', a = some (.directory es) ∧ b = some (.directory es')

theorem Resembles.symm
    {a b : Option FileTree}
    (h : Resembles a b) :
    Resembles b a := by
  rcases h with rfl | ⟨es, es', ha, hb⟩
  · exact Or.inl rfl
  · exact Or.inr ⟨es', es, hb, ha⟩

theorem Resembles.trans
    {a b c : Option FileTree}
    (h : Resembles a b)
    (h' : Resembles b c) :
    Resembles a c := by
  rcases h with rfl | ⟨es, es', rfl, rfl⟩
  · exact h'
  · rcases h' with rfl | ⟨es₁, es₂, -, rfl⟩
    · exact Or.inr ⟨es, es', rfl, rfl⟩
    · exact Or.inr ⟨es, es₂, rfl, rfl⟩

/-- What is there is the same on the other side, or a directory as well. -/
theorem Resembles.exists_same
    {b : Option FileTree}
    {t : FileTree}
    (h : Resembles (some t) b) :
    ∃ t', b = some t' ∧ (t' = t ∨ (t.isDirectory = true ∧ t'.isDirectory = true)) := by
  rcases h with rfl | ⟨es, es', ha, rfl⟩
  · exact ⟨t, rfl, Or.inl rfl⟩
  · cases ha
    exact ⟨_, rfl, Or.inr ⟨rfl, rfl⟩⟩

theorem Resembles.exists_iff
    {a b : Option FileTree}
    (h : Resembles a b) :
    (∃ t, a = some t) ↔ ∃ t, b = some t := by
  rcases h with rfl | ⟨es, es', rfl, rfl⟩
  · exact Iff.rfl
  · exact iff_of_true ⟨_, rfl⟩ ⟨_, rfl⟩

theorem erase_directory_cons
    {es : List (String × FileTree)}
    {name : String}
    {s : FileTree}
    (hs : Dict.get? es name = some s)
    (parent : Place)
    (last : String) :
    (directory es).erase (name :: (parent ++ [last])) =
      .directory (Dict.insert es name (s.erase (parent ++ [last]))) := by
  cases parent with
  | nil => simp [erase, hs]
  | cons p parent => simp [erase, hs]

section Entry

variable {t : FileTree}
variable {parent : Place}
variable {es : List (String × FileTree)}
variable {name : String}

/-- What is taken away is gone. -/
theorem get?_erase
    (h : t.get? parent = some (.directory es)) :
    (t.erase (parent ++ [name])).get? (parent ++ [name]) = none := by
  induction parent generalizing t with
  | nil =>
      obtain rfl : t = .directory es := by simpa using h
      simp [erase, Dict.get?_erase_self]
  | cons p parent ih =>
      obtain ⟨es', s, rfl, hs, hu⟩ := exists_of_get?_cons h
      rw [List.cons_append, erase_directory_cons hs, get?_directory_cons, Dict.get?_insert_self]
      exact ih hu

/-- Every other place keeps what it has, but for the directories on the way. What is taken away must not
be a directory, or there would be places below it. -/
theorem resembles_erase
    {q : Place}
    (h : t.get? parent = some (.directory es))
    (hold : ∀ es', t.get? (parent ++ [name]) ≠ some (.directory es'))
    (hq : q ≠ parent ++ [name]) :
    Resembles (t.get? q) ((t.erase (parent ++ [name])).get? q) := by
  induction parent generalizing t q with
  | nil =>
      obtain rfl : t = .directory es := by simpa using h
      cases q with
      | nil => exact Or.inr ⟨es, Dict.erase es name, get?_nil _, by simp [erase]⟩
      | cons n rest =>
          simp only [List.nil_append, erase, get?_directory_cons]
          by_cases hn : n = name
          · subst hn
            cases rest with
            | nil => exact absurd rfl hq
            | cons m rest =>
                -- Below the place nothing was, since no directory was there.
                left
                rw [Dict.get?_erase_self, Option.bind_none]
                cases hbelow : (Dict.get? es n).bind fun u => u.get? (m :: rest) with
                | none => rfl
                | some u =>
                    obtain ⟨s, hs, hu⟩ := Option.bind_eq_some_iff.mp hbelow
                    obtain ⟨es', -, rfl, -, -⟩ := exists_of_get?_cons hu
                    exact absurd (by simp [hs]) (hold es')
          · exact Or.inl (by rw [Dict.get?_erase_of_ne es hn])
  | cons p parent ih =>
      obtain ⟨es', s, rfl, hs, hdir⟩ := exists_of_get?_cons h
      rw [List.cons_append, erase_directory_cons hs]
      cases q with
      | nil => exact Or.inr ⟨_, _, get?_nil _, get?_nil _⟩
      | cons n rest =>
          rw [get?_directory_cons, get?_directory_cons]
          by_cases hn : n = p
          · subst hn
            rw [hs, Dict.get?_insert_self, Option.bind_some, Option.bind_some]
            refine ih hdir (fun es'' hes => hold es'' ?_) fun heq => hq (by rw [heq]; rfl)
            rw [List.cons_append, get?_directory_cons, hs, Option.bind_some, hes]
          · exact Or.inl (by rw [Dict.get?_insert_of_ne es' _ hn])

end Entry

/-- What is put somewhere and is no directory changes no other place. -/
theorem resembles_put
    {t new : FileTree}
    {parent q : Place}
    {es : List (String × FileTree)}
    {name : String}
    (h : t.get? parent = some (.directory es))
    (hold : ∀ es', t.get? (parent ++ [name]) ≠ some (.directory es'))
    (hnew : new.isDirectory = false)
    (hq : q ≠ parent ++ [name]) :
    Resembles (t.get? q) ((t.put (parent ++ [name]) new).get? q) := by
  cases hu : t.get? q with
  | none =>
      cases hu' : (t.put (parent ++ [name]) new).get? q with
      | none => exact Or.inl rfl
      | some u' =>
          obtain ⟨u, hback, -⟩ := exists_get?_of_put h hnew hq hu'
          rw [hu] at hback
          cases hback
  | some u =>
      obtain ⟨u', hu', rfl | ⟨hdir, hdir'⟩⟩ := exists_get?_put h hold hq hu new
      · exact Or.inl hu'.symm
      · obtain ⟨es₁, rfl⟩ := isDirectory_iff.mp hdir
        obtain ⟨es₂, rfl⟩ := isDirectory_iff.mp hdir'
        exact Or.inr ⟨es₁, es₂, rfl, hu'⟩

namespace Relisted

variable {t t' : FileTree}

theorem symm
    (h : Relisted t t') :
    Relisted t' t := by
  induction h with
  | refl t => exact .refl t
  | perm distinct h => exact .perm ((h.map Prod.fst).nodup_iff.mp distinct) h.symm
  | entry h ih => exact .entry ih
  | trans h h' ih ih' => exact .trans ih' ih

/-- What is no directory has no entries to list. -/
theorem eq_of_not_directory
    (h : Relisted t t')
    (ht : t.isDirectory = false) :
    t' = t := by
  induction h with
  | refl t => rfl
  | perm distinct h => cases ht
  | entry h ih => cases ht
  | trans h h' ih ih' =>
      obtain rfl := ih ht
      exact ih' ht

/-- In whatever order entries are listed, every place has the same, up to the order of entries. -/
theorem exists_get?
    (h : Relisted t t')
    {p : Place}
    {u : FileTree}
    (hu : t.get? p = some u) :
    ∃ u', t'.get? p = some u' ∧ Relisted u u' := by
  induction h generalizing p u with
  | refl t => exact ⟨u, hu, .refl u⟩
  | perm distinct h =>
      cases p with
      | nil =>
          obtain rfl : _ = u := by simpa using hu
          exact ⟨_, get?_nil _, .perm distinct h⟩
      | cons name rest =>
          refine ⟨u, ?_, .refl u⟩
          rwa [get?_directory_cons, ← Dict.get?_perm distinct h name, ← get?_directory_cons]
  | @entry before after name s s' h ih =>
      cases p with
      | nil =>
          obtain rfl : _ = u := by simpa using hu
          exact ⟨_, get?_nil _, .entry h⟩
      | cons n rest =>
          rw [get?_directory_cons, Dict.get?_append] at hu
          rw [get?_directory_cons, Dict.get?_append]
          cases hbefore : Dict.get? before n with
          | some v =>
              rw [hbefore, Option.some_or, Option.bind_some] at hu
              exact ⟨u, hu, .refl u⟩
          | none =>
              rw [hbefore, Option.none_or, Dict.get?] at hu
              rw [Option.none_or, Dict.get?]
              by_cases hn : name = n
              · rw [if_pos hn, Option.bind_some] at hu ⊢
                exact ih hu
              · rw [if_neg hn] at hu ⊢
                exact ⟨u, hu, .refl u⟩
  | trans h h' ih ih' =>
      obtain ⟨v, hv, huv⟩ := ih hu
      obtain ⟨v', hv', hvv⟩ := ih' hv
      exact ⟨v', hv', huv.trans hvv⟩

theorem resembles
    (h : Relisted t t')
    (p : Place) :
    Resembles (t.get? p) (t'.get? p) := by
  cases hu : t.get? p with
  | none =>
      cases hu' : t'.get? p with
      | none => exact Or.inl rfl
      | some u' =>
          obtain ⟨u, hback, -⟩ := h.symm.exists_get? hu'
          rw [hu] at hback
          cases hback
  | some u =>
      obtain ⟨u', hu', hsame⟩ := h.exists_get? hu
      cases hdir : u.isDirectory with
      | false =>
          rw [hu', hsame.eq_of_not_directory hdir]
          exact Or.inl rfl
      | true =>
          obtain ⟨es, rfl⟩ := isDirectory_iff.mp hdir
          obtain ⟨es', rfl⟩ := isDirectory_iff.mp (hsame.isDirectory_eq.trans hdir)
          exact Or.inr ⟨es, es', rfl, hu'⟩

end Relisted

end FileTree

namespace Disk

open Runbook.Path

/-! ## What a path leads to -/

section Locating

variable {d d' : Disk}
variable {path : String}

theorem isDirectory_iff :
    d.isDirectory path = true ↔ ∃ place es, d.locate path = .ok (.found place (.directory es)) := by
  unfold isDirectory tree?
  cases hlocate : d.locate path with
  | error e => simp
  | ok spot =>
      cases spot with
      | free parent name slash => simp
      | found place t => cases t <;> simp [FileTree.isDirectory]

theorem list_eq_ok_iff
    {es : List (String × FileTree)} :
    d.list path = .ok es ↔ ∃ place, d.locate path = .ok (.found place (.directory es)) := by
  unfold list tree?
  cases hlocate : d.locate path with
  | error e => simp
  | ok spot =>
      cases spot with
      | free parent name slash => simp
      | found place t => cases t <;> simp

/-- What a path leads to is at its place. -/
theorem get?_of_locate
    {place : Place}
    {t : FileTree}
    (h : d.locate path = .ok (.found place t)) :
    d.get? place = some t := by
  obtain ⟨-, -, hleads⟩ := leads_of_locateFrom h
  exact hleads.get?_eq

/-- A file is no directory. -/
theorem isDirectory_of_isFile
    (h : d.isFile path = true) :
    d.isDirectory path = false := by
  obtain ⟨place, content, traits, hlocate⟩ := isFile_iff.mp h
  rw [Bool.eq_false_iff, Ne, isDirectory_iff]
  rintro ⟨place', es, hdirectory⟩
  rw [hlocate] at hdirectory
  cases hdirectory

/-- What shares a file is a file. -/
theorem SharesFile.isFile
    {path' : String}
    (h : d.SharesFile path path')
    (hfile : ∀ place t, d.locate path = .ok (.found place t) → t.isFile = true) :
    d.isFile path' = true := by
  obtain ⟨place, place', t, t', hlocate, hlocate', hsame⟩ := h
  have ht := hfile place t hlocate
  have ht' : t'.isFile = true := by
    rcases hsame with rfl | ⟨hsome, htwin⟩
    · have hplace := (get?_of_locate hlocate).symm.trans (get?_of_locate hlocate')
      cases hplace
      exact ht
    · rw [← htwin] at hsome
      cases t' with
      | file content traits => rfl
      | link target => cases hsome
      | device kind => cases hsome
      | directory es => cases hsome
  rw [Disk.isFile, tree?, hlocate']
  exact ht'

/-- What a path to a file leads to is the file. -/
theorem isFile_of_locate
    {place : Place}
    {t : FileTree}
    (h : d.isFile path = true)
    (hlocate : d.locate path = .ok (.found place t)) :
    t.isFile = true := by
  rwa [Disk.isFile, tree?, hlocate] at h

/-- What two disks have in a place is the same, or a directory on both. -/
theorem same_of_locate
    {path' : String}
    {place : Place}
    {t t' : FileTree}
    (hplace : FileTree.Resembles (d.get? place) (d'.get? place))
    (h : d.locate path = .ok (.found place t))
    (h' : d'.locate path' = .ok (.found place t')) :
    t' = t ∨ (t.isDirectory = true ∧ t'.isDirectory = true) := by
  rw [get?_of_locate h, get?_of_locate h'] at hplace
  obtain ⟨t'', heq, hsame⟩ := hplace.exists_same
  obtain rfl : t' = t'' := Option.some.inj heq
  exact hsame

/-- A path leads to the same on both disks, whichever is taken first. -/
theorem SameAt.symm
    (h : SameAt d d' path) :
    SameAt d' d path := by
  refine ⟨fun place t' hlocate' => ?_, fun place t hlocate => ?_⟩
  · obtain ⟨t, hlocate⟩ := h.old place t' hlocate'
    obtain ⟨t'', hkept, hsame⟩ := h.kept place t hlocate
    rw [hlocate'] at hkept
    cases hkept
    exact ⟨t, hlocate, hsame.imp Eq.symm And.symm⟩
  · obtain ⟨t', hlocate', -⟩ := h.kept place t hlocate
    exact ⟨t', hlocate'⟩

/-- What a path leads to and is no directory it leads to on the other disk. -/
theorem SameAt.locate_of_not_directory
    {place : Place}
    {t : FileTree}
    (h : SameAt d d' path)
    (hlocate : d.locate path = .ok (.found place t))
    (ht : t.isDirectory = false) :
    d'.locate path = .ok (.found place t) := by
  obtain ⟨t', hlocate', rfl | ⟨hdirectory, -⟩⟩ := h.kept place t hlocate
  · exact hlocate'
  · rw [ht] at hdirectory
    cases hdirectory

theorem SameAt.isFile_eq
    (h : SameAt d d' path) :
    d'.isFile path = d.isFile path := by
  rw [Bool.eq_iff_iff, isFile_iff, isFile_iff]
  constructor
  · rintro ⟨place, content, traits, hlocate⟩
    exact ⟨place, content, traits, h.symm.locate_of_not_directory hlocate rfl⟩
  · rintro ⟨place, content, traits, hlocate⟩
    exact ⟨place, content, traits, h.locate_of_not_directory hlocate rfl⟩

/-- A directory that a path leads into is what the path leads to. -/
theorem LeadsInto.eq_of_locate
    {parent place : Place}
    {es : List (String × FileTree)}
    (h : d.LeadsInto path parent)
    (hlocate : d.locate path = .ok (.found place (.directory es))) :
    parent = place := by
  obtain ⟨left, hwalk⟩ := h
  obtain ⟨-, -, hleads⟩ := leads_of_locateFrom hlocate
  obtain ⟨es', hspot⟩ := hwalk.eq_of_follow hleads.follow_eq
  cases hspot
  rfl

/-- Where all places are the same up to what directories hold, paths lead to the same places. -/
theorem locate_of_resembles
    (h : ∀ p, FileTree.Resembles (d.get? p) (d'.get? p))
    {place : Place}
    {t : FileTree}
    (hlocate : d.locate path = .ok (.found place t)) :
    ∃ t', d'.locate path = .ok (.found place t') ∧
      (t' = t ∨ (t.isDirectory = true ∧ t'.isDirectory = true)) := by
  have shape : SameShape d d' := by
    refine ⟨fun p => ?_, fun p target => ?_, fun p => ?_⟩
    all_goals
      rcases h p with heq | ⟨es, es', hes, hes'⟩
      · rw [heq]
      · simp [hes, hes']
  obtain ⟨hfits, hne, hleads⟩ := leads_of_locateFrom hlocate
  obtain ⟨t', hleads'⟩ := hleads.of_sameShape shape
  have hlocate' := locateFrom_of_leads hfits hne hleads'
  exact ⟨t', hlocate', same_of_locate (h place) hlocate hlocate'⟩

end Locating

/-! ## Disks that look alike -/

/-- Two disks on which paths lead to the same, apart from some that lead to files on one of them, and to
directories with the same names of directories. -/
structure Alike
    (before after : String → Prop)
    (d d' : Disk) : Prop where
  same : ∀ path, ¬ before path → ¬ after path → SameAt d d' path
  isFile_before : ∀ path, before path → d.isFile path = true
  isFile_after : ∀ path, after path → d'.isFile path = true
  directory : ∀ path, d'.isDirectory path = d.isDirectory path
  names : ∀ path name es es', d.list path = .ok es → d'.list path = .ok es' →
    d.isDirectory (join path name) = true → (name ∈ es.map Prod.fst ↔ name ∈ es'.map Prod.fst)

section Alike

variable {d d' : Disk}
variable {before after : String → Prop}

theorem Alike.symm
    (h : Alike before after d d') :
    Alike after before d' d := by
  refine ⟨fun path hafter hbefore => (h.same path hbefore hafter).symm, h.isFile_after, h.isFile_before,
    fun path => (h.directory path).symm, fun path name es es' hes hes' hname => ?_⟩
  rw [h.directory] at hname
  exact (h.names path name es' es hes' hes hname).symm

/-- A file stays, or another file comes, where a path is none of those that lead elsewhere at first. -/
theorem Alike.isFile_of_not
    {path : String}
    (h : Alike before after d d')
    (hfile : d.isFile path = true)
    (hnot : ¬ before path) :
    d'.isFile path = true := by
  by_cases hafter : after path
  · exact h.isFile_after path hafter
  · exact (h.same path hnot hafter).isFile_eq.trans hfile

/-- A path that leads to a directory leads to a directory in the same place on another disk. -/
def KeepsDirectories (d d' : Disk) : Prop :=
  ∀ path place es, d.locate path = .ok (.found place (.directory es)) →
    ∃ t', d'.locate path = .ok (.found place t') ∧ t'.isDirectory = true

/-- What a path leads to it leads to on another disk, or it is one of some and leads to no directory. -/
def Carries
    (apart : String → Prop)
    (d d' : Disk) : Prop :=
  ∀ path place t, d.locate path = .ok (.found place t) →
    (∃ t', d'.locate path = .ok (.found place t') ∧
        (t' = t ∨ (t.isDirectory = true ∧ t'.isDirectory = true))) ∨
      (apart path ∧ t.isDirectory = false)

theorem Carries.keepsDirectories
    (h : Carries before d d') :
    KeepsDirectories d d' := by
  intro path place es hlocate
  rcases h path place _ hlocate with ⟨t', ht', rfl | ⟨-, hdirectory⟩⟩ | ⟨-, hfile⟩
  · exact ⟨_, ht', rfl⟩
  · exact ⟨t', ht', hdirectory⟩
  · cases hfile

theorem isDirectory_eq_of_keeps
    (kept : KeepsDirectories d d')
    (old : KeepsDirectories d' d)
    (path : String) :
    d'.isDirectory path = d.isDirectory path := by
  rw [Bool.eq_iff_iff, isDirectory_iff, isDirectory_iff]
  constructor
  · rintro ⟨place, es, h⟩
    obtain ⟨t, ht, hdirectory⟩ := old path place es h
    obtain ⟨es', rfl⟩ := FileTree.isDirectory_iff.mp hdirectory
    exact ⟨place, es', ht⟩
  · rintro ⟨place, es, h⟩
    obtain ⟨t, ht, hdirectory⟩ := kept path place es h
    obtain ⟨es', rfl⟩ := FileTree.isDirectory_iff.mp hdirectory
    exact ⟨place, es', ht⟩

/-- A directory keeps its names where every place that was taken is. -/
theorem names_of_taken
    (kept : KeepsDirectories d d')
    {path name : String}
    (taken : ∀ place es, d.locate path = .ok (.found place (.directory es)) →
      ((∃ t, d.get? (place ++ [name]) = some t) ↔ ∃ t, d'.get? (place ++ [name]) = some t))
    {es es' : List (String × FileTree)}
    (h : d.list path = .ok es)
    (h' : d'.list path = .ok es') :
    name ∈ es.map Prod.fst ↔ name ∈ es'.map Prod.fst := by
  obtain ⟨place, hlocate⟩ := list_eq_ok_iff.mp h
  obtain ⟨place', hlocate'⟩ := list_eq_ok_iff.mp h'
  obtain ⟨t', hback, -⟩ := kept path place es hlocate
  rw [hback] at hlocate'
  cases hlocate'
  have hbefore := FileTree.get?_entry (get?_of_locate hlocate) name
  have hafter := FileTree.get?_entry (get?_of_locate hback) name
  rw [Dict.mem_keys_iff, Dict.mem_keys_iff, ← hbefore, ← hafter]
  exact taken place es hlocate

/-- Disks are alike if each carries over to the other one, and every place in a directory that is taken
stays so, unless its name leads to no directory. -/
theorem Carries.alike
    (kept : Carries before d d')
    (old : Carries after d' d)
    (hbefore : ∀ path, before path → d.isFile path = true)
    (hafter : ∀ path, after path → d'.isFile path = true)
    (taken : ∀ path place es name, d.locate path = .ok (.found place (.directory es)) →
      d.isDirectory (join path name) = true →
      ((∃ t, d.get? (place ++ [name]) = some t) ↔ ∃ t, d'.get? (place ++ [name]) = some t)) :
    Alike before after d d' := by
  refine ⟨fun path hnot hnot' => ⟨fun place t hlocate => ?_, fun place t hlocate => ?_⟩, hbefore, hafter,
    isDirectory_eq_of_keeps kept.keepsDirectories old.keepsDirectories,
    fun path name es es' hes hes' hname => names_of_taken kept.keepsDirectories
      (fun place es hlocate => taken path place es name hlocate hname) hes hes'⟩
  · exact (kept path place t hlocate).resolve_right fun h => hnot h.1
  · obtain ⟨t', ht', -⟩ := (old path place t hlocate).resolve_right fun h => hnot' h.1
    exact ⟨t', ht'⟩

/-- In whatever order directories list their entries, all paths lead to the same. -/
theorem alike_of_relisted
    (h : FileTree.Relisted d d') :
    Alike (fun _ => False) (fun _ => False) d d' := by
  have hback (p : Place) : FileTree.Resembles (d'.get? p) (d.get? p) := (h.resembles p).symm
  have kept : Carries (fun _ => False) d d' :=
    fun _ _ _ hlocate => Or.inl (locate_of_resembles h.resembles hlocate)
  have old : Carries (fun _ => False) d' d :=
    fun _ _ _ hlocate => Or.inl (locate_of_resembles hback hlocate)
  exact kept.alike old (fun _ => False.elim) (fun _ => False.elim) fun path place es name _ _ =>
    (h.resembles (place ++ [name])).exists_iff

end Alike

/-! ## A file that is changed -/

/-- An entry of a directory by which a path leads to a file. -/
structure Entrance
    (d : Disk)
    (path : String)
    (parent : Place)
    (name : List Char) : Prop where
  room : Room d parent name
  taken : ∃ t, d.get? (parent ++ [String.ofList name]) = some t
  through : ∀ left place t, Leads d true left parent [name] (.found place t) →
    d.locate path = .ok (.found place t)
  file : d.isFile path = true

namespace Entrance

variable {d : Disk}
variable {path path' : String}
variable {parent place : Place}
variable {name : List Char}
variable {new t : FileTree}

/-- When something is put in the place of the entry, other paths lead where they led. -/
theorem locate_put
    (h : Entrance d path parent name)
    (hnew : new.isLink = false)
    (hlocate : d.locate path' = .ok (.found place t)) :
    (place ≠ parent ++ [String.ofList name] ∧
      ∃ t', locate (d.put (parent ++ [String.ofList name]) new) path' = .ok (.found place t') ∧
        (t' = t ∨ (t.isDirectory = true ∧ t'.isDirectory = true))) ∨
      (d.SharesFile path path' ∧ t.isDirectory = false) := by
  rcases h.room.locate_put hnew hlocate with hkept | ⟨-, left, hleads⟩
  · exact Or.inl hkept
  · have hpath := h.through left place t hleads
    refine Or.inr ⟨⟨place, place, t, t, hpath, hlocate, Or.inl rfl⟩, ?_⟩
    obtain ⟨place', content, traits, hfile⟩ := isFile_iff.mp h.file
    rw [hpath] at hfile
    cases hfile
    rfl

/-- Where other paths lead afterwards, they led before. -/
theorem locate_of_put
    (h : Entrance d path parent name)
    (hdirectory : new.isDirectory = false)
    (hnew : new.isLink = false)
    (hlocate : locate (d.put (parent ++ [String.ofList name]) new) path' = .ok (.found place t))
    (hother : place ≠ parent ++ [String.ofList name]) :
    ∃ t', d.locate path' = .ok (.found place t') ∧
      (t' = t ∨ (t.isDirectory = true ∧ t'.isDirectory = true)) := by
  obtain ⟨hfits, hne, hleads⟩ := leads_of_locateFrom hlocate
  obtain ⟨t', hleads'⟩ := hleads.of_put h.room hdirectory hnew hother
  obtain ⟨es, hes⟩ := h.room.around
  have hplace := FileTree.resembles_put hes h.room.file hdirectory hother
  have hlocate' := locateFrom_of_leads hfits hne hleads'
  exact ⟨t', hlocate', same_of_locate hplace.symm hlocate hlocate'⟩

/-- A file is put in the place of the entry. -/
theorem alike_put
    {c : Content}
    {traits : Traits}
    (h : Entrance d path parent name)
    (here : locate (d.put (parent ++ [String.ofList name]) (.file c traits)) path =
      .ok (.found (parent ++ [String.ofList name]) (.file c traits))) :
    Alike (d.SharesFile path)
      (SharesFile (d.put (parent ++ [String.ofList name]) (.file c traits)) path)
      d (d.put (parent ++ [String.ofList name]) (.file c traits)) := by
  have hdirectory : (FileTree.file c traits).isDirectory = false := rfl
  have hlink : (FileTree.file c traits).isLink = false := rfl
  obtain ⟨around, haround⟩ := h.room.around
  have kept : Carries (d.SharesFile path) d
      (d.put (parent ++ [String.ofList name]) (.file c traits)) :=
    fun path' place t hlocate => (h.locate_put hlink hlocate).imp_left And.right
  have old : Carries (SharesFile (d.put (parent ++ [String.ofList name]) (.file c traits)) path)
      (d.put (parent ++ [String.ofList name]) (.file c traits)) d := by
    intro path' place t hlocate
    by_cases hentry : place = parent ++ [String.ofList name]
    · subst hentry
      refine Or.inr ⟨⟨_, _, _, _, here, hlocate, Or.inl rfl⟩, ?_⟩
      have hput := (get?_of_locate hlocate).symm.trans (h.room.get?_put (.file c traits))
      cases hput
      rfl
    · exact Or.inl (h.locate_of_put hdirectory hlink hlocate hentry)
  refine kept.alike old (fun path' hshares => hshares.isFile fun _ _ => isFile_of_locate h.file)
    (fun path' hshares => hshares.isFile fun place t hlocate => ?_) fun path' place es last _ _ => ?_
  · rw [here] at hlocate
    cases hlocate
    rfl
  · by_cases hentry : place ++ [last] = parent ++ [String.ofList name]
    · rw [hentry, h.room.get?_put]
      exact iff_of_true h.taken ⟨_, rfl⟩
    · exact (FileTree.resembles_put haround h.room.file hdirectory hentry).exists_iff

/-- Where the entry has been taken away there is room for it. -/
theorem room_erase
    (h : Entrance d path parent name) :
    Room (d.erase (parent ++ [String.ofList name])) parent name := by
  obtain ⟨es, hes⟩ := h.room.around
  have hgone := @FileTree.get?_erase d parent es (String.ofList name) hes
  have hne : parent ≠ parent ++ [String.ofList name] := by simp
  refine ⟨h.room.named, ?_, fun es' => by simp [hgone], fun target => by simp [hgone]⟩
  rcases FileTree.resembles_erase hes h.room.file hne with heq | ⟨es₁, es₂, -, hes₂⟩
  · exact ⟨es, heq ▸ hes⟩
  · exact ⟨es₂, hes₂⟩

/-- With a file in its place it does not matter whether the entry has been taken away. -/
theorem resembles_put_erase
    (h : Entrance d path parent name)
    (hdirectory : new.isDirectory = false)
    (p : Place) :
    FileTree.Resembles ((d.put (parent ++ [String.ofList name]) new).get? p)
      (((d.erase (parent ++ [String.ofList name])).put (parent ++ [String.ofList name]) new).get? p) := by
  obtain ⟨es, hes⟩ := h.room.around
  obtain ⟨es', hes'⟩ := h.room_erase.around
  by_cases hentry : p = parent ++ [String.ofList name]
  · rw [hentry, h.room.get?_put, h.room_erase.get?_put]
    exact Or.inl rfl
  · have hput := FileTree.resembles_put hes h.room.file hdirectory hentry
    have herase := FileTree.resembles_erase hes h.room.file hentry
    have hback := FileTree.resembles_put hes' h.room_erase.file hdirectory hentry
    exact hput.symm.trans (herase.trans hback)

/-- When the entry has been taken away, other paths lead where they led. A file stands in for it while
this is shown. -/
theorem locate_erase
    (h : Entrance d path parent name)
    (hlocate : d.locate path' = .ok (.found place t)) :
    (∃ t', locate (d.erase (parent ++ [String.ofList name])) path' = .ok (.found place t') ∧
        (t' = t ∨ (t.isDirectory = true ∧ t'.isDirectory = true))) ∨
      (d.SharesFile path path' ∧ t.isDirectory = false) := by
  obtain ⟨es, hes⟩ := h.room.around
  have hdirectory : (FileTree.file (.text "") .plain).isDirectory = false := rfl
  have hlink : (FileTree.file (.text "") .plain).isLink = false := rfl
  rcases h.locate_put hlink hlocate with ⟨hne, t₁, hput, -⟩ | hshares
  · obtain ⟨t₂, hboth, -⟩ := locate_of_resembles (h.resembles_put_erase hdirectory) hput
    obtain ⟨hfits, hnil, hleads⟩ := leads_of_locateFrom hboth
    obtain ⟨t₃, hleads'⟩ := hleads.of_put h.room_erase hdirectory hlink hne
    have hlocate' := locateFrom_of_leads hfits hnil hleads'
    have hplace := FileTree.resembles_erase hes h.room.file hne
    exact Or.inl ⟨t₃, hlocate', same_of_locate hplace hlocate hlocate'⟩
  · exact Or.inr hshares

/-- Where paths lead without the entry, they led before. -/
theorem locate_of_erase
    (h : Entrance d path parent name)
    (hlocate : locate (d.erase (parent ++ [String.ofList name])) path' = .ok (.found place t)) :
    ∃ t', d.locate path' = .ok (.found place t') ∧
      (t' = t ∨ (t.isDirectory = true ∧ t'.isDirectory = true)) := by
  obtain ⟨es, hes⟩ := h.room.around
  obtain ⟨es', hes'⟩ := h.room_erase.around
  have hgone := @FileTree.get?_erase d parent es (String.ofList name) hes
  have hdirectory : (FileTree.file (.text "") .plain).isDirectory = false := rfl
  have hlink : (FileTree.file (.text "") .plain).isLink = false := rfl
  rcases h.room_erase.locate_put hlink hlocate with ⟨hne, t₁, hput, -⟩ | ⟨-, left, hleads⟩
  · have hback (p : Place) := (h.resembles_put_erase hdirectory p).symm
    obtain ⟨t₂, hboth, -⟩ := locate_of_resembles hback hput
    obtain ⟨t₃, hlocate', -⟩ := h.locate_of_put hdirectory hlink hboth hne
    have hplace := FileTree.resembles_erase hes h.room.file hne
    exact ⟨t₃, hlocate', same_of_locate hplace.symm hlocate hlocate'⟩
  · have hfollow := hleads.follow_eq
    rw [follow_missing hes' h.room.named hgone] at hfollow
    cases hfollow

/-- No name leads by the entry to a directory. -/
theorem isDirectory_join
    {last : String}
    {es : List (String × FileTree)}
    (h : Entrance d path parent name)
    (hlast : IsPlainName last)
    (hname : last.toList = name)
    (hlocate : d.locate path' = .ok (.found parent (.directory es))) :
    d.isDirectory (join path' last) = false := by
  rw [Bool.eq_false_iff, Ne, isDirectory_iff]
  rintro ⟨place, es', hjoin⟩
  obtain ⟨parent', hreaches⟩ := exists_reaches_of_locateFrom hlast hjoin
  obtain rfl := hreaches.into.eq_of_locate hlocate
  obtain ⟨left, hfollow⟩ := hreaches.exists_locateFrom true
  rw [show d.locateFrom [] true (join path' last) = _ from hjoin, hname] at hfollow
  have hpath := h.through left _ _ (leads_of_follow hfollow.symm)
  have hfile := isDirectory_of_isFile h.file
  rw [Bool.eq_false_iff, Ne, isDirectory_iff] at hfile
  exact hfile ⟨_, _, hpath⟩

/-- The entry is taken away. -/
theorem alike_erase
    {last : String}
    (h : Entrance d path parent name)
    (hlast : IsPlainName last)
    (hname : last.toList = name) :
    Alike (d.SharesFile path) (SharesFile (d.erase (parent ++ [String.ofList name])) path)
      d (d.erase (parent ++ [String.ofList name])) := by
  obtain ⟨around, haround⟩ := h.room.around
  have kept : Carries (d.SharesFile path) d (d.erase (parent ++ [String.ofList name])) :=
    fun path' place t hlocate => h.locate_erase hlocate
  have old : Carries (SharesFile (d.erase (parent ++ [String.ofList name])) path)
      (d.erase (parent ++ [String.ofList name])) d :=
    fun path' place t hlocate => Or.inl (h.locate_of_erase hlocate)
  refine kept.alike old (fun path' hshares => hshares.isFile fun _ _ => isFile_of_locate h.file)
    (fun path' hshares => hshares.isFile fun place t hlocate => ?_)
    fun path' place es other hlocate hdirectory => ?_
  · obtain ⟨t', ht', rfl | ⟨-, hdirectory⟩⟩ := h.locate_of_erase hlocate
    · exact isFile_of_locate h.file ht'
    · have hfile := isFile_of_locate h.file ht'
      obtain ⟨es, rfl⟩ := FileTree.isDirectory_iff.mp hdirectory
      cases hfile
  · have hentry : place ++ [other] ≠ parent ++ [String.ofList name] := by
      intro heq
      obtain ⟨rfl, hother⟩ := List.append_inj' heq rfl
      obtain rfl : other = last := by
        rw [← hname, String.ofList_toList] at hother
        exact List.singleton_inj.mp hother
      rw [h.isDirectory_join hlast hname hlocate] at hdirectory
      cases hdirectory
    exact (FileTree.resembles_erase haround h.room.file hentry).exists_iff

end Entrance

/-- What may happen to a file by a path: it is written, another file is put in the place of its entry, or
the entry is taken away. -/
inductive FileChanged (d : Disk) (path : String) : Disk → Prop where
  | written
      {c : Content}
      {d' : Disk}
      (h : d.write path c = .ok d') :
      FileChanged d path d'
  | replaced
      {place : Place}
      {t : FileTree}
      {c : Content}
      {traits : Traits}
      (here : d.locateEntry path = .ok (.found place t)) :
      FileChanged d path (d.put place (.file c traits))
  | removed
      {place : Place}
      {t : FileTree}
      (here : d.locateEntry path = .ok (.found place t)) :
      FileChanged d path (d.erase place)

section Changed

variable {d d' : Disk}
variable {base name : String}
variable {parent : Place}

/-- A path below a directory that leads to a file does so by the entry of its name. -/
theorem Reaches.entrance
    {place : Place}
    {content : Content}
    {traits : Traits}
    (h : d.Reaches base name parent)
    (hlocate : d.locate (join base name) = .ok (.found place (.file content traits))) :
    Entrance d (join base name) parent name.toList := by
  obtain ⟨es, hes⟩ := h.into.stop
  obtain ⟨left, hfollow⟩ := h.exists_locateFrom true
  rw [show d.locateFrom [] true (join base name) = _ from hlocate] at hfollow
  have hentry : String.ofList name.toList = name := String.ofList_toList
  refine ⟨⟨h.named, ⟨es, hes⟩, fun es' hes' => ?_, fun target hlink links rest q henters => ?_⟩, ?_,
    fun links place' t hleads => ?_, isFile_iff.mpr ⟨place, content, traits, hlocate⟩⟩
  · rw [hentry] at hes'
    rw [h.locate_of_found hes' rfl] at hlocate
    cases hlocate
  · -- The file is not a directory, so no walk passes a link that leads to it.
    cases left with
    | zero =>
        rw [follow_named hes h.named, hlink] at hfollow
        cases hfollow
    | succ left =>
        rw [follow_link hes h.named hlink (Or.inl rfl), List.append_nil] at hfollow
        obtain ⟨es', hspot⟩ := henters.eq_of_follow hfollow.symm
        cases hspot
  · rw [hentry]
    cases hmissing : d.get? (parent ++ [name]) with
    | some t => exact ⟨t, rfl⟩
    | none =>
        rw [show d.locate (join base name) = _ from h.locateFrom_of_missing hmissing true] at hlocate
        cases hlocate
  · rw [hlocate, hleads.eq_of_follow hfollow.symm]

/-- A path below a directory leads to the entry of its name, if the entry itself is meant. -/
theorem Reaches.eq_of_locateEntry
    {place : Place}
    {t : FileTree}
    (h : d.Reaches base name parent)
    (hlocate : d.locateEntry (join base name) = .ok (.found place t)) :
    place = parent ++ [name] := by
  obtain ⟨es, hes⟩ := h.into.stop
  obtain ⟨left, hfollow⟩ := h.exists_locateFrom false
  rw [show d.locateFrom [] false (join base name) = _ from hlocate] at hfollow
  have hentry : String.ofList name.toList = name := String.ofList_toList
  cases hfound : d.get? (parent ++ [String.ofList name.toList]) with
  | none =>
      rw [follow_missing hes h.named hfound] at hfollow
      cases hfollow
  | some u =>
      cases hlink : u.isLink with
      | false =>
          rw [follow_down hes h.named hfound hlink, follow_nil hfound] at hfollow
          cases hfollow
          rw [hentry]
      | true =>
          obtain ⟨target, rfl⟩ : ∃ target, u = .link target := by
            cases u <;> simp [FileTree.isLink] at hlink ⊢
          rw [follow_lastLink hes h.named hfound] at hfollow
          cases hfollow
          rw [hentry]

/-- A file is written by a path that leads to it. -/
theorem alike_of_write
    {path : String}
    {c : Content}
    (hfile : d.isFile path = true)
    (h : d.write path c = .ok d') :
    Alike (d.SharesFile path) (d'.SharesFile path) d d' := by
  obtain ⟨place, content, traits, hlocate⟩ := isFile_iff.mp hfile
  cases written_of_write h with
  | device here =>
      rw [hlocate] at here
      cases here
  | @twins place' old traits' twin here names =>
      have shape := sameShape_rewriteTwins twin c d
      have kept : KeepsDirectories d (FileTree.rewriteTwins twin c d) :=
        fun path' q es hlocate' => ⟨_, locate_rewriteTwins hlocate' twin c, rfl⟩
      have old : KeepsDirectories (FileTree.rewriteTwins twin c d) d := by
        intro path' q es hlocate'
        obtain ⟨hfits, hne, hleads⟩ := leads_of_locateFrom hlocate'
        obtain ⟨t, ht⟩ := hleads.of_sameShape shape.symm
        obtain ⟨es', hes'⟩ := (shape.directory q).mpr ⟨es, hleads.get?_eq⟩
        obtain rfl : t = .directory es' := Option.some.inj (ht.get?_eq.symm.trans hes')
        exact ⟨_, locateFrom_of_leads hfits hne ht, rfl⟩
      refine ⟨fun path' _ hafter => (written_of_write h).sameAt hafter,
        fun path' hshares => hshares.isFile fun _ _ => isFile_of_locate hfile,
        fun path' hshares => hshares.isFile fun q t hlocate' => ?_,
        isDirectory_eq_of_keeps kept old, fun path' name es es' hes hes' _ =>
          names_of_taken kept (fun q es _ => shape.taken _) hes hes'⟩
      rw [locate_rewriteTwins here twin c] at hlocate'
      cases hlocate'
      rw [FileTree.rewriteTwins, if_pos names]
      rfl
  | @put parent name traits' room alone old here =>
      obtain ⟨rfl, content', hcontent⟩ := old _ _ hlocate
      cases hcontent
      have hfound := get?_of_locate hlocate
      obtain ⟨es, hes⟩ := room.around
      have entrance : Entrance d path parent name := by
        refine ⟨room, ⟨_, hfound⟩, fun left q t hleads => ?_, hfile⟩
        have hfollow := hleads.follow_eq
        rw [follow_down hes room.named hfound rfl, follow_nil hfound] at hfollow
        rw [hlocate, hfollow]
      exact entrance.alike_put here

/-- When a file is changed, the paths that lead elsewhere are those that share it, before or afterwards. -/
theorem alike_of_fileChanged
    (hname : IsPlainName name)
    (hfile : d.isFile (join base name) = true)
    (h : FileChanged d (join base name) d') :
    Alike (d.SharesFile (join base name)) (d'.SharesFile (join base name)) d d' := by
  obtain ⟨place, content, traits, hlocate⟩ := isFile_iff.mp hfile
  obtain ⟨parent, hreaches⟩ := exists_reaches_of_locateFrom hname hlocate
  have entrance := hreaches.entrance hlocate
  have hentry : String.ofList name.toList = name := String.ofList_toList
  cases h with
  | written hwrite => exact alike_of_write hfile hwrite
  | @replaced place' t c traits' here =>
      obtain rfl := hreaches.eq_of_locateEntry here
      have hends := endsIn_join hreaches.named hreaches.plain base
      obtain ⟨left, hwalk⟩ := leadsInto_iff.mp hreaches.into
      have hlink : (FileTree.file c traits').isLink = false := rfl
      have halike := entrance.alike_put
        (entrance.room.locate_put_self hends hreaches.fits hwalk hlink)
      rwa [hentry] at halike
  | @removed place' t here =>
      obtain rfl := hreaches.eq_of_locateEntry here
      have halike := entrance.alike_erase hname rfl
      rwa [hentry] at halike

end Changed

end Disk
end Runbook
