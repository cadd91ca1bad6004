import Runbook.Proofs.Files.Writing

/-!
# Paths that share a file

Two paths share a file when they lead to one place, or to two names of one file. What is written by a path
is seen by the paths that share its file then. By any other path the same is seen as before. Paths that
share a file go on to do so, and ways into directories stay.

A write that changes no file, since there was room for nothing else, leaves what all paths lead to.

Main statements: `Written.sameAt`, `Written.sharesFile`, `Written.leadsInto` and `Written.sameAt_of_hasFile`.
-/

namespace Runbook

/-- The number that all names of a file have, when it has several. -/
def FileTree.twin? : FileTree → Option Nat
  | .file _ traits => traits.twin
  | _ => none

namespace Disk

/-- Two paths lead to one place, or to two names of one file. -/
def SharesFile
    (d : Disk)
    (path path' : String) : Prop :=
  ∃ place place' t t', d.locate path = .ok (.found place t) ∧
    d.locate path' = .ok (.found place' t') ∧
    (place' = place ∨ (t.twin?.isSome ∧ t'.twin? = t.twin?))

/-- A path leads to the same on two disks, a directory perhaps with other entries, or to nothing on both
of them. -/
structure SameAt
    (d d' : Disk)
    (path : String) : Prop where
  kept : ∀ place t, d.locate path = .ok (.found place t) →
    ∃ t', d'.locate path = .ok (.found place t') ∧
      (t' = t ∨ (t.isDirectory = true ∧ t'.isDirectory = true))
  old : ∀ place t', d'.locate path = .ok (.found place t') →
    ∃ t, d.locate path = .ok (.found place t)

section Sharing

variable {d d' : Disk}
variable {path path' : String}
variable {c : Content}

section Putting

variable {parent : Place}
variable {name : List Char}
variable {new : FileTree}

/-- Where a directory is after something else has been put somewhere, one was before. -/
theorem Room.exists_directory_of_put
    (room : Room d parent name)
    (hdirectory : new.isDirectory = false)
    {p : Place}
    {es : List (String × FileTree)}
    (h : (d.put (parent ++ [String.ofList name]) new).get? p = some (.directory es)) :
    ∃ es', d.get? p = some (.directory es') := by
  obtain ⟨around, haround⟩ := room.around
  have hne : p ≠ parent ++ [String.ofList name] := by
    rintro rfl
    obtain rfl : new = .directory es := Option.some.inj ((room.get?_put new).symm.trans h)
    cases hdirectory
  obtain ⟨t, ht, rfl | ⟨hdir, -⟩⟩ := FileTree.exists_get?_of_put haround hdirectory hne h
  · exact ⟨es, ht⟩
  · obtain ⟨es', rfl⟩ := FileTree.isDirectory_iff.mp hdir
    exact ⟨es', ht⟩

/-- What is no link elsewhere was none before. -/
theorem Room.exists_plain_of_put
    (room : Room d parent name)
    (hdirectory : new.isDirectory = false)
    {p : Place}
    {t : FileTree}
    (hne : p ≠ parent ++ [String.ofList name])
    (h : (d.put (parent ++ [String.ofList name]) new).get? p = some t)
    (plain : t.isLink = false) :
    ∃ t', d.get? p = some t' ∧ t'.isLink = false := by
  obtain ⟨around, haround⟩ := room.around
  obtain ⟨t', ht', rfl | ⟨hdir, -⟩⟩ := FileTree.exists_get?_of_put haround hdirectory hne h
  · exact ⟨t, ht', plain⟩
  · exact ⟨t', ht', FileTree.isLink_of_isDirectory hdir⟩

/-- Every link was there before, unless one has been put there. -/
theorem Room.get?_link_of_put
    (room : Room d parent name)
    (hdirectory : new.isDirectory = false)
    (hnew : new.isLink = false)
    {p : Place}
    {target : String}
    (h : (d.put (parent ++ [String.ofList name]) new).get? p = some (.link target)) :
    d.get? p = some (.link target) := by
  obtain ⟨around, haround⟩ := room.around
  have hne : p ≠ parent ++ [String.ofList name] := by
    rintro rfl
    obtain rfl : new = .link target := Option.some.inj ((room.get?_put new).symm.trans h)
    cases hnew
  obtain ⟨t, ht, rfl | ⟨-, htarget⟩⟩ := FileTree.exists_get?_of_put haround hdirectory hne h
  · exact ht
  · cases htarget

/-- From what is no directory parts lead nowhere else. -/
theorem Leads.eq_of_not_directory
    {final : Bool}
    {links : Nat}
    {p q : Place}
    {parts : List (List Char)}
    {u : FileTree}
    (h : Leads d final links p parts (.found q u))
    (hp : ∀ es, d.get? p ≠ some (.directory es)) :
    q = p := by
  cases h with
  | here here => rfl
  | stay here => exact absurd here (hp _)
  | up here => exact absurd here (hp _)
  | down here => exact absurd here (hp _)
  | link here => exact absurd here (hp _)
  | lastLink here => exact absurd here (hp _)

/-- What parts lead to after something without places below it has been put somewhere, they led to before,
unless it is that. -/
theorem Leads.of_put
    {links : Nat}
    {p q : Place}
    {parts : List (List Char)}
    {u : FileTree}
    (room : Room d parent name)
    (hdirectory : new.isDirectory = false)
    (hnew : new.isLink = false)
    (h : Leads (d.put (parent ++ [String.ofList name]) new) true links p parts (.found q u))
    (hother : q ≠ parent ++ [String.ofList name]) :
    ∃ u', Leads d true links p parts (.found q u') := by
  generalize hspot : Spot.found q u = spot at h
  induction h with
  | here here =>
      cases hspot
      obtain ⟨around, haround⟩ := room.around
      obtain ⟨u', hu', -⟩ := FileTree.exists_get?_of_put haround hdirectory hother here
      exact ⟨u', .here hu'⟩
  | stay here idle _ ih =>
      obtain ⟨es, hes⟩ := room.exists_directory_of_put hdirectory here
      obtain ⟨u', hu'⟩ := ih hspot
      exact ⟨u', .stay hes idle hu'⟩
  | up here _ ih =>
      obtain ⟨es, hes⟩ := room.exists_directory_of_put hdirectory here
      obtain ⟨u', hu'⟩ := ih hspot
      exact ⟨u', .up hes hu'⟩
  | @down links p es part rest t spot here named found plain behind ih =>
      obtain ⟨es', hes⟩ := room.exists_directory_of_put hdirectory here
      obtain ⟨u', hu'⟩ := ih hspot
      have hne : p ++ [String.ofList part] ≠ parent ++ [String.ofList name] := by
        -- Nothing is behind what has been put there.
        intro hentry
        subst hspot
        refine hother ((behind.eq_of_not_directory fun es heq => ?_).trans hentry)
        rw [hentry, room.get?_put, Option.some.injEq] at heq
        subst heq
        cases hdirectory
      obtain ⟨t', ht', hplain⟩ := room.exists_plain_of_put hdirectory hne found plain
      exact ⟨u', .down hes named ht' hplain hu'⟩
  | link here named found meant _ ih =>
      obtain ⟨es, hes⟩ := room.exists_directory_of_put hdirectory here
      obtain ⟨u', hu'⟩ := ih hspot
      exact ⟨u', .link hes named (room.get?_link_of_put hdirectory hnew found) meant hu'⟩
  | lastLink here named found itself => cases itself
  | free here named missing last => cases hspot

end Putting

theorem SameAt.refl
    (d : Disk)
    (path : String) :
    SameAt d d path :=
  ⟨fun _ t h => ⟨t, h, Or.inl rfl⟩, fun _ t h => ⟨t, h⟩⟩

/-- Rewriting a file under all its names leaves everything else. -/
theorem rewriteTwins_cases
    (twin : Nat)
    (c : Content)
    (t : FileTree) :
    t.twin? = some twin ∨ FileTree.rewriteTwins twin c t = t ∨
      (t.isDirectory = true ∧ (FileTree.rewriteTwins twin c t).isDirectory = true) := by
  cases t with
  | file content traits =>
      by_cases htwin : traits.twin = some twin
      · exact Or.inl htwin
      · exact Or.inr (Or.inl (by rw [FileTree.rewriteTwins, if_neg htwin]))
  | directory es => exact Or.inr (Or.inr ⟨rfl, rfl⟩)
  | link target => exact Or.inr (Or.inl rfl)
  | device kind => exact Or.inr (Or.inl rfl)

@[simp] theorem twin?_rewriteTwins
    (twin : Nat)
    (c : Content)
    (t : FileTree) :
    (FileTree.rewriteTwins twin c t).twin? = t.twin? := by
  cases t <;> rfl

/-- Paths that do not share the file which has been written lead where they led. -/
theorem Written.sameAt
    (h : Written d path c d')
    (apart : ¬ d'.SharesFile path path') :
    SameAt d d' path' := by
  cases h with
  | device here => exact .refl d path'
  | @twins place old traits twin here names =>
      constructor
      · intro place' t hlocate
        have hlocate' := locate_rewriteTwins hlocate twin c
        refine ⟨_, hlocate', (rewriteTwins_cases twin c t).resolve_left fun htwin => apart ?_⟩
        refine ⟨_, _, _, _, locate_rewriteTwins here twin c, hlocate', Or.inr ?_⟩
        have htwin' : (FileTree.file old traits).twin? = some twin := names
        rw [twin?_rewriteTwins, twin?_rewriteTwins, htwin, htwin']
        exact ⟨rfl, rfl⟩
      · intro place' t' hlocate
        obtain ⟨-, t, -, ht⟩ := (sameShape_rewriteTwins twin c d).symm.exists_locate hlocate
        exact ⟨t, ht⟩
  | @put parent name traits room alone old here =>
      constructor
      · intro place' t hlocate
        have hnew : (FileTree.file c traits).isLink = false := rfl
        rcases room.locate_put hnew hlocate with ⟨-, hkept⟩ | ⟨hself, -⟩
        · exact hkept
        · exact absurd ⟨_, _, _, _, here, hself, Or.inl rfl⟩ apart
      · intro place' t' hlocate
        obtain ⟨hfits, hne, hleads⟩ := leads_of_locateFrom hlocate
        obtain ⟨t, ht⟩ := hleads.of_put room rfl rfl fun hself =>
          apart ⟨_, _, _, _, here, hlocate, Or.inl hself⟩
        exact ⟨t, locateFrom_of_leads hfits hne ht⟩

/-- Paths that share a file share it on a disk that extends the one on which they do. -/
theorem SharesFile.extends
    (h : d.SharesFile path path')
    (hextends : Extends d d') :
    d'.SharesFile path path' := by
  obtain ⟨place, place', t, t', hlocate, hlocate', hsame⟩ := h
  obtain ⟨u, hu, htu⟩ := hextends _ _ _ hlocate
  obtain ⟨u', hu', htu'⟩ := hextends _ _ _ hlocate'
  refine ⟨place, place', u, u', hu, hu', hsame.imp_right fun ⟨hsome, htwin⟩ => ?_⟩
  have hkept {t u : FileTree}
      (htu : u = t ∨ (t.isDirectory = true ∧ u.isDirectory = true))
      (hsome : t.twin?.isSome) :
      u = t := by
    refine htu.resolve_right fun ⟨hdirectory, _⟩ => ?_
    obtain ⟨es, rfl⟩ := FileTree.isDirectory_iff.mp hdirectory
    cases hsome
  rw [hkept htu hsome, hkept htu' (htwin ▸ hsome)]
  exact ⟨hsome, htwin⟩

/-- Paths that share a file do so after a write by one of them. -/
theorem Written.sharesFile
    (h : Written d path c d')
    (shares : d.SharesFile path path') :
    d'.SharesFile path path' := by
  cases h with
  | device here => exact shares
  | @twins place old traits twin here names =>
      obtain ⟨place, place', t, t', hlocate, hlocate', hsame⟩ := shares
      refine ⟨place, place', _, _, locate_rewriteTwins hlocate twin c,
        locate_rewriteTwins hlocate' twin c, ?_⟩
      simpa using hsame
  | @put parent name traits room alone old here =>
      obtain ⟨place, place', t, t', hlocate, hlocate', hsame⟩ := shares
      obtain ⟨rfl, content, rfl⟩ := old _ _ hlocate
      -- The file that is replaced has one name, so both paths lead to its place.
      obtain rfl : place' = parent ++ [String.ofList name] := by
        refine hsame.resolve_right fun ⟨hsome, _⟩ => ?_
        have hnone : (FileTree.file content traits).twin? = none := alone
        rw [hnone] at hsome
        cases hsome
      have hnew : (FileTree.file c traits).isLink = false := rfl
      rcases room.locate_put hnew hlocate' with ⟨hne, -⟩ | ⟨hself, -⟩
      · exact absurd rfl hne
      · exact ⟨_, _, _, _, here, hself, Or.inl rfl⟩

/-- Ways into directories stay when a file is written. -/
theorem Written.leadsInto
    {base : String}
    {q : Place}
    (h : Written d path c d')
    (hinto : d.LeadsInto base q) :
    d'.LeadsInto base q := by
  obtain ⟨left, hwalk⟩ := hinto
  cases h with
  | device here => exact ⟨left, hwalk⟩
  | twins here names => exact ⟨left, hwalk.of_sameShape (sameShape_rewriteTwins _ _ _)⟩
  | put room alone old here =>
      obtain ⟨es, hes⟩ := room.around
      exact ⟨left, hwalk.put hes room.file room.blind _⟩

/-! ## Writes that change nothing -/

/-- A file in the place of a file leaves the shape of the disk. -/
theorem Room.sameShape_put
    {parent : Place}
    {name : List Char}
    {content content' : Content}
    {traits traits' : Traits}
    (room : Room d parent name)
    (h : d.get? (parent ++ [String.ofList name]) = some (.file content traits)) :
    SameShape d (d.put (parent ++ [String.ofList name]) (.file content' traits')) := by
  refine ⟨fun p => ⟨?_, ?_⟩, fun p target => ⟨fun hlink => ?_, ?_⟩, fun p => ?_⟩
  · rintro ⟨es, hes⟩
    exact room.exists_directory_put hes _
  · rintro ⟨es, hes⟩
    exact room.exists_directory_of_put rfl hes
  · refine room.get?_put_link ?_ hlink _
    rintro rfl
    rw [h] at hlink
    cases hlink
  · exact room.get?_link_of_put rfl rfl
  · obtain ⟨around, haround⟩ := room.around
    by_cases hp : p = parent ++ [String.ofList name]
    · subst hp
      exact ⟨fun _ => ⟨_, room.get?_put _⟩, fun _ => ⟨_, h⟩⟩
    · constructor
      · rintro ⟨t, ht⟩
        obtain ⟨t', ht', -⟩ := room.exists_get?_put hp ht _
        exact ⟨t', ht'⟩
      · rintro ⟨t', ht'⟩
        obtain ⟨t, ht, -⟩ := FileTree.exists_get?_of_put haround rfl hp ht'
        exact ⟨t, ht⟩

/-- Where a write changes no file, all paths lead to what they led to. -/
theorem Written.sameAt_of_hasFile
    (h : Written d path c d')
    (hfiles : ∀ place content, d'.HasFile place content ↔ d.HasFile place content)
    (path' : String) :
    SameAt d d' path' := by
  cases h with
  | device here => exact .refl d path'
  | @twins place old traits twin here names =>
      have shape := sameShape_rewriteTwins twin c d
      refine ⟨fun place' t hlocate => ?_, fun place' t' hlocate => ?_⟩
      · refine ⟨_, locate_rewriteTwins hlocate twin c, ?_⟩
        rcases rewriteTwins_cases twin c t with htwin | hkept
        · -- The file has been given the content that it had.
          cases t with
          | file content known =>
              have hknown : known.twin = some twin := htwin
              obtain ⟨hplace, t', hplace', -⟩ := shape.exists_locate hlocate
              have hnew := get?_rewriteTwins twin c d place'
              rw [hplace, Option.map_some, FileTree.rewriteTwins, if_pos hknown] at hnew
              obtain ⟨known', hold⟩ := (hfiles place' c).mp ⟨known, hnew⟩
              rw [hplace] at hold
              cases hold
              rw [FileTree.rewriteTwins, if_pos hknown]
              exact Or.inl rfl
          | directory es => cases htwin
          | link target => cases htwin
          | device kind => cases htwin
        · exact hkept
      · obtain ⟨-, t, -, ht⟩ := shape.symm.exists_locate hlocate
        exact ⟨t, ht⟩
  | @put parent name traits room alone old here =>
      obtain ⟨traits', hold⟩ := (hfiles _ c).mp ⟨traits, room.get?_put _⟩
      have shape : SameShape d (d.put (parent ++ [String.ofList name]) (.file c traits)) :=
        room.sameShape_put hold
      obtain rfl : traits' = traits := by
        obtain ⟨-, t, ht, hback⟩ := shape.symm.exists_locate here
        obtain ⟨-, content, rfl⟩ := old _ _ hback
        rw [hold] at ht
        cases ht
        rfl
      refine ⟨fun place' t hlocate => ?_, fun place' t' hlocate => ?_⟩
      · obtain ⟨hplace, t', hplace', hlocate'⟩ := shape.exists_locate hlocate
        refine ⟨t', hlocate', ?_⟩
        by_cases hself : place' = parent ++ [String.ofList name]
        · subst hself
          rw [hold] at hplace
          rw [room.get?_put] at hplace'
          exact Or.inl (Option.some.inj (hplace'.symm.trans hplace))
        · obtain ⟨t'', ht'', hsame⟩ := room.exists_get?_put hself hplace (.file c traits')
          obtain rfl : t'' = t' := Option.some.inj (ht''.symm.trans hplace')
          exact hsame
      · obtain ⟨-, t, -, ht⟩ := shape.symm.exists_locate hlocate
        exact ⟨t, ht⟩

end Sharing

end Disk
end Runbook
