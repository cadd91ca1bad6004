import Mathlib.Data.String.Basic
import Runbook.Proofs.Files.Ways
import Runbook.Proofs.Text.Lines

/-!
# Replacing a file that can be read

A file is read through all links of its path, and replaced in two steps: the directory around it is
made sure of, by another path, and the new file takes the place of the entry, which may be a link.
Where a path ends in a name and can be read, both steps meet at one place. The replacement succeeds,
the new text is read back, and another replacement takes its place.

Main statement: `exists_place_of_readText`.
-/

namespace Runbook

/-! ## The directory around a path -/

namespace Path

open Disk

/-- The parts of a path that lead somewhere. -/
def activeParts (s : List Char) : List (List Char) :=
  (Text.splitOn '/' s).filter isActive

theorem activeParts_append
    (u v : List Char) :
    activeParts (u ++ '/' :: v) = activeParts u ++ activeParts v := by
  rw [activeParts, Text.splitOn_append_cons, List.filter_append]
  rfl

/-- What is dropped from the end of a path leads nowhere. -/
theorem activeParts_skipEmptyPartsReversed (r : List Char) :
    activeParts (skipEmptyPartsReversed r).reverse = activeParts r.reverse := by
  fun_induction skipEmptyPartsReversed r with
  | case1 => rfl
  | case2 s hs ih =>
      have hend : activeParts [] = [] := rfl
      rw [ih, List.reverse_cons, activeParts_append, hend, List.append_nil]
  | case3 s hs =>
      obtain rfl : s = [] := by simpa using hs
      rfl
  | case4 s hs ih =>
      have hend : activeParts ['.'] = [] := rfl
      rw [ih, List.reverse_cons, List.reverse_cons, List.append_assoc, List.singleton_append,
        activeParts_append, hend, List.append_nil]
  | case5 s h₁ h₂ h₃ => rfl

/-- What ends in anything else stays. -/
theorem skipEmptyPartsReversed_eq_self
    {r : List Char}
    (hslash : r.head? ≠ some '/')
    (hpoint : ∀ s, r ≠ '.' :: '/' :: s) :
    skipEmptyPartsReversed r = r := by
  fun_cases skipEmptyPartsReversed r with
  | case1 => exact absurd rfl hslash
  | case2 s hs => exact absurd rfl hslash
  | case3 s hs => exact absurd rfl (hpoint s)
  | case4 s hs => exact absurd rfl (hpoint s)
  | case5 h₁ h₂ h₃ => rfl

theorem skipEmptyPartsReversed_sublist (r : List Char) :
    (skipEmptyPartsReversed r).Sublist r := by
  fun_induction skipEmptyPartsReversed r with
  | case1 => exact List.Sublist.refl _
  | case2 s hs ih => exact ih.cons _
  | case3 s hs => exact ((List.nil_sublist s).cons_cons '/').cons '.'
  | case4 s hs ih => exact (ih.cons _).cons _
  | case5 s h₁ h₂ h₃ => exact List.Sublist.refl _

/-! ## Paths below a directory -/

/-- What a name is put behind, to give its path below a directory. -/
def frontOf (base : String) : List Char :=
  if base.isEmpty || base.toList.getLast? = some '/' then base.toList else base.toList ++ ['/']

theorem not_isAbsolute
    {name : String}
    (plain : '/' ∉ name.toList) :
    isAbsolute name = false := by
  rw [isAbsolute, decide_eq_false_iff_not]
  exact fun h => plain (List.mem_of_mem_head? h)

theorem toList_join
    {name : String}
    (relative : isAbsolute name = false)
    (base : String) :
    (join base name).toList = frontOf base ++ name.toList := by
  unfold join frontOf
  rw [relative, if_neg Bool.false_ne_true]
  split <;> simp

/-- The front of the paths below a directory is the path of the directory, and a slash if it has none
at its end. -/
theorem frontOf_cases (base : String) :
    (frontOf base = [] ∧ base.toList = []) ∨
      (∃ g, frontOf base = g ++ ['/'] ∧ base.toList = g ++ ['/']) ∨
      (frontOf base = base.toList ++ ['/'] ∧ base.toList ≠ []) := by
  unfold frontOf
  split
  · rename_i hbase
    rw [Bool.or_eq_true, decide_eq_true_eq] at hbase
    rcases hbase with hempty | hslash
    · have hnil : base.toList = [] := by simpa using hempty
      exact Or.inl ⟨hnil, hnil⟩
    · obtain ⟨g, hg⟩ := List.getLast?_eq_some_iff.mp hslash
      exact Or.inr (Or.inl ⟨g, hg, hg⟩)
  · rename_i hbase
    refine Or.inr (Or.inr ⟨rfl, fun hnil => hbase ?_⟩)
    rw [Bool.or_eq_true]
    exact Or.inl (by simpa using hnil)

theorem frontOf_closed (base : String) :
    frontOf base = [] ∨ ∃ g, frontOf base = g ++ ['/'] := by
  rcases frontOf_cases base with ⟨hfront, -⟩ | ⟨g, hfront, -⟩ | ⟨hfront, -⟩
  · exact Or.inl hfront
  · exact Or.inr ⟨g, hfront⟩
  · exact Or.inr ⟨base.toList, hfront⟩

end Path

namespace Disk

open Runbook.Path

/-! ## Paths that end in a name -/

/-- A path ends in a name behind a front that is empty or ends in a slash. -/
structure EndsIn
    (path : String)
    (front name : List Char) :
    Prop where
  eq : path.toList = front ++ name
  named : IsNamed name
  plain : '/' ∉ name
  closed : front = [] ∨ ∃ g, front = g ++ ['/']

/-- What stands behind the last slash is the last part. -/
theorem splitOn_front_append
    {front name : List Char}
    (plain : '/' ∉ name)
    (closed : front = [] ∨ ∃ g, front = g ++ ['/']) :
    Text.splitOn '/' (front ++ name) = (Text.splitOn '/' front).dropLast ++ [name] := by
  have hname := Text.splitOn_of_not_mem plain
  rcases closed with rfl | ⟨g, rfl⟩
  · simpa [Text.splitOn] using hname
  · have hfront : Text.splitOn '/' (g ++ ['/']) = Text.splitOn '/' g ++ [[]] :=
      Text.splitOn_append_cons '/' g []
    rw [hfront, List.dropLast_concat, List.append_assoc, List.singleton_append,
      Text.splitOn_append_cons, hname]

/-- A path below a directory ends in its own name. -/
theorem endsIn_join
    {name : String}
    (named : IsNamed name.toList)
    (plain : '/' ∉ name.toList)
    (base : String) :
    EndsIn (join base name) (frontOf base) name.toList :=
  ⟨toList_join (not_isAbsolute plain) base, named, plain, frontOf_closed base⟩

namespace EndsIn

variable {path : String}
variable {front name : List Char}

/-- The parts of the front of a path. -/
theorem splitOn_eq
    (h : EndsIn path front name) :
    Text.splitOn '/' path.toList = (Text.splitOn '/' front).dropLast ++ [name] := by
  rw [h.eq, splitOn_front_append h.plain h.closed]

theorem filter_front
    (h : EndsIn path front name) :
    (Text.splitOn '/' front).dropLast.filter isActive = activeParts front := by
  rcases h.closed with rfl | ⟨g, rfl⟩
  · rfl
  · have hfront : Text.splitOn '/' (g ++ ['/']) = Text.splitOn '/' g ++ [[]] :=
      Text.splitOn_append_cons '/' g []
    rw [activeParts, hfront, List.dropLast_concat, List.filter_append]
    exact (List.append_nil _).symm

theorem last
    (h : EndsIn path front name) :
    ∃ c s, path.toList.reverse = c :: s ∧ c ≠ '/' ∧ (c = '.' → s.head? ≠ some '/') ∧
      path.toList.reverse.dropWhile (· ≠ '/') = front.reverse := by
  obtain ⟨c, s, hname⟩ := List.exists_cons_of_ne_nil
    (List.reverse_eq_nil_iff.not.mpr h.named.ne_nil)
  have hfree : ∀ d ∈ c :: s, d ≠ '/' := by
    rintro d hd rfl
    rw [← hname, List.mem_reverse] at hd
    exact h.plain hd
  have hreverse : path.toList.reverse = c :: s ++ front.reverse := by
    rw [h.eq, List.reverse_append, hname]
  refine ⟨c, s ++ front.reverse, hreverse, hfree c (by simp), ?_, ?_⟩
  · rintro rfl hslash
    cases s with
    | nil => exact h.named.ne_here (by simpa using congrArg List.reverse hname)
    | cons d s =>
        obtain rfl : d = '/' := by simpa using hslash
        exact hfree '/' (by simp) rfl
  · rw [hreverse, List.dropWhile_append_of_pos (fun d hd => by simpa using hfree d hd)]
    rcases h.closed with rfl | ⟨g, rfl⟩
    · rfl
    · simp

theorem bare_eq
    (h : EndsIn path front name) :
    bare path = path := by
  obtain ⟨c, s, hreverse, hc, -, -⟩ := h.last
  have hkeep : path.toList.reverse.dropWhile (· = '/') = path.toList.reverse := by
    rw [hreverse, List.dropWhile_cons_of_neg (by simpa using hc)]
  unfold bare
  rw [hkeep, List.reverse_reverse]
  simp

theorem endsUnnamed_eq
    (h : EndsIn path front name) :
    endsUnnamed path = false := by
  have hname : [name].filter (fun part => !part.isEmpty) = [name] :=
    List.filter_eq_self.mpr (by simpa using h.named.ne_nil)
  unfold endsUnnamed
  rw [h.splitOn_eq, List.filter_append, hname, List.getLast?_concat]
  simp [h.named.ne_here, h.named.ne_up]

/-- The directory around a path is its front without what says nothing at the end. -/
theorem parent?_eq
    (h : EndsIn path front name) :
    parent? path = some (String.ofList (skipEmptyPartsReversed front.reverse).reverse) := by
  obtain ⟨c, s, hreverse, hc, hpoint, hrest⟩ := h.last
  have hpart : partOf? name = some (.name (String.ofList name)) := by
    simp [partOf?, h.named.ne_nil, h.named.ne_here, h.named.ne_up]
  have hlast : (components path).getLast? = some (.name (String.ofList name)) := by
    simp only [components, h.splitOn_eq, List.filterMap_append, List.filterMap_cons_some hpart,
      List.filterMap_nil, ← List.append_assoc, List.getLast?_concat]
  have hskip : skipEmptyPartsReversed path.toList.reverse = path.toList.reverse := by
    rw [hreverse]
    refine skipEmptyPartsReversed_eq_self (by simpa using hc) fun t heq => ?_
    obtain ⟨rfl, rfl⟩ := List.cons_eq_cons.mp heq
    exact hpoint rfl rfl
  unfold parent?
  rw [hlast, hskip]
  simp only [hrest]

end EndsIn

/-! ## Slashes at the end of a path -/

theorem activeParts_dropWhile (r : List Char) :
    activeParts (r.dropWhile (· = '/')).reverse = activeParts r.reverse := by
  induction r with
  | nil => rfl
  | cons c r ih =>
      by_cases hc : c = '/'
      · have hend : activeParts [] = [] := rfl
        rw [List.dropWhile_cons_of_pos (by simpa using hc), ih, hc, List.reverse_cons,
          activeParts_append, hend, List.append_nil]
      · rw [List.dropWhile_cons_of_neg (by simpa using hc)]

/-- Slashes at the end lead nowhere. -/
theorem activeParts_bare (path : String) :
    activeParts (bare path).toList = activeParts path.toList := by
  have hdrop := activeParts_dropWhile path.toList.reverse
  rw [List.reverse_reverse] at hdrop
  unfold bare
  dsimp only
  split
  · rfl
  · rw [String.toList_ofList, hdrop]

theorem bare_sublist (path : String) :
    (bare path).toList.Sublist path.toList := by
  unfold bare
  dsimp only
  split
  · exact List.Sublist.refl _
  · have hsub := (List.dropWhile_sublist (fun c => decide (c = '/')) (l := path.toList.reverse)).reverse
    rw [List.reverse_reverse] at hsub
    rw [String.toList_ofList]
    exact hsub

theorem bare_ne_nil
    {path : String}
    (h : path.toList ≠ []) :
    (bare path).toList ≠ [] := by
  unfold bare
  dsimp only
  split
  · exact h
  · rename_i hne
    simpa using hne

/-! ## Paths that can be looked up -/

/-- A path without a zero and of a fitting length. -/
structure Fits (path : String) : Prop where
  zeroless : '\x00' ∉ path.toList
  short : path.utf8ByteSize < maxPath

theorem Fits.of_sublist
    {path other : String}
    (h : Fits path)
    (hsub : other.toList.Sublist path.toList) :
    Fits other := by
  refine ⟨fun hmem => h.zeroless (hsub.subset hmem), ?_⟩
  have hlen := String.utf8Len_le_of_sublist hsub
  rw [← String.utf8ByteSize_ofList, ← String.utf8ByteSize_ofList, String.ofList_toList,
    String.ofList_toList] at hlen
  exact Nat.lt_of_le_of_lt hlen h.short

theorem locateFrom_eq
    {path : String}
    (h : Fits path)
    (hne : path.toList ≠ [])
    (d : Disk)
    (final : Bool) :
    d.locateFrom [] final path = d.follow final maxLinks [] (Text.splitOn '/' path.toList) := by
  have hturn : turn [] path.toList = [] := by simp [turn]
  unfold locateFrom
  simp only [hturn]
  rw [if_neg (by simpa using h.zeroless), if_neg (by simpa using hne),
    if_neg (Nat.not_le.mpr h.short)]

/-- What a path leads to is what its parts lead to. -/
theorem leads_of_locateFrom
    {d : Disk}
    {final : Bool}
    {path : String}
    {spot : Spot}
    (h : d.locateFrom [] final path = .ok spot) :
    Fits path ∧ path.toList ≠ [] ∧
      Leads d final maxLinks [] (Text.splitOn '/' path.toList) spot := by
  have hne : path.toList ≠ [] := by
    intro hnil
    simp [locateFrom, hnil] at h
  have hfits : Fits path := by
    simp only [locateFrom] at h
    split at h
    · cases h
    · rename_i hzero
      split at h
      · cases h
      · split at h
        · cases h
        · rename_i hshort
          exact ⟨by simpa using hzero, Nat.not_le.mp hshort⟩
  rw [locateFrom_eq hfits hne] at h
  exact ⟨hfits, hne, leads_of_follow h⟩

/-! ## The place of a file -/

/-- A directory holds what a path ends in: the front leads into it, the entry is no directory, and if
it is a link then none that leads into a directory. -/
structure Holds
    (d : Disk)
    (front name : List Char)
    (parent : Place) :
    Prop where
  walk : ∃ left, Enters d maxLinks [] (Text.splitOn '/' front).dropLast left parent
  present : ∃ t, d.get? (parent ++ [String.ofList name]) = some t
  file : ∀ es, d.get? (parent ++ [String.ofList name]) ≠ some (.directory es)
  blind : ∀ target, d.get? (parent ++ [String.ofList name]) = some (.link target) →
    ∀ links left q, ¬ Enters d links (turn parent target.toList)
      (Text.splitOn '/' target.toList) left q

/-- What a file is read through leads to a file. -/
theorem exists_locate_of_readText
    {d : Disk}
    {path text : String}
    (h : d.readText path = .ok text) :
    ∃ place t, d.locate path = .ok (.found place t) ∧ t.isDirectory = false := by
  unfold readText read tree? at h
  cases hlocate : d.locate path with
  | error e =>
      rw [hlocate] at h
      cases h
  | ok spot =>
      cases spot with
      | free parent name slash =>
          rw [hlocate] at h
          cases h
      | found place t =>
          refine ⟨place, t, rfl, FileTree.isDirectory_eq_false_iff.mpr ?_⟩
          rintro es rfl
          rw [hlocate] at h
          cases h

/-- A file that can be read is held by a directory. -/
theorem exists_holds_of_readText
    {d : Disk}
    {path text : String}
    {front name : List Char}
    (hends : EndsIn path front name)
    (h : d.readText path = .ok text) :
    Fits path ∧ ∃ parent, Holds d front name parent := by
  obtain ⟨place, t, hlocate, hfile⟩ := exists_locate_of_readText h
  obtain ⟨hfits, -, hleads⟩ := leads_of_locateFrom hlocate
  refine ⟨hfits, ?_⟩
  rw [hends.splitOn_eq] at hleads
  obtain ⟨left, parent, hwalk, hbehind⟩ :=
    hleads.exists_enters (List.cons_ne_nil _ _) (Or.inl ⟨_, _, rfl⟩)
  have hlast := hbehind.follow_eq
  obtain ⟨es, hes⟩ := hwalk.stop
  have hnamed := @follow_named d true left parent es name [] hes hends.named
  refine ⟨parent, ⟨left, hwalk⟩, ?_, ?_, ?_⟩
  · cases hentry : d.get? (parent ++ [String.ofList name]) with
    | some t' => exact ⟨t', rfl⟩
    | none =>
        rw [hnamed, hentry] at hlast
        cases hlast
  · intro es' hentry
    rw [follow_down hes hends.named hentry rfl, follow_nil hentry] at hlast
    cases hlast
    cases hfile
  · intro target hentry links left' q henters
    cases left with
    | zero =>
        rw [hnamed, hentry] at hlast
        cases hlast
    | succ left =>
        rw [follow_link hes hends.named hentry (Or.inl rfl), List.append_nil] at hlast
        obtain ⟨es', hspot⟩ := henters.eq_of_follow hlast
        cases hspot
        cases hfile

/-! ## A directory that is there -/

/-- A disk is left as the one of a change that went well, exactly if the change went well and left it. -/
theorem ifDone_eq_ok_iff
    {r : Disk × Except FileFault Unit}
    {d' : Disk} :
    ifDone r = .ok d' ↔ r = (d', .ok ()) := by
  obtain ⟨d, _ | _⟩ := r
  · simp [ifDone, Except.map]
  · simp [ifDone, Except.map]

theorem ensureDirectory_eq_ok_iff
    {d d' : Disk}
    {path : String} :
    d.ensureDirectory path = .ok d' ↔ d.provideDirectory path = (d', .ok ()) :=
  ifDone_eq_ok_iff

theorem write_eq_ok_iff
    {d d' : Disk}
    {path : String}
    {c : Content} :
    d.write path c = .ok d' ↔ d.overwrite path c = (d', .ok ()) :=
  ifDone_eq_ok_iff

/-- A directory that a path leads into is there already. -/
theorem provideDirectory_of_enters
    {d : Disk}
    {path : String}
    {left : Nat}
    {parent : Place}
    (hfits : Fits path)
    (hwalk : Enters d maxLinks [] (Text.splitOn '/' path.toList) left parent) :
    d.provideDirectory path = (d, .ok ()) := by
  unfold provideDirectory
  split
  · rfl
  · rename_i hempty
    have hne : path.toList ≠ [] := by simpa using hempty
    have hmade : d.makeDirectory path = .error .taken := by
      have hbare := hwalk.of_filter_eq (activeParts_bare path).symm
      obtain ⟨place, t, hfound⟩ := hbare.exists_follow_entry
      unfold makeDirectory
      rw [locateEntry, locateFrom_eq (hfits.of_sublist (bare_sublist path)) (bare_ne_nil hne),
        hfound]
    have hdirectory : d.isDirectory path = true := by
      obtain ⟨es, hfound⟩ := hwalk.follow_eq
      unfold isDirectory tree?
      rw [locate, locateFrom_eq hfits hne, hfound]
      rfl
    rw [makeDirectories, hmade]
    simp [settleDirectory, hdirectory]

theorem ensureDirectory_of_enters
    {d : Disk}
    {path : String}
    {left : Nat}
    {parent : Place}
    (hfits : Fits path)
    (hwalk : Enters d maxLinks [] (Text.splitOn '/' path.toList) left parent) :
    d.ensureDirectory path = .ok d :=
  ensureDirectory_eq_ok_iff.mpr (provideDirectory_of_enters hfits hwalk)

namespace Holds

variable {d : Disk}
variable {path : String}
variable {front name : List Char}
variable {parent : Place}

/-- The directory around a held file is there already. -/
theorem provideDirectory_eq
    (h : Holds d front name parent)
    (hends : EndsIn path front name)
    (hfits : Fits path) :
    d.provideDirectory ((parent? path).getD ".") = (d, .ok ()) := by
  rw [hends.parent?_eq, Option.getD_some]
  rcases hends.closed with rfl | ⟨g, hg⟩
  · rfl
  · obtain ⟨left, hwalk⟩ := h.walk
    have hsub := (skipEmptyPartsReversed_sublist front.reverse).reverse
    have hactive := activeParts_skipEmptyPartsReversed front.reverse
    rw [List.reverse_reverse] at hsub hactive
    refine provideDirectory_of_enters (hfits.of_sublist ?_) (hwalk.of_filter_eq ?_)
    · rw [String.toList_ofList, hends.eq]
      exact hsub.trans (List.sublist_append_left front name)
    · rw [String.toList_ofList, hends.filter_front]
      exact hactive.symm

/-- A held file is replaced where it is. -/
theorem replace_eq
    (h : Holds d front name parent)
    (hends : EndsIn path front name)
    (hfits : Fits path)
    (c : Content) :
    d.replace path c =
      (d.put (parent ++ [String.ofList name]) (.file c .secluded), .ok ()) := by
  have hmade := h.provideDirectory_eq hends hfits
  have hne : path.toList ≠ [] := by
    rw [hends.eq]
    exact List.append_ne_nil_of_right_ne_nil _ hends.named.ne_nil
  obtain ⟨left, hwalk⟩ := h.walk
  obtain ⟨es, hes⟩ := hwalk.stop
  obtain ⟨t, ht⟩ := h.present
  have hdirectory : t.isDirectory = false :=
    FileTree.isDirectory_eq_false_iff.mpr fun es' heq => h.file es' (heq ▸ ht)
  have hfound : d.locateEntry path =
      .ok (.found (parent ++ [String.ofList name]) t) := by
    rw [locateEntry, locateFrom_eq hfits hne, hends.splitOn_eq,
      hwalk.follow_append false (Or.inr (by simp))]
    cases t with
    | link target => exact follow_lastLink hes hends.named ht
    | directory es' => cases hdirectory
    | file content traits => rw [follow_down hes hends.named ht rfl, follow_nil ht]
    | device kind => rw [follow_down hes hends.named ht rfl, follow_nil ht]
  have hmoved : d.moveInto path c =
      .ok (d.put (parent ++ [String.ofList name]) (.file c .secluded)) := by
    unfold moveInto
    rw [hends.endsUnnamed_eq, if_neg Bool.false_ne_true, hends.bare_eq, hfound]
    simp [isSlashed, hends.bare_eq, hdirectory]
  unfold replace
  rw [hmade]
  simp only [hmoved]

/-- A new file in the place of a held one is held. -/
theorem put
    (h : Holds d front name parent)
    (c : Content)
    (traits : Traits) :
    Holds (d.put (parent ++ [String.ofList name]) (.file c traits)) front name parent := by
  obtain ⟨left, hwalk⟩ := h.walk
  obtain ⟨es, hes⟩ := hwalk.stop
  have hnew := @FileTree.get?_put d parent es (String.ofList name) hes (.file c traits)
  refine ⟨⟨left, hwalk.put hes h.file h.blind _⟩, ⟨_, hnew⟩, ?_, ?_⟩
  · intro es' hes'
    rw [hnew] at hes'
    cases hes'
  · intro target htarget
    rw [hnew] at htarget
    cases htarget

/-- What takes the place of a held file is read back. -/
theorem readText_put
    (h : Holds d front name parent)
    (hends : EndsIn path front name)
    (hfits : Fits path)
    (text : String)
    (traits : Traits) :
    readText (d.put (parent ++ [String.ofList name]) (.file (.text text) traits)) path =
      .ok text := by
  have hne : path.toList ≠ [] := by
    rw [hends.eq]
    exact List.append_ne_nil_of_right_ne_nil _ hends.named.ne_nil
  obtain ⟨left, hwalk⟩ := h.walk
  obtain ⟨es, hes⟩ := hwalk.stop
  have hnew :=
    @FileTree.get?_put d parent es (String.ofList name) hes (.file (.text text) traits)
  have hwalk' := hwalk.put hes h.file h.blind (.file (.text text) traits)
  obtain ⟨es', hes'⟩ := hwalk'.stop
  unfold readText read tree?
  rw [locate, locateFrom_eq hfits hne, hends.splitOn_eq,
    hwalk'.follow_append true (Or.inl rfl), follow_down hes' hends.named hnew rfl,
    follow_nil hnew]

end Holds

/-- A file that can be read below a directory has a place: replacing it puts the new file there, the
new text is read back, and the next replacement takes the same place. -/
theorem exists_place_of_readText
    {d : Disk}
    {base name text : String}
    (named : IsNamed name.toList)
    (plain : '/' ∉ name.toList)
    (h : d.readText (join base name) = .ok text) :
    ∃ place,
      (∀ c, d.replace (join base name) c = (d.put place (.file c .secluded), .ok ())) ∧
      ∀ new,
        readText (d.put place (.file (.text new) .secluded)) (join base name) = .ok new ∧
        ∀ c, replace (d.put place (.file (.text new) .secluded)) (join base name) c =
          (d.put place (.file c .secluded), .ok ()) := by
  have hends := endsIn_join named plain base
  obtain ⟨hfits, parent, hholds⟩ := exists_holds_of_readText hends h
  obtain ⟨left, hwalk⟩ := hholds.walk
  obtain ⟨es, hes⟩ := hwalk.stop
  refine ⟨_, hholds.replace_eq hends hfits, fun new => ⟨?_, fun c => ?_⟩⟩
  · exact hholds.readText_put hends hfits new .secluded
  · rw [(hholds.put (.text new) .secluded).replace_eq hends hfits, FileTree.put_put hes]

end Disk

end Runbook
