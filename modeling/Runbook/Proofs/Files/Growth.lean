import Mathlib.Data.List.TakeWhile
import Runbook.Proofs.Files.Replacing

/-!
# What other paths lead to after a file is put somewhere

A file may be put under a name where nothing is, or in the place of a file or of a link that leads
into no directory. Whatever a path led to before, it leads there still, or it led through that entry
and leads to the new file. So a disk on which a file is made at a path that leads nowhere extends the
disk before, and a file that is replaced changes only for the paths that lead through its own entry.

Main statements: `Leads.put`, `extends_replace` and `exists_entry_of_replace`.
-/

namespace Runbook
namespace Disk

open Runbook.Path

/-- Below what is there, there is no link. -/
theorem not_link_of_get?_append
    {t u : FileTree}
    {p q : Place}
    (h : t.get? (p ++ q) = some u)
    (plain : u.isLink = false)
    (target : String) :
    t.get? p ≠ some (.link target) := by
  intro hlink
  rw [FileTree.get?_append, hlink, Option.bind_some] at h
  cases q with
  | nil =>
      rw [FileTree.get?_nil] at h
      cases h
      cases plain
  | cons name rest =>
      obtain ⟨es, s, hdirectory, -, -⟩ := FileTree.exists_of_get?_cons h
      cases hdirectory

/-- A directory has room for a file under a name: neither a directory is there, nor a link that leads
into one. -/
structure Room
    (d : Disk)
    (parent : Place)
    (name : List Char) :
    Prop where
  named : IsNamed name
  around : ∃ es, d.get? parent = some (.directory es)
  file : ∀ es, d.get? (parent ++ [String.ofList name]) ≠ some (.directory es)
  blind : ∀ target, d.get? (parent ++ [String.ofList name]) = some (.link target) →
    ∀ links left q, ¬ Enters d links (turn parent target.toList)
      (Text.splitOn '/' target.toList) left q

section Putting

variable {d : Disk}
variable {parent : Place}
variable {name : List Char}
variable {new : FileTree}

theorem Room.get?_put
    (room : Room d parent name)
    (new : FileTree) :
    (d.put (parent ++ [String.ofList name]) new).get? (parent ++ [String.ofList name]) =
      some new := by
  obtain ⟨es, hes⟩ := room.around
  exact FileTree.get?_put hes new

/-- Any other place keeps what it has. -/
theorem Room.exists_get?_put
    (room : Room d parent name)
    {p : Place}
    {t : FileTree}
    (hne : p ≠ parent ++ [String.ofList name])
    (h : d.get? p = some t)
    (new : FileTree) :
    ∃ t', (d.put (parent ++ [String.ofList name]) new).get? p = some t' ∧
      (t' = t ∨ (t.isDirectory = true ∧ t'.isDirectory = true)) := by
  obtain ⟨es, hes⟩ := room.around
  exact FileTree.exists_get?_put hes room.file hne h new

/-- Directories stay. -/
theorem Room.exists_directory_put
    (room : Room d parent name)
    {p : Place}
    {es : List (String × FileTree)}
    (h : d.get? p = some (.directory es))
    (new : FileTree) :
    ∃ es', (d.put (parent ++ [String.ofList name]) new).get? p = some (.directory es') := by
  have hne : p ≠ parent ++ [String.ofList name] := by
    rintro rfl
    exact room.file _ h
  obtain ⟨t', ht', rfl | ⟨-, hdirectory⟩⟩ := room.exists_get?_put hne h new
  · exact ⟨es, ht'⟩
  · obtain ⟨es', rfl⟩ := FileTree.isDirectory_iff.mp hdirectory
    exact ⟨es', ht'⟩

/-- What is no link is none afterwards. -/
theorem Room.exists_plain_put
    (room : Room d parent name)
    {p : Place}
    {t : FileTree}
    (h : d.get? p = some t)
    (plain : t.isLink = false)
    (hnew : new.isLink = false) :
    ∃ t', (d.put (parent ++ [String.ofList name]) new).get? p = some t' ∧ t'.isLink = false := by
  by_cases hentry : p = parent ++ [String.ofList name]
  · exact ⟨new, by rw [hentry, room.get?_put], hnew⟩
  · obtain ⟨t', ht', rfl | ⟨-, hdirectory⟩⟩ := room.exists_get?_put hentry h new
    · exact ⟨t', ht', plain⟩
    · exact ⟨t', ht', FileTree.isLink_of_isDirectory hdirectory⟩

/-- Other links stay. -/
theorem Room.get?_put_link
    (room : Room d parent name)
    {p : Place}
    {target : String}
    (hne : p ≠ parent ++ [String.ofList name])
    (h : d.get? p = some (.link target))
    (new : FileTree) :
    (d.put (parent ++ [String.ofList name]) new).get? p = some (.link target) := by
  obtain ⟨t', ht', rfl | ⟨hdirectory, -⟩⟩ := room.exists_get?_put hne h new
  · exact ht'
  · cases hdirectory

/-- After something has been put somewhere, parts lead where they led, or they led through its entry and
lead to it. -/
def Reroutes
    (d : Disk)
    (parent : Place)
    (name : List Char)
    (new : FileTree)
    (q : Place)
    (u : FileTree)
    (links : Nat)
    (p : Place)
    (parts : List (List Char)) :
    Prop :=
  (q ≠ parent ++ [String.ofList name] ∧
    ∃ u', Leads (d.put (parent ++ [String.ofList name]) new) true links p parts (.found q u') ∧
      (u' = u ∨ (u.isDirectory = true ∧ u'.isDirectory = true))) ∨
  (Leads (d.put (parent ++ [String.ofList name]) new) true links p parts
      (.found (parent ++ [String.ofList name]) new) ∧
    ∃ left, Leads d true left parent [name] (.found q u))

/-- Parts that lead on to others do so afterwards. -/
theorem Reroutes.of_behind
    {links links' : Nat}
    {p p' q : Place}
    {u : FileTree}
    {parts parts' : List (List Char)}
    (h : Reroutes d parent name new q u links' p' parts')
    (hbehind : ∀ spot,
      Leads (d.put (parent ++ [String.ofList name]) new) true links' p' parts' spot →
        Leads (d.put (parent ++ [String.ofList name]) new) true links p parts spot) :
    Reroutes d parent name new q u links p parts := by
  rcases h with ⟨hne, u', hleads, hsame⟩ | ⟨hleads, hentry⟩
  · exact Or.inl ⟨hne, u', hbehind _ hleads, hsame⟩
  · exact Or.inr ⟨hbehind _ hleads, hentry⟩

/-- What parts led to, they lead to after something has been put where there is room, unless they led
through the entry there. -/
theorem Leads.put
    {links : Nat}
    {p q : Place}
    {parts : List (List Char)}
    {u : FileTree}
    (h : Leads d true links p parts (.found q u))
    (room : Room d parent name)
    (hp : ∀ target, d.get? p ≠ some (.link target))
    (hnew : new.isLink = false) :
    Reroutes d parent name new q u links p parts := by
  generalize hspot : Spot.found q u = spot at h
  induction h with
  | @here links p t here =>
      cases hspot
      by_cases hentry : q = parent ++ [String.ofList name]
      · subst hentry
        have hplain : u.isLink = false :=
          FileTree.isLink_eq_false_iff.mpr fun target heq => hp target (heq ▸ here)
        obtain ⟨es, hes⟩ := room.around
        exact Or.inr ⟨.here (room.get?_put new), links,
          .down hes room.named here hplain (.here here)⟩
      · obtain ⟨u', hu', hsame⟩ := room.exists_get?_put hentry here new
        exact Or.inl ⟨hentry, u', .here hu', hsame⟩
  | stay here idle _ ih =>
      obtain ⟨es', hes⟩ := room.exists_directory_put here new
      exact (ih hp hspot).of_behind fun _ => .stay hes idle
  | @up links p es rest spot here _ ih =>
      obtain ⟨es', hes⟩ := room.exists_directory_put here new
      refine (ih ?_ hspot).of_behind fun _ => .up hes
      rcases List.eq_nil_or_concat p with rfl | ⟨front, last, rfl⟩
      · exact hp
      · rw [List.concat_eq_append] at here ⊢
        rw [List.dropLast_concat]
        exact not_link_of_get?_append here rfl
  | @down links p es part rest t spot here named found plain _ ih =>
      obtain ⟨es', hes⟩ := room.exists_directory_put here new
      obtain ⟨t', ht', hplain⟩ := room.exists_plain_put found plain hnew
      refine (ih ?_ hspot).of_behind fun _ => .down hes named ht' hplain
      rw [← List.append_nil (p ++ [String.ofList part])] at found
      exact not_link_of_get?_append found plain
  | @link links p es part rest target spot here named found meant behind ih =>
      obtain ⟨es', hes⟩ := room.exists_directory_put here new
      by_cases hentry : p ++ [String.ofList part] = parent ++ [String.ofList name]
      · obtain ⟨rfl, hname⟩ := List.append_inj' hentry rfl
        obtain rfl : part = name := String.ofList_inj.mp (List.singleton_inj.mp hname)
        -- Behind the entry nothing can follow, since no directory is behind it.
        have hrest : rest = [] := by
          by_contra hrest
          obtain ⟨left, r, hwalk, -⟩ := behind.exists_enters hrest (Or.inl ⟨q, u, hspot.symm⟩)
          exact room.blind target found _ _ _ hwalk
        subst hrest hspot
        exact Or.inr ⟨.down hes named (room.get?_put new) hnew (.here (room.get?_put new)),
          links + 1, .link here named found meant behind⟩
      · have hfound := room.get?_put_link hentry found new
        refine (ih ?_ hspot).of_behind fun _ => .link hes named hfound meant
        unfold turn
        split
        · rw [← List.nil_append p] at here
          exact not_link_of_get?_append here rfl
        · exact hp
  | lastLink here named found itself => cases itself
  | free here named missing last => cases hspot

end Putting

/-! ## Paths -/

section Paths

variable {d d' made : Disk}
variable {path : String}
variable {c : Content}

theorem locateFrom_of_leads
    {final : Bool}
    {spot : Spot}
    (hfits : Fits path)
    (hne : path.toList ≠ [])
    (h : Leads d final maxLinks [] (Text.splitOn '/' path.toList) spot) :
    d.locateFrom [] final path = .ok spot := by
  rw [locateFrom_eq hfits hne, h.follow_eq]

theorem exists?_iff :
    d.exists? path = true ↔ ∃ place t, d.locate path = .ok (.found place t) := by
  unfold exists? tree?
  cases hlocate : d.locate path with
  | error e => simp
  | ok spot => cases spot <;> simp

theorem isFile_iff :
    d.isFile path = true ↔
      ∃ place content traits, d.locate path = .ok (.found place (.file content traits)) := by
  unfold isFile tree?
  cases hlocate : d.locate path with
  | error e => simp
  | ok spot =>
      cases spot with
      | free parent name slash => simp
      | found place t => cases t <;> simp [FileTree.isFile]

theorem readText_of_locate
    {place : Place}
    {text : String}
    {traits : Traits}
    (h : d.locate path = .ok (.found place (.file (.text text) traits))) :
    d.readText path = .ok text := by
  unfold readText read tree?
  rw [h]

/-- What a path led to, it leads to after something has been put where there is room, unless it led
through the entry there. -/
theorem Room.locate_put
    {parent place : Place}
    {name : List Char}
    {t new : FileTree}
    (room : Room d parent name)
    (hnew : new.isLink = false)
    (h : d.locate path = .ok (.found place t)) :
    (place ≠ parent ++ [String.ofList name] ∧
      ∃ t', locate (d.put (parent ++ [String.ofList name]) new) path = .ok (.found place t') ∧
        (t' = t ∨ (t.isDirectory = true ∧ t'.isDirectory = true))) ∨
    (locate (d.put (parent ++ [String.ofList name]) new) path =
        .ok (.found (parent ++ [String.ofList name]) new) ∧
      ∃ left, Leads d true left parent [name] (.found place t)) := by
  obtain ⟨hfits, hne, hleads⟩ := leads_of_locateFrom h
  obtain ⟨es, hes⟩ := room.around
  have hroot : ∀ target, d.get? [] ≠ some (.link target) := by
    rw [← List.nil_append parent] at hes
    exact not_link_of_get?_append hes rfl
  rcases hleads.put room hroot hnew with ⟨hplace, t', hleads', hsame⟩ | ⟨hleads', hthrough⟩
  · exact Or.inl ⟨hplace, t', locateFrom_of_leads hfits hne hleads', hsame⟩
  · exact Or.inr ⟨locateFrom_of_leads hfits hne hleads', hthrough⟩

/-- What is put at the end of a path is what the path leads to. -/
theorem Room.locate_put_self
    {parent : Place}
    {front name : List Char}
    {left : Nat}
    {new : FileTree}
    (room : Room d parent name)
    (hends : EndsIn path front name)
    (hfits : Fits path)
    (hwalk : Enters d maxLinks [] (Text.splitOn '/' front).dropLast left parent)
    (hnew : new.isLink = false) :
    locate (d.put (parent ++ [String.ofList name]) new) path =
      .ok (.found (parent ++ [String.ofList name]) new) := by
  have hne : path.toList ≠ [] := by
    rw [hends.eq]
    exact List.append_ne_nil_of_right_ne_nil _ hends.named.ne_nil
  obtain ⟨es, hes⟩ := room.around
  have hwalk' := hwalk.put hes room.file room.blind new
  obtain ⟨es', hes'⟩ := hwalk'.stop
  rw [locate, locateFrom_eq hfits hne, hends.splitOn_eq,
    hwalk'.follow_append true (Or.inl rfl),
    follow_down hes' room.named (room.get?_put new) hnew, follow_nil (room.get?_put new)]

/-! ## Disks that extend others -/

/-- Whatever is found by a path is found there still, a directory perhaps with more in it. -/
def Extends (d d' : Disk) : Prop :=
  ∀ path place t, d.locate path = .ok (.found place t) →
    ∃ t', d'.locate path = .ok (.found place t') ∧
      (t' = t ∨ (t.isDirectory = true ∧ t'.isDirectory = true))

namespace Extends

theorem refl (d : Disk) :
    Extends d d :=
  fun _ _ t h => ⟨t, h, Or.inl rfl⟩

theorem trans
    {d₁ d₂ d₃ : Disk}
    (h : Extends d₁ d₂)
    (h' : Extends d₂ d₃) :
    Extends d₁ d₃ := by
  intro path place t hlocate
  obtain ⟨t₂, hlocate₂, hsame⟩ := h path place t hlocate
  obtain ⟨t₃, hlocate₃, hsame'⟩ := h' path place t₂ hlocate₂
  refine ⟨t₃, hlocate₃, ?_⟩
  rcases hsame with rfl | ⟨ht, ht₂⟩
  · exact hsame'
  · rcases hsame' with rfl | ⟨-, ht₃⟩
    · exact Or.inr ⟨ht, ht₂⟩
    · exact Or.inr ⟨ht, ht₃⟩

/-- Files stay as they are. -/
theorem locate_file
    (h : Extends d d')
    {place : Place}
    {traits : Traits}
    (hfile : d.locate path = .ok (.found place (.file c traits))) :
    d'.locate path = .ok (.found place (.file c traits)) := by
  obtain ⟨t', hlocate, rfl | ⟨hdirectory, -⟩⟩ := h path place _ hfile
  · exact hlocate
  · cases hdirectory

/-- Directories stay where they are. -/
theorem exists_directory
    (h : Extends d d')
    {place : Place}
    {es : List (String × FileTree)}
    (hdirectory : d.locate path = .ok (.found place (.directory es))) :
    ∃ es', d'.locate path = .ok (.found place (.directory es')) := by
  obtain ⟨t', hlocate, rfl | ⟨-, ht'⟩⟩ := h path place _ hdirectory
  · exact ⟨es, hlocate⟩
  · obtain ⟨es', rfl⟩ := FileTree.isDirectory_iff.mp ht'
    exact ⟨es', hlocate⟩

end Extends

/-- Where nothing is found, something that is put there only extends the disk. -/
theorem Room.extends_put
    {parent : Place}
    {name : List Char}
    {new : FileTree}
    (room : Room d parent name)
    (hnew : new.isLink = false)
    (hnone : ∀ left place t, ¬ Leads d true left parent [name] (.found place t)) :
    Extends d (d.put (parent ++ [String.ofList name]) new) := by
  intro path place t hlocate
  rcases room.locate_put hnew hlocate with ⟨-, hkept⟩ | ⟨-, left, hleads⟩
  · exact hkept
  · exact absurd hleads (hnone left place t)

/-- There is room in a directory under a name that it does not have. -/
theorem room_of_missing
    {parent : Place}
    {name : List Char}
    {es : List (String × FileTree)}
    (named : IsNamed name)
    (around : d.get? parent = some (.directory es))
    (missing : d.get? (parent ++ [String.ofList name]) = none) :
    Room d parent name :=
  ⟨named, ⟨es, around⟩, fun es => by simp [missing], fun target => by simp [missing]⟩

theorem Room.extends_put_missing
    {parent : Place}
    {name : List Char}
    {new : FileTree}
    (room : Room d parent name)
    (missing : d.get? (parent ++ [String.ofList name]) = none)
    (hnew : new.isLink = false) :
    Extends d (d.put (parent ++ [String.ofList name]) new) := by
  obtain ⟨es, hes⟩ := room.around
  refine room.extends_put hnew fun left place t hfound => ?_
  have hfollow := hfound.follow_eq
  rw [follow_named hes room.named, missing] at hfollow
  cases hfollow

/-- A directory that is created is put where nothing is. -/
theorem exists_of_makeDirectory
    (h : d.makeDirectory path = .ok d') :
    ∃ parent part, IsNamed part ∧ (∃ es, d.get? parent = some (.directory es)) ∧
      d.get? (parent ++ [String.ofList part]) = none ∧
      d' = d.put (parent ++ [String.ofList part]) (.directory []) := by
  unfold makeDirectory at h
  split at h
  · cases h
  · cases h
  · rename_i parent name slash hfree
    cases h
    obtain ⟨-, -, hleads⟩ := leads_of_locateFrom hfree
    obtain ⟨part, named, rfl, around, missing⟩ := hleads.exists_missing
    exact ⟨parent, part, named, around, missing, rfl⟩

section Relation

variable {R : Disk → Disk → Prop}

theorem rel_settleDirectory
    {r : Except FileFault Disk}
    (refl : ∀ d, R d d)
    (step : ∀ d', r = .ok d' → R d d') :
    R d (settleDirectory d path r).1 := by
  cases r with
  | error e => exact refl d
  | ok made => exact step made rfl

theorem rel_makeDirectories
    (refl : ∀ d, R d d)
    (trans : ∀ d₁ d₂ d₃, R d₁ d₂ → R d₂ d₃ → R d₁ d₃)
    (step : ∀ d d' path, d.makeDirectory path = .ok d' → R d d')
    (fuel : Nat)
    (d : Disk)
    (path : String) :
    R d (makeDirectories fuel d path).1 := by
  fun_induction makeDirectories fuel d path with
  | case1 d path => exact refl d
  | case2 fuel d path hmissing hparent => exact refl d
  | case3 fuel d path hmissing parent hparent around e haround ih =>
      rw [haround] at ih
      exact ih
  | case4 fuel d path hmissing parent hparent around haround ih =>
      rw [haround] at ih
      exact trans _ _ _ ih (rel_settleDirectory refl fun d' => step _ _ _)
  | case5 fuel d path hmade => exact rel_settleDirectory refl fun d' => step _ _ _

/-- What relates a disk to the disk with one more directory relates it to what is left where a directory
was made sure of, as far as possible. -/
theorem rel_provideDirectory
    (refl : ∀ d, R d d)
    (trans : ∀ d₁ d₂ d₃, R d₁ d₂ → R d₂ d₃ → R d₁ d₃)
    (step : ∀ d d' path, d.makeDirectory path = .ok d' → R d d')
    (d : Disk)
    (path : String) :
    R d (d.provideDirectory path).1 := by
  unfold provideDirectory
  split
  · exact refl d
  · exact rel_makeDirectories refl trans step _ d path

end Relation

theorem extends_makeDirectory
    (h : d.makeDirectory path = .ok d') :
    Extends d d' := by
  obtain ⟨parent, part, named, ⟨es, hes⟩, missing, rfl⟩ := exists_of_makeDirectory h
  exact (room_of_missing named hes missing).extends_put_missing missing rfl

/-- Making sure of a directory only extends a disk, also where it fails. -/
theorem extends_provideDirectory
    (d : Disk)
    (path : String) :
    Extends d (d.provideDirectory path).1 :=
  rel_provideDirectory Extends.refl (fun _ _ _ => Extends.trans)
    (fun _ _ _ => extends_makeDirectory) d path

theorem extends_ensureDirectory
    (h : d.ensureDirectory path = .ok d') :
    Extends d d' := by
  have hextends := extends_provideDirectory d path
  rw [ensureDirectory_eq_ok_iff.mp h] at hextends
  exact hextends

/-- Making sure of a directory leaves all files, also where it fails. -/
theorem hasFile_provideDirectory
    (d : Disk)
    (path : String)
    (q : Place)
    (c : Content) :
    FileTree.HasFile (d.provideDirectory path).1 q c ↔ d.HasFile q c := by
  refine rel_provideDirectory (R := fun d d' => ∀ q c, d'.HasFile q c ↔ d.HasFile q c)
    (fun _ _ _ => Iff.rfl) (fun _ _ _ h h' q c => (h' q c).trans (h q c)) ?_ d path q c
  intro d d' path hmade q c
  obtain ⟨parent, part, -, ⟨es, hes⟩, missing, rfl⟩ := exists_of_makeDirectory hmade
  by_cases hq : q = parent ++ [String.ofList part]
  · subst hq
    simp [FileTree.HasFile, missing, FileTree.get?_put hes]
  · refine FileTree.sameBut_put hes (fun es' => by simp [missing]) (fun r hr b => ?_) q hq c
    obtain ⟨name, rest, rfl⟩ := List.exists_cons_of_ne_nil hr
    simp [Dict.get?]

theorem hasFile_ensureDirectory
    (h : d.ensureDirectory path = .ok d')
    (q : Place)
    (c : Content) :
    d'.HasFile q c ↔ d.HasFile q c := by
  have hfiles := hasFile_provideDirectory d path q c
  rw [ensureDirectory_eq_ok_iff.mp h] at hfiles
  exact hfiles

/-! ## Files that are moved into place -/

/-- A path has a name behind its last slash, which may be empty. -/
theorem exists_front (s : List Char) :
    ∃ front name, s = front ++ name ∧ '/' ∉ name ∧ (front = [] ∨ ∃ g, front = g ++ ['/']) := by
  refine ⟨(s.reverse.dropWhile (· ≠ '/')).reverse, (s.reverse.takeWhile (· ≠ '/')).reverse, ?_, ?_,
    ?_⟩
  · rw [← List.reverse_append, List.takeWhile_append_dropWhile, List.reverse_reverse]
  · intro hmem
    have hne := List.mem_takeWhile_imp (List.mem_reverse.mp hmem)
    simp at hne
  · cases hdrop : s.reverse.dropWhile (· ≠ '/') with
    | nil => exact Or.inl rfl
    | cons a rest =>
        have hhead := List.head?_dropWhile_not (fun a => decide (a ≠ '/')) s.reverse
        rw [hdrop] at hhead
        obtain rfl : a = '/' := by simpa using hhead
        exact Or.inr ⟨rest.reverse, by simp⟩

theorem filter_splitOn_slashes
    {s : List Char}
    (h : ∀ a ∈ s, a = '/') :
    (Text.splitOn '/' s).filter (fun part => !part.isEmpty) = [] := by
  induction s with
  | nil => rfl
  | cons a s ih =>
      obtain rfl := h a List.mem_cons_self
      have hrest := ih fun b hb => h b (List.mem_cons_of_mem _ hb)
      simp [Text.splitOn, hrest]

/-- A path with a slash at its end marks its last name, if it has one. -/
theorem isSlashed_of_concat
    {g : List Char}
    (hpath : path.toList = g ++ ['/'])
    (hnamed : endsUnnamed path = false) :
    isSlashed path = true := by
  rw [isSlashed, decide_eq_true_eq]
  intro hbare
  have hreverse : path.toList.reverse = '/' :: g.reverse := by simp [hpath]
  unfold bare at hbare
  rw [hreverse, List.dropWhile_cons_of_pos (by simp)] at hbare
  dsimp only at hbare
  split at hbare
  · rename_i hnil
    have hall : ∀ a ∈ path.toList, a = '/' := by
      have hg := List.dropWhile_eq_nil_iff.mp
        (List.reverse_eq_nil_iff.mp (List.isEmpty_iff.mp hnil))
      intro a ha
      rw [hpath, List.mem_append, List.mem_singleton] at ha
      rcases ha with ha | rfl
      · simpa using hg a (List.mem_reverse.mpr ha)
      · rfl
    rw [endsUnnamed, filter_splitOn_slashes hall] at hnamed
    cases hnamed
  · have hshort := congrArg (fun p : String => p.toList.length) hbare
    have hle := (List.dropWhile_sublist (fun a => decide (a = '/')) (l := g.reverse)).length_le
    simp only [String.toList_ofList, List.length_reverse, hpath, List.length_append,
      List.length_singleton] at hshort hle
    omega

/-- A path that ends in a name and not in a slash has a name behind its last slash. -/
theorem exists_active_of_not_endsUnnamed
    (hnamed : endsUnnamed path = false)
    (hslash : isSlashed path = false) :
    ∃ front name, path.toList = front ++ name ∧ '/' ∉ name ∧
      (front = [] ∨ ∃ g, front = g ++ ['/']) ∧ name ≠ [] ∧ name ≠ ['.'] ∧ name ≠ ['.', '.'] := by
  obtain ⟨front, name, hpath, hplain, hclosed⟩ := exists_front path.toList
  have hne : name ≠ [] := by
    rintro rfl
    rw [List.append_nil] at hpath
    rcases hclosed with rfl | ⟨g, rfl⟩
    · rw [endsUnnamed, hpath] at hnamed
      cases hnamed
    · rw [isSlashed_of_concat hpath hnamed] at hslash
      cases hslash
  have hlast : ((Text.splitOn '/' path.toList).filter fun part => !part.isEmpty).getLast? =
      some name := by
    have hkept : [name].filter (fun part => !part.isEmpty) = [name] :=
      List.filter_eq_self.mpr (by simpa using hne)
    rw [hpath, splitOn_front_append hplain hclosed, List.filter_append, hkept,
      List.getLast?_concat]
  rw [endsUnnamed, hlast] at hnamed
  simp only [Bool.or_eq_false_iff, decide_eq_false_iff_not] at hnamed
  exact ⟨front, name, hpath, hplain, hclosed, hne, hnamed.1, hnamed.2⟩

/-- A file that is moved into place is put where the path leads to something that is no directory, or
to a free name. -/
theorem exists_spot_of_moveInto
    (h : d.moveInto path c = .ok d') :
    endsUnnamed path = false ∧ isSlashed path = false ∧
      ∃ place, d' = d.put place (.file c .secluded) ∧
        ((∃ t, d.locateEntry path = .ok (.found place t) ∧ t.isDirectory = false) ∨
          ∃ parent name slash, d.locateEntry path = .ok (.free parent name slash) ∧
            place = parent ++ [name]) := by
  unfold moveInto at h
  split at h
  · cases h
  · rename_i hnamed
    rw [Bool.not_eq_true] at hnamed
    have hslash : isSlashed path = false := by
      by_contra hslash
      rw [Bool.not_eq_false] at hslash
      simp only [hslash, if_true] at h
      split at h <;> cases h
    have hbare : bare path = path := by simpa [isSlashed] using hslash
    rw [hbare, hslash] at h
    refine ⟨hnamed, hslash, ?_⟩
    split at h
    · cases h
    · rename_i place t hlocate
      cases hdirectory : t.isDirectory with
      | true => simp [hdirectory] at h
      | false =>
          refine ⟨place, ?_, Or.inl ⟨t, hlocate, hdirectory⟩⟩
          simpa [hdirectory, eq_comm] using h
    · rename_i parent name slash hlocate
      refine ⟨parent ++ [name], ?_, Or.inr ⟨parent, name, slash, hlocate, rfl⟩⟩
      simpa [eq_comm] using h

/-- A name at which parts end is a fitting one. -/
theorem Leads.isNamed
    {final : Bool}
    {links : Nat}
    {p : Place}
    {name : List Char}
    {spot : Spot}
    (h : Leads d final links p [name] spot)
    (hactive : isActive name = true)
    (hup : name ≠ ['.', '.']) :
    IsNamed name := by
  cases h with
  | stay here idle behind =>
      rw [hactive] at idle
      cases idle
  | up here behind => exact absurd rfl hup
  | down here named found plain behind => exact named
  | link here named found meant behind => exact named
  | lastLink here named found itself => exact named
  | free here named missing last => exact named

/-- A file is moved into the directory that the front of its path leads into, under its name. -/
theorem exists_walk_of_moveInto
    (h : d.moveInto path c = .ok d') :
    ∃ front name left parent, EndsIn path front name ∧ Fits path ∧
      Enters d maxLinks [] (Text.splitOn '/' front).dropLast left parent ∧
      (∀ es, d.get? (parent ++ [String.ofList name]) ≠ some (.directory es)) ∧
      d' = d.put (parent ++ [String.ofList name]) (.file c .secluded) := by
  obtain ⟨hnamed, hslash, place, rfl, hspot⟩ := exists_spot_of_moveInto h
  obtain ⟨front, name, hpath, hplain, hclosed, hne, hhere, hup⟩ :=
    exists_active_of_not_endsUnnamed hnamed hslash
  obtain ⟨spot, hlocate⟩ : ∃ spot, d.locateEntry path = .ok spot := by
    rcases hspot with ⟨t, hlocate, -⟩ | ⟨parent, last, slash, hlocate, -⟩
    · exact ⟨_, hlocate⟩
    · exact ⟨_, hlocate⟩
  obtain ⟨hfits, -, hleads⟩ := leads_of_locateFrom hlocate
  rw [hpath, splitOn_front_append hplain hclosed] at hleads
  obtain ⟨left, parent, hwalk, hlast⟩ :=
    hleads.exists_enters (List.cons_ne_nil _ _) (Or.inr ⟨name, List.mem_singleton_self _, hne⟩)
  have named := hlast.isNamed (by simp [isActive, hne, hhere]) hup
  refine ⟨front, name, left, parent, ⟨hpath, named, hplain, hclosed⟩, hfits, hwalk, ?_⟩
  obtain ⟨es, hes⟩ := hwalk.stop
  have hfollow := hlast.follow_eq
  rw [follow_named hes named] at hfollow
  rw [hlocate] at hspot
  split at hfollow
  · rename_i target hfound
    cases hfollow
    rcases hspot with ⟨t, heq, -⟩ | ⟨q, last, slash, heq, -⟩ <;> cases heq
    exact ⟨fun es' => by simp [hfound], rfl⟩
  · rename_i t hplain' hfound
    rw [follow_nil hfound] at hfollow
    cases hfollow
    rcases hspot with ⟨t, heq, hfile⟩ | ⟨q, last, slash, heq, -⟩ <;> cases heq
    refine ⟨fun es' hes' => ?_, rfl⟩
    rw [hfound] at hes'
    cases hes'
    cases hfile
  · rename_i hmissing
    cases hfollow
    rcases hspot with ⟨t, heq, -⟩ | ⟨q, last, slash, heq, rfl⟩ <;> cases heq
    exact ⟨fun es' => by simp [hmissing], rfl⟩

/-- A replacement makes the directory around the path and moves the file into place. -/
theorem exists_made_of_replace
    (h : d.replace path c = (d', .ok ())) :
    ∃ made, d.ensureDirectory ((parent? path).getD ".") = .ok made ∧
      made.moveInto path c = .ok d' := by
  unfold replace at h
  split at h
  · cases h
  · rename_i made hmade
    refine ⟨made, ensureDirectory_eq_ok_iff.mpr hmade, ?_⟩
    split at h
    · cases h
    · rename_i written hmoved
      cases h
      exact hmoved

/-- A path leads nowhere, and not for too many links. -/
def LeadsNowhere
    (d : Disk)
    (path : String) :
    Prop :=
  ∃ fault, d.tree? path = .error fault ∧ fault ≠ .tooManyLinks

/-- A file that is made at a path which leads nowhere only extends the disk. -/
theorem extends_replace
    (hmade : d.ensureDirectory ((parent? path).getD ".") = .ok made)
    (hnowhere : made.LeadsNowhere path)
    (h : d.replace path c = (d', .ok ())) :
    Extends d d' ∧ ∃ place, d'.locate path = .ok (.found place (.file c .secluded)) := by
  obtain ⟨made', hmade', hmoved⟩ := exists_made_of_replace h
  obtain rfl : made = made' := Except.ok.inj (hmade.symm.trans hmade')
  obtain ⟨front, name, left, parent, hends, hfits, hwalk, hfile, rfl⟩ :=
    exists_walk_of_moveInto hmoved
  have hnone : ∀ links place t, ¬ Leads made true links parent [name] (.found place t) := by
    intro links place t hleads
    obtain ⟨fault, htree, hfault⟩ := hnowhere
    have hne : path.toList ≠ [] := by
      rw [hends.eq]
      exact List.append_ne_nil_of_right_ne_nil _ hends.named.ne_nil
    have hlocate : made.locate path = made.follow true left parent [name] := by
      rw [locate, locateFrom_eq hfits hne, hends.splitOn_eq,
        hwalk.follow_append true (Or.inl rfl)]
    unfold tree? at htree
    rcases hleads.follow_cases left with hfollow | ⟨-, hfollow⟩
    · rw [hlocate, hfollow] at htree
      cases htree
    · rw [hlocate, hfollow] at htree
      cases htree
      exact hfault rfl
  have room : Room made parent name := by
    refine ⟨hends.named, hwalk.stop, hfile, fun target hfound links left' q henters => ?_⟩
    obtain ⟨es, hes⟩ := hwalk.stop
    obtain ⟨es', hfollow⟩ := henters.follow_eq
    have hbehind := leads_of_follow hfollow
    rw [← List.append_nil (Text.splitOn '/' target.toList)] at hbehind
    exact hnone _ _ _ (.link hes hends.named hfound (Or.inl rfl) hbehind)
  exact ⟨(extends_ensureDirectory hmade).trans (room.extends_put rfl hnone), _,
    room.locate_put_self hends hfits hwalk rfl⟩

/-- A replacement changes the disk unless something is there already. -/
theorem exists?_of_replace_eq
    (h : d.replace path c = (d, .ok ())) :
    d.exists? path = true := by
  obtain ⟨made, hmade, hmoved⟩ := exists_made_of_replace h
  obtain ⟨front, name, left, parent, hends, hfits, hwalk, hfile, hput⟩ :=
    exists_walk_of_moveInto hmoved
  obtain ⟨es, hes⟩ := hwalk.stop
  have hnew : d.HasFile (parent ++ [String.ofList name]) c := by
    rw [hput, FileTree.HasFile, FileTree.get?_put hes]
    exact ⟨_, rfl⟩
  -- Making directories makes no file, so the file was there when it was moved into place.
  obtain ⟨traits, hold⟩ := (hasFile_ensureDirectory hmade _ _).mpr hnew
  have room : Room made parent name :=
    ⟨hends.named, hwalk.stop, hfile, fun target hlink => by rw [hold] at hlink; cases hlink⟩
  rw [hput, exists?_iff]
  exact ⟨_, _, room.locate_put_self hends hfits hwalk rfl⟩

theorem Holds.room
    {front name : List Char}
    {parent : Place}
    (h : Holds d front name parent)
    (named : IsNamed name) :
    Room d parent name := by
  obtain ⟨left, hwalk⟩ := h.walk
  exact ⟨named, hwalk.stop, h.file, h.blind⟩

/-- Where a file that can be read has been replaced, its path leads to the new file, and any other path
leads there if it led through the same entry, and else to what it led to before. -/
theorem exists_entry_of_replace
    {old : String}
    (hread : d.readText path = .ok old)
    (h : d.replace path c = (d', .ok ())) :
    ∃ entry, d'.locate path = .ok (.found entry (.file c .secluded)) ∧
      ∀ other place t, d.locate other = .ok (.found place t) →
        (place ≠ entry ∧ ∃ t', d'.locate other = .ok (.found place t') ∧
          (t' = t ∨ (t.isDirectory = true ∧ t'.isDirectory = true))) ∨
        (d.locate path = .ok (.found place t) ∧
          d'.locate other = .ok (.found entry (.file c .secluded))) := by
  obtain ⟨made, -, hmoved⟩ := exists_made_of_replace h
  obtain ⟨front, name, -, -, hends, -⟩ := exists_walk_of_moveInto hmoved
  obtain ⟨hfits, parent, hholds⟩ := exists_holds_of_readText hends hread
  have room := hholds.room hends.named
  obtain ⟨left, hwalk⟩ := hholds.walk
  rw [hholds.replace_eq hends hfits] at h
  obtain ⟨rfl, -⟩ := Prod.mk.inj h
  refine ⟨_, room.locate_put_self hends hfits hwalk rfl, fun other place t hother => ?_⟩
  have hfile : (FileTree.file c .secluded).isLink = false := rfl
  rcases room.locate_put hfile hother with hkept | ⟨hnew, links, hleads⟩
  · exact Or.inl hkept
  · refine Or.inr ⟨?_, hnew⟩
    obtain ⟨place', t', hlocate, -⟩ := exists_locate_of_readText hread
    obtain ⟨-, hne, hall⟩ := leads_of_locateFrom hlocate
    have hfollow := hall.follow_eq
    rw [hends.splitOn_eq, hwalk.follow_append true (Or.inl rfl)] at hfollow
    rw [hlocate, hleads.eq_of_follow hfollow]

end Paths

end Disk
end Runbook
