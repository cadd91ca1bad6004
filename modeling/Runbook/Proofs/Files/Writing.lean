import Runbook.Proofs.Files.Growth

/-!
# Writing files

A path below a directory leads to the entry that its name has there. So a write by such a path makes the
entry a file, where there was none or a file with one name only, and no other entry changes. Whatever its
path is like, a write does one of three things, and unless a device took it, it is read back.

Main statements: `Reaches.write_eq`, `LeadsInto.sameBut_put`, `written_of_write` and
`exists_locate_of_write`.
-/

namespace Runbook
namespace Disk

open Runbook.Path

/-! ## A directory that a path leads into -/

/-- The path of a directory leads into a place. -/
def LeadsInto
    (d : Disk)
    (base : String)
    (parent : Place) :
    Prop :=
  ∃ left, Enters d maxLinks [] (Text.splitOn '/' base.toList) left parent

section Join

variable {d d' : Disk}
variable {base name : String}
variable {parent : Place}
variable {c : Content}

theorem filter_frontOf (base : String) :
    (Text.splitOn '/' (frontOf base)).dropLast.filter isActive = activeParts base.toList := by
  have hclose (g : List Char) : (Text.splitOn '/' (g ++ ['/'])).dropLast = Text.splitOn '/' g := by
    rw [Text.splitOn_append_cons]
    exact List.dropLast_concat
  rcases frontOf_cases base with ⟨hfront, hbase⟩ | ⟨g, hfront, hbase⟩ | ⟨hfront, -⟩
  · rw [hfront, hbase]
    rfl
  · have hend : activeParts [] = [] := rfl
    rw [hfront, hbase, hclose, activeParts_append, hend, List.append_nil]
    rfl
  · rw [hfront, hclose]
    rfl

/-- What stands before the name of a path below a directory leads where the directory is. -/
theorem leadsInto_iff :
    d.LeadsInto base parent ↔
      ∃ left, Enters d maxLinks [] (Text.splitOn '/' (frontOf base)).dropLast left parent :=
  exists_congr fun _ =>
    ⟨fun h => h.of_filter_eq (filter_frontOf base).symm, fun h => h.of_filter_eq (filter_frontOf base)⟩

/-- A directory that a path leads into is there, and no other one. -/
theorem LeadsInto.stop
    (h : d.LeadsInto base parent) :
    ∃ es, d.get? parent = some (.directory es) := by
  obtain ⟨left, hwalk⟩ := h
  exact hwalk.stop

theorem LeadsInto.unique
    {parent' : Place}
    (h : d.LeadsInto base parent)
    (h' : d.LeadsInto base parent') :
    parent' = parent := by
  obtain ⟨left, hwalk⟩ := h
  obtain ⟨left', hwalk'⟩ := h'
  obtain ⟨es, hfollow⟩ := hwalk'.follow_eq
  obtain ⟨es', hspot⟩ := hwalk.eq_of_follow hfollow
  cases hspot
  rfl

/-- A name that stands for an entry, and for one only. -/
structure IsPlainName (name : String) : Prop where
  active : isActive name.toList = true
  ne_up : name.toList ≠ ['.', '.']
  plain : '/' ∉ name.toList

instance (name : String) : Decidable (IsPlainName name) :=
  decidable_of_iff
    (isActive name.toList = true ∧ name.toList ≠ ['.', '.'] ∧ '/' ∉ name.toList)
    ⟨fun h => ⟨h.1, h.2.1, h.2.2⟩, fun h => ⟨h.active, h.ne_up, h.plain⟩⟩

/-- The path of a name below a directory leads to the entry of the name in a place. -/
structure Reaches
    (d : Disk)
    (base name : String)
    (parent : Place) : Prop where
  into : d.LeadsInto base parent
  named : IsNamed name.toList
  plain : '/' ∉ name.toList
  fits : Fits (join base name)

/-- A path below a directory that leads anywhere leads to the entry of its name. -/
theorem exists_reaches_of_locateFrom
    {final : Bool}
    {spot : Spot}
    (hname : IsPlainName name)
    (h : d.locateFrom [] final (join base name) = .ok spot) :
    ∃ parent, d.Reaches base name parent := by
  obtain ⟨hfits, -, hleads⟩ := leads_of_locateFrom h
  have hne : name.toList ≠ [] := (of_decide_eq_true hname.active).1
  rw [toList_join (not_isAbsolute hname.plain),
    splitOn_front_append hname.plain (frontOf_closed base)] at hleads
  obtain ⟨left, parent, hwalk, hlast⟩ :=
    hleads.exists_enters (List.cons_ne_nil _ _) (Or.inr ⟨_, List.mem_singleton_self _, hne⟩)
  exact ⟨parent, leadsInto_iff.mpr ⟨_, hwalk⟩, hlast.isNamed hname.active hname.ne_up, hname.plain,
    hfits⟩

namespace Reaches

theorem exists_locateFrom
    (h : d.Reaches base name parent)
    (final : Bool) :
    ∃ left, d.locateFrom [] final (join base name) = d.follow final left parent [name.toList] := by
  obtain ⟨left, hwalk⟩ := leadsInto_iff.mp h.into
  have hends := endsIn_join h.named h.plain base
  have hne : (join base name).toList ≠ [] := by
    rw [hends.eq]
    exact List.append_ne_nil_of_right_ne_nil _ h.named.ne_nil
  refine ⟨left, ?_⟩
  rw [locateFrom_eq h.fits hne, hends.splitOn_eq, hwalk.follow_append final (Or.inr (by simp))]

/-- The path of the directory fits as well. -/
theorem fits_base
    (h : d.Reaches base name parent) :
    Fits base := by
  refine h.fits.of_sublist ?_
  rw [toList_join (not_isAbsolute h.plain)]
  refine List.Sublist.trans ?_ (List.sublist_append_left _ _)
  rcases frontOf_cases base with ⟨hfront, hbase⟩ | ⟨g, hfront, hbase⟩ | ⟨hfront, -⟩
  · rw [hfront, hbase]
  · rw [hfront, hbase]
  · rw [hfront]
    exact List.sublist_append_left _ _

/-- The path leads to an entry that is no link. -/
theorem locate_of_found
    {t : FileTree}
    (h : d.Reaches base name parent)
    (found : d.get? (parent ++ [name]) = some t)
    (noLink : t.isLink = false) :
    d.locate (join base name) = .ok (.found (parent ++ [name]) t) := by
  obtain ⟨left, hlocate⟩ := h.exists_locateFrom true
  obtain ⟨es, hes⟩ := h.into.stop
  have hentry : String.ofList name.toList = name := String.ofList_toList
  rw [locate, hlocate, follow_down hes h.named (by rwa [hentry]) noLink, hentry, follow_nil found]

/-- Where the directory has no such entry, the path leads to a free name. -/
theorem locateFrom_of_missing
    (h : d.Reaches base name parent)
    (missing : d.get? (parent ++ [name]) = none)
    (final : Bool) :
    d.locateFrom [] final (join base name) = .ok (.free parent name false) := by
  obtain ⟨left, hlocate⟩ := h.exists_locateFrom final
  obtain ⟨es, hes⟩ := h.into.stop
  have hentry : String.ofList name.toList = name := String.ofList_toList
  rw [hlocate, follow_missing hes h.named (by rwa [hentry]), hentry]
  rfl

/-- A path at which nothing is found, a link neither, has no entry. -/
theorem missing_of_locateEntry
    (h : d.Reaches base name parent)
    (hnothing : ∀ place t, d.locateEntry (join base name) ≠ .ok (.found place t)) :
    d.get? (parent ++ [name]) = none := by
  obtain ⟨left, hlocate⟩ := h.exists_locateFrom false
  obtain ⟨es, hes⟩ := h.into.stop
  cases found : d.get? (parent ++ [name]) with
  | none => rfl
  | some t =>
      exfalso
      rw [← @String.ofList_toList name] at found
      refine hnothing (parent ++ [String.ofList name.toList]) t ?_
      cases hlink : t.isLink with
      | false => rw [locateEntry, hlocate, follow_down hes h.named found hlink, follow_nil found]
      | true =>
          cases t with
          | link target => rw [locateEntry, hlocate, follow_lastLink hes h.named found]
          | file content traits => cases hlink
          | device kind => cases hlink
          | directory es' => cases hlink

end Reaches

/-! ## Writing below a directory -/

/-- An entry that a write makes a new file: none, or a file with one name. -/
def IsReplaceable (entry : Option FileTree) : Prop :=
  entry = none ∨ ∃ content, entry = some (.file content .plain)

theorem IsReplaceable.ne_directory
    {entry : Option FileTree}
    (h : IsReplaceable entry)
    (es : List (String × FileTree)) :
    entry ≠ some (.directory es) := by
  rcases h with rfl | ⟨content, rfl⟩ <;> simp

theorem IsReplaceable.ne_link
    {entry : Option FileTree}
    (h : IsReplaceable entry)
    (target : String) :
    entry ≠ some (.link target) := by
  rcases h with rfl | ⟨content, rfl⟩ <;> simp

/-- A write makes the entry that its path leads to a file. -/
theorem Reaches.overwrite_eq
    (h : d.Reaches base name parent)
    (entry : IsReplaceable (d.get? (parent ++ [name])))
    (c : Content) :
    d.overwrite (join base name) c = (d.put (parent ++ [name]) (.file c .plain), .ok ()) := by
  have hslashed : isSlashed (join base name) = false := by
    simp [isSlashed, (endsIn_join h.named h.plain base).bare_eq]
  unfold overwrite
  rw [hslashed, if_neg Bool.false_ne_true]
  rcases entry with hnone | ⟨old, hold⟩
  · rw [locate, h.locateFrom_of_missing hnone]
    simp [FileTree.store, hnone]
  · rw [h.locate_of_found hold rfl]
    simp [FileTree.store, FileTree.room?, hold, Traits.plain]

theorem Reaches.write_eq
    (h : d.Reaches base name parent)
    (entry : IsReplaceable (d.get? (parent ++ [name])))
    (c : Content) :
    d.write (join base name) c = .ok (d.put (parent ++ [name]) (.file c .plain)) :=
  write_eq_ok_iff.mpr (h.overwrite_eq entry c)

/-- The directory is still led into after such an entry has become something else. -/
theorem LeadsInto.put
    (h : d.LeadsInto base parent)
    (entry : IsReplaceable (d.get? (parent ++ [name])))
    (new : FileTree) :
    LeadsInto (d.put (parent ++ [name]) new) base parent := by
  obtain ⟨left, hwalk⟩ := h
  obtain ⟨es, hes⟩ := hwalk.stop
  exact ⟨left, hwalk.put hes entry.ne_directory
    (fun target htarget => absurd htarget (entry.ne_link target)) new⟩

/-- All other files stay when such an entry becomes a file. -/
theorem LeadsInto.sameBut_put
    (h : d.LeadsInto base parent)
    (entry : IsReplaceable (d.get? (parent ++ [name])))
    (c : Content) :
    FileTree.SameBut (parent ++ [name]) d (d.put (parent ++ [name]) (.file c .plain)) := by
  obtain ⟨es, hes⟩ := h.stop
  refine FileTree.sameBut_put hes entry.ne_directory fun q hq b => ?_
  exact FileTree.not_hasFile_of_ne_directory (fun es' heq => by cases heq) hq b

/-- A path by which a write succeeds leads to the entry of its name. -/
theorem exists_reaches_of_write
    (hname : IsPlainName name)
    (h : d.write (join base name) c = .ok d') :
    ∃ parent, d.Reaches base name parent := by
  have hwritten := write_eq_ok_iff.mp h
  unfold overwrite at hwritten
  split at hwritten
  · split at hwritten <;> cases hwritten
  · cases hlocate : d.locate (join base name) with
    | error e =>
        rw [hlocate] at hwritten
        cases hwritten
    | ok spot => exact exists_reaches_of_locateFrom hname hlocate

end Join

/-! ## Reading back what is written -/

section Back

variable {d d' : Disk}
variable {final : Bool}
variable {links : Nat}
variable {p q : Place}
variable {parts : List (List Char)}
variable {path : String}
variable {c : Content}

/-- Where there is a directory, the directories around it are there. -/
theorem exists_directory_dropLast
    {es : List (String × FileTree)}
    (h : d.get? p = some (.directory es)) :
    ∃ es', d.get? p.dropLast = some (.directory es') := by
  rcases List.eq_nil_or_concat' p with rfl | ⟨front, last, rfl⟩
  · exact ⟨es, h⟩
  · rw [List.dropLast_concat]
    rw [FileTree.get?_append, Option.bind_eq_some_iff] at h
    obtain ⟨t, ht, hentry⟩ := h
    obtain ⟨es', s, rfl, -, -⟩ := FileTree.exists_of_get?_cons hentry
    exact ⟨es', ht⟩

/-- A turn leads to a directory. -/
theorem exists_directory_turn
    {es : List (String × FileTree)}
    (h : d.get? p = some (.directory es))
    (target : List Char) :
    ∃ es', d.get? (turn p target) = some (.directory es') := by
  unfold turn
  split
  · cases p with
    | nil => exact ⟨es, h⟩
    | cons name rest =>
        obtain ⟨es', s, rfl, -, -⟩ := FileTree.exists_of_get?_cons h
        exact ⟨es', FileTree.get?_nil _⟩
  · exact ⟨es, h⟩

/-- Parts lead on from a directory. -/
theorem Leads.start
    {spot : Spot}
    (h : Leads d final links p parts spot)
    (hne : parts ≠ []) :
    ∃ es, d.get? p = some (.directory es) := by
  cases h with
  | here here => exact absurd rfl hne
  | stay here idle behind => exact ⟨_, here⟩
  | up here behind => exact ⟨_, here⟩
  | down here named found plain behind => exact ⟨_, here⟩
  | link here named found meant behind => exact ⟨_, here⟩
  | lastLink here named found itself => exact ⟨_, here⟩
  | free here named missing last => exact ⟨_, here⟩

/-- What is found from a directory on and is none itself is an entry of a directory. -/
theorem Leads.exists_entry
    {t : FileTree}
    (h : Leads d final links p parts (.found q t))
    (hp : ∃ es, d.get? p = some (.directory es))
    (ht : t.isDirectory = false) :
    ∃ parent part, q = parent ++ [String.ofList part] ∧ IsNamed part ∧
      ∃ es, d.get? parent = some (.directory es) := by
  generalize hspot : Spot.found q t = spot at h
  induction h with
  | here here =>
      cases hspot
      obtain ⟨es, hes⟩ := hp
      rw [here] at hes
      cases hes
      cases ht
  | stay here idle _ ih => exact ih hp hspot
  | up here _ ih => exact ih (exists_directory_dropLast here) hspot
  | down here named found plain behind ih =>
      -- Nothing is behind what is no directory.
      cases behind with
      | here here' =>
          cases hspot
          exact ⟨_, _, rfl, named, _, here⟩
      | stay here' => exact ih ⟨_, here'⟩ hspot
      | up here' => exact ih ⟨_, here'⟩ hspot
      | down here' => exact ih ⟨_, here'⟩ hspot
      | link here' => exact ih ⟨_, here'⟩ hspot
      | lastLink here' => exact ih ⟨_, here'⟩ hspot
      | free here' => cases hspot
  | link here named found meant _ ih => exact ih (exists_directory_turn here _) hspot
  | lastLink here named found itself =>
      cases hspot
      exact ⟨_, _, rfl, named, _, here⟩
  | free here named missing last => cases hspot

/-- With all links followed, what is found from a directory on is no link. -/
theorem Leads.isLink_eq
    {t : FileTree}
    (h : Leads d true links p parts (.found q t))
    (hp : ∃ es, d.get? p = some (.directory es)) :
    t.isLink = false := by
  generalize hspot : Spot.found q t = spot at h
  induction h with
  | here here =>
      cases hspot
      obtain ⟨es, hes⟩ := hp
      rw [here] at hes
      cases hes
      rfl
  | stay here idle _ ih => exact ih hp hspot
  | up here _ ih => exact ih (exists_directory_dropLast here) hspot
  | down here named found plain behind ih =>
      cases behind with
      | here here' =>
          cases hspot
          rw [here'] at found
          cases found
          exact plain
      | stay here' => exact ih ⟨_, here'⟩ hspot
      | up here' => exact ih ⟨_, here'⟩ hspot
      | down here' => exact ih ⟨_, here'⟩ hspot
      | link here' => exact ih ⟨_, here'⟩ hspot
      | lastLink here' named' found' itself => cases itself
      | free here' => cases hspot
  | link here named found meant _ ih => exact ih (exists_directory_turn here _) hspot
  | lastLink here named found itself => cases itself
  | free here named missing last => cases hspot

/-- Where parts lead to a free name, they lead to what is put there. -/
theorem Leads.put_free
    {parent : Place}
    {name : List Char}
    (h : Leads d true links p parts (.free parent (String.ofList name) false))
    (room : Room d parent name)
    (missing : d.get? (parent ++ [String.ofList name]) = none)
    (new : FileTree)
    (hnew : new.isLink = false) :
    Leads (d.put (parent ++ [String.ofList name]) new) true links p parts
      (.found (parent ++ [String.ofList name]) new) := by
  generalize hspot : Spot.free parent (String.ofList name) false = spot at h
  induction h with
  | here here => cases hspot
  | stay here idle _ ih =>
      obtain ⟨es', hes⟩ := room.exists_directory_put here new
      exact .stay hes idle (ih hspot)
  | up here _ ih =>
      obtain ⟨es', hes⟩ := room.exists_directory_put here new
      exact .up hes (ih hspot)
  | down here named found plain _ ih =>
      obtain ⟨es', hes⟩ := room.exists_directory_put here new
      obtain ⟨t', ht', hplain⟩ := room.exists_plain_put found plain hnew
      exact .down hes named ht' hplain (ih hspot)
  | @link links p es part rest target spot here named found meant _ ih =>
      obtain ⟨es', hes⟩ := room.exists_directory_put here new
      have hne : p ++ [String.ofList part] ≠ parent ++ [String.ofList name] := by
        intro heq
        rw [heq, missing] at found
        cases found
      exact .link hes named (room.get?_put_link hne found new) meant (ih hspot)
  | lastLink here named found itself => cases itself
  | @free links p es part rest here named missing' last =>
      obtain ⟨rfl, hname, hrest⟩ := Spot.free.inj hspot
      obtain rfl : name = part := String.ofList_inj.mp hname
      obtain rfl : rest = [] := by simpa using hrest
      obtain ⟨es', hes⟩ := room.exists_directory_put here new
      exact .down hes named (room.get?_put new) hnew (.here (room.get?_put new))

/-! ### Files with several names -/

theorem get?_rewriteTwinsAmong
    (twin : Nat)
    (c : Content)
    (es : List (String × FileTree))
    (name : String) :
    Dict.get? (FileTree.rewriteTwinsAmong twin c es) name =
      (Dict.get? es name).map (FileTree.rewriteTwins twin c) := by
  induction es with
  | nil => rfl
  | cons e rest ih =>
      rw [FileTree.rewriteTwinsAmong, Dict.get?, Dict.get?]
      split
      · rfl
      · exact ih

theorem get?_rewriteTwins
    (twin : Nat)
    (c : Content)
    (t : FileTree)
    (place : Place) :
    (FileTree.rewriteTwins twin c t).get? place =
      (t.get? place).map (FileTree.rewriteTwins twin c) := by
  induction place generalizing t with
  | nil => simp
  | cons name rest ih =>
      cases t with
      | directory es =>
          rw [FileTree.rewriteTwins, FileTree.get?_directory_cons, FileTree.get?_directory_cons,
            get?_rewriteTwinsAmong]
          cases Dict.get? es name with
          | none => rfl
          | some u => exact ih u
      | file content traits => rfl
      | link target => rfl
      | device kind => rfl

/-- Two disks have directories in the same places, links in the same places, and anything else in the
same places. -/
structure SameShape (d d' : Disk) : Prop where
  directory : ∀ p, (∃ es, d.get? p = some (.directory es)) ↔ ∃ es, d'.get? p = some (.directory es)
  link : ∀ p target, d.get? p = some (.link target) ↔ d'.get? p = some (.link target)
  taken : ∀ p, (∃ t, d.get? p = some t) ↔ ∃ t, d'.get? p = some t

theorem SameShape.symm
    (h : SameShape d d') :
    SameShape d' d :=
  ⟨fun p => (h.directory p).symm, fun p target => (h.link p target).symm, fun p => (h.taken p).symm⟩

/-- Rewriting a file under all its names leaves the shape of the disk. -/
theorem sameShape_rewriteTwins
    (twin : Nat)
    (c : Content)
    (d : Disk) :
    SameShape d (FileTree.rewriteTwins twin c d) := by
  refine ⟨fun p => ?_, fun p target => ?_, fun p => ?_⟩
  all_goals
    rw [get?_rewriteTwins]
    rcases d.get? p with - | (es | ⟨content, traits⟩ | target' | kind) <;>
      simp [FileTree.rewriteTwins]

/-- What is no link stays none on a disk of the same shape. -/
theorem SameShape.exists_plain
    {t : FileTree}
    (h : SameShape d d')
    (found : d.get? p = some t)
    (plain : t.isLink = false) :
    ∃ t', d'.get? p = some t' ∧ t'.isLink = false := by
  obtain ⟨t', ht'⟩ := (h.taken p).mp ⟨t, found⟩
  refine ⟨t', ht', FileTree.isLink_eq_false_iff.mpr ?_⟩
  rintro target rfl
  rw [(h.link p target).mpr ht'] at found
  cases found
  cases plain

/-- Parts lead to the same places on disks of the same shape. -/
theorem Leads.of_sameShape
    {t : FileTree}
    (h : Leads d final links p parts (.found q t))
    (shape : SameShape d d') :
    ∃ t', Leads d' final links p parts (.found q t') := by
  generalize hspot : Spot.found q t = spot at h
  induction h with
  | here here =>
      cases hspot
      obtain ⟨t', ht'⟩ := (shape.taken _).mp ⟨_, here⟩
      exact ⟨t', .here ht'⟩
  | stay here idle _ ih =>
      obtain ⟨es', hes⟩ := (shape.directory _).mp ⟨_, here⟩
      obtain ⟨t', ht'⟩ := ih hspot
      exact ⟨t', .stay hes idle ht'⟩
  | up here _ ih =>
      obtain ⟨es', hes⟩ := (shape.directory _).mp ⟨_, here⟩
      obtain ⟨t', ht'⟩ := ih hspot
      exact ⟨t', .up hes ht'⟩
  | down here named found plain _ ih =>
      obtain ⟨es', hes⟩ := (shape.directory _).mp ⟨_, here⟩
      obtain ⟨u', hu', hplain⟩ := shape.exists_plain found plain
      obtain ⟨t', ht'⟩ := ih hspot
      exact ⟨t', .down hes named hu' hplain ht'⟩
  | link here named found meant _ ih =>
      obtain ⟨es', hes⟩ := (shape.directory _).mp ⟨_, here⟩
      obtain ⟨t', ht'⟩ := ih hspot
      exact ⟨t', .link hes named ((shape.link _ _).mp found) meant ht'⟩
  | lastLink here named found itself =>
      cases hspot
      obtain ⟨es', hes⟩ := (shape.directory _).mp ⟨_, here⟩
      exact ⟨_, .lastLink hes named ((shape.link _ _).mp found) itself⟩
  | free here named missing last => cases hspot

/-- Parts lead into the same directories on disks of the same shape. -/
theorem Enters.of_sameShape
    {left : Nat}
    (h : Enters d links p parts left q)
    (shape : SameShape d d') :
    Enters d' links p parts left q := by
  induction h with
  | done here =>
      obtain ⟨es', hes⟩ := (shape.directory _).mp ⟨_, here⟩
      exact .done hes
  | stay here idle _ ih =>
      obtain ⟨es', hes⟩ := (shape.directory _).mp ⟨_, here⟩
      exact .stay hes idle ih
  | up here _ ih =>
      obtain ⟨es', hes⟩ := (shape.directory _).mp ⟨_, here⟩
      exact .up hes ih
  | down here named _ ih =>
      obtain ⟨es', hes⟩ := (shape.directory _).mp ⟨_, here⟩
      exact .down hes named ih
  | link here named found _ ih =>
      obtain ⟨es', hes⟩ := (shape.directory _).mp ⟨_, here⟩
      exact .link hes named ((shape.link _ _).mp found) ih

/-- A path leads to the same place on disks of the same shape. -/
theorem SameShape.exists_locate
    {t : FileTree}
    (shape : SameShape d d')
    (h : d.locate path = .ok (.found q t)) :
    d.get? q = some t ∧ ∃ t', d'.get? q = some t' ∧ d'.locate path = .ok (.found q t') := by
  obtain ⟨hfits, hne, hleads⟩ := leads_of_locateFrom h
  obtain ⟨t', hleads'⟩ := hleads.of_sameShape shape
  exact ⟨hleads.get?_eq, t', hleads'.get?_eq, locateFrom_of_leads hfits hne hleads'⟩

/-- Rewriting a file under all its names changes no way. -/
theorem locate_rewriteTwins
    {t : FileTree}
    (h : d.locate path = .ok (.found q t))
    (twin : Nat)
    (c : Content) :
    locate (FileTree.rewriteTwins twin c d) path =
      .ok (.found q (FileTree.rewriteTwins twin c t)) := by
  obtain ⟨hplace, t', hplace', hlocate⟩ := (sameShape_rewriteTwins twin c d).exists_locate h
  rw [get?_rewriteTwins, hplace, Option.map_some] at hplace'
  obtain rfl : FileTree.rewriteTwins twin c t = t' := Option.some.inj hplace'
  exact hlocate

/-! ### All writes -/

/-- What a write can do: a device takes what is written and stays, a file with several names is rewritten
under all of them, and a file with one name or with none yet is put in its place. -/
inductive Written (d : Disk) (path : String) (c : Content) : Disk → Prop where
  | device
      {place : Place}
      {kind : Device}
      (here : d.locate path = .ok (.found place (.device kind))) :
      Written d path c d
  | twins
      {place : Place}
      {old : Content}
      {traits : Traits}
      {twin : Nat}
      (here : d.locate path = .ok (.found place (.file old traits)))
      (names : traits.twin = some twin) :
      Written d path c (FileTree.rewriteTwins twin c d)
  | put
      {parent : Place}
      {name : List Char}
      {traits : Traits}
      (room : Room d parent name)
      (alone : traits.twin = none)
      (old : ∀ place t, d.locate path = .ok (.found place t) →
        place = parent ++ [String.ofList name] ∧ ∃ content, t = .file content traits)
      (here : locate (d.put (parent ++ [String.ofList name]) (.file c traits)) path =
        .ok (.found (parent ++ [String.ofList name]) (.file c traits))) :
      Written d path c (d.put (parent ++ [String.ofList name]) (.file c traits))

/-- A file stored where it is. -/
theorem written_of_found
    {place : Place}
    {old : Content}
    {traits : Traits}
    (h : d.locate path = .ok (.found place (.file old traits)))
    (c : Content) :
    Written d path c (d.store place c) := by
  obtain ⟨-, -, hleads⟩ := leads_of_locateFrom h
  have hplace : d.get? place = some (.file old traits) := hleads.get?_eq
  cases htwin : traits.twin with
  | some twin =>
      have hstore : d.store place c = FileTree.rewriteTwins twin c d := by
        simp [FileTree.store, hplace, htwin]
      rw [hstore]
      exact .twins h htwin
  | none =>
      have hstore : d.store place c = d.put place (.file c traits) := by
        simp [FileTree.store, hplace, htwin]
      obtain ⟨parent, name, rfl, named, around⟩ :=
        hleads.exists_entry (hleads.start (Text.splitOn_ne_nil _ _)) rfl
      have room : Room d parent name :=
        ⟨named, around, fun es => by simp [hplace], fun target => by simp [hplace]⟩
      rw [hstore]
      refine .put room htwin (fun place t hfound => ?_) ?_
      · rw [h] at hfound
        cases hfound
        exact ⟨rfl, old, rfl⟩
      · have hnew : (FileTree.file c traits).isLink = false := rfl
        rcases room.locate_put hnew h with ⟨hother, -⟩ | ⟨hback, -⟩
        · exact absurd rfl hother
        · exact hback

/-- A file stored under a free name. -/
theorem written_of_free
    {parent : Place}
    {name : String}
    (h : d.locate path = .ok (.free parent name false))
    (c : Content) :
    Written d path c (d.store (parent ++ [name]) c) := by
  obtain ⟨hfits, hne, hleads⟩ := leads_of_locateFrom h
  obtain ⟨part, named, rfl, around, missing⟩ := hleads.exists_missing
  have room : Room d parent part :=
    ⟨named, around, fun es => by simp [missing], fun target => by simp [missing]⟩
  have hput := hleads.put_free room missing (.file c .plain) rfl
  unfold FileTree.store
  rw [missing]
  refine .put room rfl (fun place t hfound => ?_)
    (locateFrom_of_leads hfits hne hput)
  rw [h] at hfound
  cases hfound

/-- Whatever a path leads to, what is stored there is written by the path, unless it is a directory. -/
theorem written_of_locate
    {place : Place}
    {t : FileTree}
    (h : d.locate path = .ok (.found place t))
    (plain : t.isDirectory = false)
    (c : Content) :
    Written d path c (d.store place c) := by
  obtain ⟨-, -, hleads⟩ := leads_of_locateFrom h
  cases t with
  | file old traits => exact written_of_found h c
  | directory es => cases plain
  | device kind =>
      have hstore : d.store place c = d := by
        simp [FileTree.store, hleads.get?_eq]
      rw [hstore]
      exact .device h
  | link target =>
      have hlink := hleads.isLink_eq (hleads.start (Text.splitOn_ne_nil _ _))
      cases hlink

/-- A write goes well, or it leaves the disk, or there is room for the front of the content only and that is
what has been written. -/
theorem overwrite_cases
    (d : Disk)
    (path : String)
    (c : Content) :
    (∃ d', d.overwrite path c = (d', .ok ()) ∧ Written d path c d') ∨
      (∃ e, d.overwrite path c = (d, .error e)) ∨
      ∃ d' n, d.overwrite path c = (d', .error .noRoom) ∧ Written d path (c.cut n) d' := by
  unfold overwrite
  split
  · split
    · exact Or.inr (Or.inl ⟨_, rfl⟩)
    · exact Or.inr (Or.inl ⟨_, rfl⟩)
  · split
    · exact Or.inr (Or.inl ⟨_, rfl⟩)
    · exact Or.inr (Or.inl ⟨_, rfl⟩)
    · rename_i place t hdirectory hlocate
      have hwritten := written_of_locate hlocate (FileTree.isDirectory_eq_false_iff.mpr hdirectory)
      split
      · exact Or.inl ⟨_, rfl, hwritten c⟩
      · rename_i n hroom
        split
        · exact Or.inl ⟨_, rfl, hwritten c⟩
        · exact Or.inr (Or.inr ⟨_, n, rfl, hwritten _⟩)
    · rename_i parent name slash hlocate
      split
      · exact Or.inr (Or.inl ⟨_, rfl⟩)
      · rename_i hslash
        obtain rfl : slash = false := by simpa using hslash
        exact Or.inl ⟨_, rfl, written_of_free hlocate c⟩

theorem written_of_write
    (h : d.write path c = .ok d') :
    Written d path c d' := by
  have hwritten := write_eq_ok_iff.mp h
  rcases overwrite_cases d path c with ⟨d'', heq, hdone⟩ | ⟨e, heq⟩ | ⟨d'', n, heq, -⟩
  · rw [heq] at hwritten
    cases hwritten
    exact hdone
  · rw [heq] at hwritten
    cases hwritten
  · rw [heq] at hwritten
    cases hwritten

/-- Unless a path leads to a device, it leads to a file with what has been written by it. -/
theorem exists_locate_of_write
    (h : d.write path c = .ok d')
    (noDevice : ∀ place kind, d.locate path ≠ .ok (.found place (.device kind))) :
    ∃ place traits, d'.locate path = .ok (.found place (.file c traits)) := by
  cases written_of_write h with
  | device here => exact absurd here (noDevice _ _)
  | @twins place old traits twin here names =>
      have hback := locate_rewriteTwins here twin c
      rw [FileTree.rewriteTwins, if_pos names] at hback
      exact ⟨_, _, hback⟩
  | put room alone old here => exact ⟨_, _, here⟩

/-- A device takes what is written and stays. -/
theorem write_device
    {place : Place}
    {kind : Device}
    (hlocate : d.locate path = .ok (.found place (.device kind)))
    (h : d.write path c = .ok d') :
    d' = d := by
  cases written_of_write h with
  | device here => rfl
  | twins here names =>
      rw [hlocate] at here
      cases here
  | put room alone old here =>
      obtain ⟨-, content, hfile⟩ := old _ _ hlocate
      cases hfile

end Back

end Disk
end Runbook
