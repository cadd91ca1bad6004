import Runbook.Proofs.Files.Altering

/-!
# Making directories

A directory is made where its path leads to a free name, and the path leads into it afterwards. With all
directories around it, a directory is made from the first one that is missing on: each of them is new and
holds nothing but the next one, as long as the path does not go back. So below a directory that was there
one entry is put, and a directory that was not there holds one entry only.

Whatever a path led to nothing before and leads somewhere once something is put where nothing was, it lacks
the entry of that name.

Main statements: `LeadsInto.locate_join_iff`, `leads_or_lacks_of_put`, `Makes.exists_empty` and
`exists_made_of_ensureDirectory`.
-/

namespace Runbook

namespace FileTree

/-- What is put below a tree is put into that tree. -/
theorem put_append
    {t u : FileTree}
    {p q : Place}
    (h : t.get? p = some u)
    (hq : q ≠ [])
    (new : FileTree) :
    t.put (p ++ q) new = t.put p (u.put q new) := by
  induction p generalizing t with
  | nil =>
      obtain rfl : t = u := by simpa using h
      rw [List.nil_append, put]
  | cons name p ih =>
      obtain ⟨es, s, rfl, hs, hu⟩ := exists_of_get?_cons h
      obtain ⟨next, rest, hrest⟩ := List.exists_cons_of_ne_nil (List.append_ne_nil_of_right_ne_nil p hq)
      have hinner := ih hu
      rw [hrest] at hinner
      rw [List.cons_append, hrest, put, hs]
      · dsimp only
        rw [hinner]
        cases p with
        | nil => simp [put]
        | cons other p => simp [put, hs]
      · simp

/-- Of a tree that is put and what is put below it, the tree that has both stays. -/
theorem put_put_below
    {t v : FileTree}
    {parent q : Place}
    {es : List (String × FileTree)}
    {name : String}
    (h : t.get? parent = some (.directory es))
    (hq : q ≠ [])
    (new : FileTree) :
    (t.put (parent ++ [name]) v).put (parent ++ [name] ++ q) new =
      t.put (parent ++ [name]) (v.put q new) := by
  rw [put_append (get?_put h v) hq, put_put h]

section Entry

variable {t new : FileTree}
variable {parent rest : Place}
variable {es : List (String × FileTree)}
variable {name other : String}

end Entry

end FileTree

namespace Disk

open Runbook.Path

/-! ## Where paths below a directory lead -/

section Ways

variable {d : Disk}
variable {links left left' : Nat}
variable {p q r : Place}
variable {parts parts' : List (List Char)}

/-- Walks are put together. -/
theorem Enters.append
    (h : Enters d links p parts left q)
    (h' : Enters d left q parts' left' r) :
    Enters d links p (parts ++ parts') left' r := by
  induction h with
  | done here => exact h'
  | stay here idle _ ih => exact .stay here idle (ih h')
  | up here _ ih => exact .up here (ih h')
  | down here named _ ih => exact .down here named (ih h')
  | link here named found _ ih =>
      have hbehind := ih h'
      rw [List.append_assoc] at hbehind
      exact .link here named found hbehind

/-- What leads to a directory is a walk into it. -/
theorem Leads.exists_enters_directory
    {es : List (String × FileTree)}
    (h : Leads d true links p parts (.found q (.directory es))) :
    ∃ left, Enters d links p parts left q := by
  generalize hspot : Spot.found q (.directory es) = spot at h
  induction h with
  | here here =>
      cases hspot
      exact ⟨_, .done here⟩
  | stay here idle _ ih =>
      obtain ⟨left, hwalk⟩ := ih hspot
      exact ⟨left, .stay here idle hwalk⟩
  | up here _ ih =>
      obtain ⟨left, hwalk⟩ := ih hspot
      exact ⟨left, .up here hwalk⟩
  | down here named _ _ _ ih =>
      obtain ⟨left, hwalk⟩ := ih hspot
      exact ⟨left, .down here named hwalk⟩
  | link here named found _ _ ih =>
      obtain ⟨left, hwalk⟩ := ih hspot
      exact ⟨left, .link here named found hwalk⟩
  | lastLink here named found itself => cases itself
  | free here named missing last => cases hspot

/-- The way of parts ends at a name that a directory does not have, which stands at a place. -/
inductive Lacks (d : Disk) : Nat → Place → List (List Char) → Place → Prop where
  | here
      {links : Nat}
      {p : Place}
      {es : List (String × FileTree)}
      {part : List Char}
      {rest : List (List Char)}
      (here : d.get? p = some (.directory es))
      (named : IsNamed part)
      (missing : d.get? (p ++ [String.ofList part]) = none) :
      Lacks d links p (part :: rest) (p ++ [String.ofList part])
  | stay
      {links : Nat}
      {p q : Place}
      {es : List (String × FileTree)}
      {part : List Char}
      {rest : List (List Char)}
      (here : d.get? p = some (.directory es))
      (idle : isActive part = false)
      (behind : Lacks d links p rest q) :
      Lacks d links p (part :: rest) q
  | up
      {links : Nat}
      {p q : Place}
      {es : List (String × FileTree)}
      {rest : List (List Char)}
      (here : d.get? p = some (.directory es))
      (behind : Lacks d links p.dropLast rest q) :
      Lacks d links p (['.', '.'] :: rest) q
  | down
      {links : Nat}
      {p q : Place}
      {es : List (String × FileTree)}
      {part : List Char}
      {rest : List (List Char)}
      {t : FileTree}
      (here : d.get? p = some (.directory es))
      (named : IsNamed part)
      (found : d.get? (p ++ [String.ofList part]) = some t)
      (plain : t.isLink = false)
      (behind : Lacks d links (p ++ [String.ofList part]) rest q) :
      Lacks d links p (part :: rest) q
  | link
      {links : Nat}
      {p q : Place}
      {es : List (String × FileTree)}
      {part : List Char}
      {rest : List (List Char)}
      {target : String}
      (here : d.get? p = some (.directory es))
      (named : IsNamed part)
      (found : d.get? (p ++ [String.ofList part]) = some (.link target))
      (behind : Lacks d links (turn p target.toList) (Text.splitOn '/' target.toList ++ rest) q) :
      Lacks d (links + 1) p (part :: rest) q

/-- What walks lead to, they lack together with what is lacked there. -/
theorem Enters.lacks
    (h : Enters d links p parts left q)
    (hlacks : Lacks d left q parts' r) :
    Lacks d links p (parts ++ parts') r := by
  induction h with
  | done here => exact hlacks
  | stay here idle _ ih => exact .stay here idle (ih hlacks)
  | up here _ ih => exact .up here (ih hlacks)
  | @down links left p q es part rest here named behind ih =>
      obtain ⟨es', hes⟩ := behind.start
      exact .down here named hes rfl (ih hlacks)
  | link here named found _ ih =>
      have hbehind := ih hlacks
      rw [List.append_assoc] at hbehind
      exact .link here named found hbehind

/-- What is lacked behind a walk is lacked where the walk leads to. -/
theorem Enters.lacks_behind
    (h : Enters d links p parts left q)
    (hlacks : Lacks d links p (parts ++ parts') r) :
    Lacks d left q parts' r := by
  induction h with
  | done here => exact hlacks
  | @stay links left p q es part rest here idle _ ih =>
      have hnamed : ¬ IsNamed part := fun named => by simp [named.isActive] at idle
      cases hlacks with
      | here _ named => exact absurd named hnamed
      | stay _ _ behind => exact ih behind
      | up => cases idle
      | down _ named => exact absurd named hnamed
      | link _ named => exact absurd named hnamed
  | up here _ ih =>
      cases hlacks with
      | here _ named => exact absurd rfl named.ne_up
      | stay _ idle => cases idle
      | up _ behind => exact ih behind
      | down _ named => exact absurd rfl named.ne_up
      | link _ named => exact absurd rfl named.ne_up
  | down here named behind ih =>
      obtain ⟨es, hes⟩ := behind.start
      cases hlacks with
      | here _ _ missing =>
          rw [hes] at missing
          cases missing
      | stay _ idle =>
          rw [named.isActive] at idle
          cases idle
      | up => exact absurd rfl named.ne_up
      | down _ _ _ _ hbehind => exact ih hbehind
      | link _ _ found =>
          rw [hes] at found
          cases found
  | link here named found _ ih =>
      cases hlacks with
      | here _ _ missing =>
          rw [found] at missing
          cases missing
      | stay _ idle =>
          rw [named.isActive] at idle
          cases idle
      | up => exact absurd rfl named.ne_up
      | down _ _ found' plain =>
          rw [found] at found'
          cases found'
          cases plain
      | link _ _ found' hbehind =>
          rw [found] at found'
          cases found'
          refine ih ?_
          rw [List.append_assoc]
          exact hbehind

section Put

variable {parent : Place}
variable {name : List Char}
variable {new t u : FileTree}
variable (room : Room d parent name)
variable (missing : d.get? (parent ++ [String.ofList name]) = none)

include room missing

/-- Once something has been put where nothing was, a place that was there holds what it held, or a directory
with more in it. -/
theorem eq_or_directory_of_put
    (ht : d.get? p = some t)
    (hu : (d.put (parent ++ [String.ofList name]) new).get? p = some u) :
    u = t ∨ (t.isDirectory = true ∧ u.isDirectory = true) := by
  obtain ⟨around, haround⟩ := room.around
  have houtside : ¬ parent ++ [String.ofList name] <+: p := by
    rintro ⟨rest, rfl⟩
    rw [FileTree.get?_append, missing] at ht
    cases ht
  obtain ⟨t', ht', hsame⟩ := FileTree.exists_get?_of_put_outside haround houtside hu
  obtain rfl : t = t' := Option.some.inj (ht.symm.trans ht')
  exact hsame

theorem exists_directory_of_put
    {es : List (String × FileTree)}
    (ht : d.get? p = some t)
    (hes : (d.put (parent ++ [String.ofList name]) new).get? p = some (.directory es)) :
    ∃ es', d.get? p = some (.directory es') := by
  rcases eq_or_directory_of_put room missing ht hes with rfl | ⟨hdir, -⟩
  · exact ⟨es, ht⟩
  · obtain ⟨es', rfl⟩ := FileTree.isDirectory_iff.mp hdir
    exact ⟨es', ht⟩

/-- An entry of a directory that is new is the one that has been put, and was lacked before. -/
theorem lacks_of_put
    {es : List (String × FileTree)}
    {part : List Char}
    {rest : List (List Char)}
    (hes : d.get? p = some (.directory es))
    (named : IsNamed part)
    (found : (d.put (parent ++ [String.ofList name]) new).get? (p ++ [String.ofList part]) = some t)
    (hnone : d.get? (p ++ [String.ofList part]) = none) :
    Lacks d links p (part :: rest) (parent ++ [String.ofList name]) := by
  obtain ⟨around, haround⟩ := room.around
  have hself : p ++ [String.ofList part] = parent ++ [String.ofList name] := by
    by_contra hne
    have houtside : ¬ parent ++ [String.ofList name] <+: p ++ [String.ofList part] := by
      intro hbelow
      rcases List.prefix_concat_iff.mp hbelow with heq | ⟨rest', rfl⟩
      · exact hne heq.symm
      · rw [FileTree.get?_append, missing] at hes
        cases hes
    obtain ⟨t', ht', -⟩ := FileTree.exists_get?_of_put_outside haround houtside found
    rw [hnone] at ht'
    cases ht'
  exact hself ▸ .here hes named hnone

/-- Parts lead from a directory that was there to what they led to, or they lacked the name of what has been
put. -/
theorem leads_or_lacks_of_put
    (hp : ∃ t, d.get? p = some t)
    (h : Leads (d.put (parent ++ [String.ofList name]) new) true links p parts (.found q u)) :
    (∃ u', Leads d true links p parts (.found q u')) ∨
      Lacks d links p parts (parent ++ [String.ofList name]) := by
  generalize hspot : Spot.found q u = spot at h
  induction h with
  | here here =>
      cases hspot
      obtain ⟨t, ht⟩ := hp
      exact .inl ⟨t, .here ht⟩
  | stay here idle _ ih =>
      obtain ⟨t, ht⟩ := hp
      obtain ⟨es, hes⟩ := exists_directory_of_put room missing ht here
      rcases ih ⟨t, ht⟩ hspot with ⟨u', hu'⟩ | hlacks
      · exact .inl ⟨u', .stay hes idle hu'⟩
      · exact .inr (.stay hes idle hlacks)
  | up here _ ih =>
      obtain ⟨t, ht⟩ := hp
      obtain ⟨es, hes⟩ := exists_directory_of_put room missing ht here
      obtain ⟨es', hes'⟩ := exists_directory_dropLast hes
      rcases ih ⟨_, hes'⟩ hspot with ⟨u', hu'⟩ | hlacks
      · exact .inl ⟨u', .up hes hu'⟩
      · exact .inr (.up hes hlacks)
  | @down links p es part rest t spot here named found plain' _ ih =>
      obtain ⟨t₀, ht₀⟩ := hp
      obtain ⟨es', hes⟩ := exists_directory_of_put room missing ht₀ here
      cases hentry : d.get? (p ++ [String.ofList part]) with
      | none => exact .inr (lacks_of_put room missing hes named found hentry)
      | some t' =>
          have hlink : t'.isLink = false := by
            rcases eq_or_directory_of_put room missing hentry found with rfl | ⟨hdir, -⟩
            · exact plain'
            · exact FileTree.isLink_of_isDirectory hdir
          rcases ih ⟨t', hentry⟩ hspot with ⟨u', hu'⟩ | hlacks
          · exact .inl ⟨u', .down hes named hentry hlink hu'⟩
          · exact .inr (.down hes named hentry hlink hlacks)
  | @link links p es part rest target spot here named found meant _ ih =>
      obtain ⟨t₀, ht₀⟩ := hp
      obtain ⟨es', hes⟩ := exists_directory_of_put room missing ht₀ here
      cases hentry : d.get? (p ++ [String.ofList part]) with
      | none => exact .inr (lacks_of_put room missing hes named found hentry)
      | some t' =>
          obtain rfl : .link target = t' := by
            rcases eq_or_directory_of_put room missing hentry found with heq | ⟨-, htarget⟩
            · exact heq
            · cases htarget
          obtain ⟨es'', hturn⟩ := exists_directory_turn hes target.toList
          rcases ih ⟨_, hturn⟩ hspot with ⟨u', hu'⟩ | hlacks
          · exact .inl ⟨u', .link hes named hentry meant hu'⟩
          · exact .inr (.link hes named hentry hlacks)
  | lastLink here named found itself => cases itself
  | free here named missing last => cases hspot

end Put

end Ways

section Below

variable {d d' : Disk}
variable {base name path : String}
variable {parent place : Place}
variable {es : List (String × FileTree)}
variable {t : FileTree}

/-- The way of a path ends at a name that a directory does not have, which stands at a place. -/
def LacksAt
    (d : Disk)
    (path : String)
    (q : Place) : Prop :=
  Lacks d maxLinks [] (Text.splitOn '/' path.toList) q

/-- After something has been put where nothing was, a path leads to what it led to, or it lacked the name of
what has been put. -/
theorem locate_or_lacksAt_of_put
    {part : List Char}
    {new u : FileTree}
    (room : Room d parent part)
    (missing : d.get? (parent ++ [String.ofList part]) = none)
    (h : locate (d.put (parent ++ [String.ofList part]) new) path = .ok (.found place u)) :
    (∃ u', d.locate path = .ok (.found place u')) ∨
      d.LacksAt path (parent ++ [String.ofList part]) := by
  obtain ⟨hfits, hne, hleads⟩ := leads_of_locateFrom h
  refine (leads_or_lacks_of_put room missing ⟨d, FileTree.get?_nil d⟩ hleads).imp_left ?_
  rintro ⟨u', hu'⟩
  exact ⟨u', locateFrom_of_leads hfits hne hu'⟩

/-- So a path that did not lack the name leads to what it led to, a directory perhaps with more in it. -/
theorem exists_locate_of_put
    {part : List Char}
    {new u : FileTree}
    (room : Room d parent part)
    (missing : d.get? (parent ++ [String.ofList part]) = none)
    (apart : ¬ d.LacksAt path (parent ++ [String.ofList part]))
    (h : locate (d.put (parent ++ [String.ofList part]) new) path = .ok (.found place u)) :
    ∃ u', d.locate path = .ok (.found place u') ∧
      (u = u' ∨ (u'.isDirectory = true ∧ u.isDirectory = true)) := by
  obtain ⟨u', hlocate⟩ := (locate_or_lacksAt_of_put room missing h).resolve_right apart
  exact ⟨u', hlocate, eq_or_directory_of_put room missing (get?_of_locate hlocate) (get?_of_locate h)⟩

/-- What a way lacks, every longer one lacks. -/
theorem Lacks.append
    {links : Nat}
    {p q : Place}
    {parts : List (List Char)}
    (h : Lacks d links p parts q)
    (rest : List (List Char)) :
    Lacks d links p (parts ++ rest) q := by
  induction h with
  | here here named missing => exact .here here named missing
  | stay here idle _ ih => exact .stay here idle ih
  | up here _ ih => exact .up here ih
  | down here named found plain _ ih => exact .down here named found plain ih
  | link here named found _ ih =>
      rw [List.append_assoc] at ih
      exact .link here named found ih

/-- A path below a directory lacks a name that the directory does not have. -/
theorem Reaches.lacksAt
    (h : d.Reaches base name parent)
    (missing : d.get? (parent ++ [name]) = none) :
    d.LacksAt (join base name) (parent ++ [name]) := by
  obtain ⟨left, hwalk⟩ := leadsInto_iff.mp h.into
  obtain ⟨es, hes⟩ := hwalk.stop
  have hentry : String.ofList name.toList = name := String.ofList_toList
  rw [← hentry] at missing
  have hlast : Lacks d left parent [name.toList] (parent ++ [String.ofList name.toList]) :=
    .here hes h.named missing
  rw [hentry] at hlast
  rw [LacksAt, (endsIn_join h.named h.plain base).splitOn_eq]
  exact hwalk.lacks hlast

/-- A path that leads into a directory lacks nothing. -/
theorem LeadsInto.not_lacksAt
    {q : Place}
    (h : d.LeadsInto path place) :
    ¬ d.LacksAt path q := by
  obtain ⟨left, hwalk⟩ := h
  intro hlacks
  rw [LacksAt, ← List.append_nil (Text.splitOn '/' path.toList)] at hlacks
  cases hwalk.lacks_behind hlacks

/-- A path below a directory lacks its own name, or it is that of a link. -/
theorem LeadsInto.missing_of_lacksAt
    {q : Place}
    (hinto : d.LeadsInto base place)
    (hname : IsPlainName name)
    (h : d.LacksAt (join base name) q) :
    (d.get? (place ++ [name]) = none ∧ q = place ++ [name]) ∨
      ∃ target, d.get? (place ++ [name]) = some (.link target) := by
  obtain ⟨left, hwalk⟩ := leadsInto_iff.mp hinto
  have hentry : String.ofList name.toList = name := String.ofList_toList
  rw [LacksAt, toList_join (not_isAbsolute hname.plain),
    splitOn_front_append hname.plain (frontOf_closed base)] at h
  have hlast := hwalk.lacks_behind h
  generalize hpart : name.toList = part at hlast
  cases hlast with
  | here _ _ missing =>
      rw [← hpart, hentry] at missing ⊢
      exact .inl ⟨missing, rfl⟩
  | stay _ idle =>
      rw [← hpart, hname.active] at idle
      cases idle
  | up => exact absurd hpart hname.ne_up
  | down _ _ _ _ behind => cases behind
  | link _ _ found =>
      rw [← hpart, hentry] at found
      exact .inr ⟨_, found⟩

theorem LeadsInto.eq_of_lacksAt
    {q : Place}
    (hinto : d.LeadsInto base place)
    (hname : IsPlainName name)
    (hes : d.get? place = some (.directory es))
    (noLink : ∀ e ∈ es, e.2.isLink = false)
    (h : d.LacksAt (join base name) q) :
    q = place ++ [name] := by
  rcases hinto.missing_of_lacksAt hname h with ⟨-, rfl⟩ | ⟨target, hlink⟩
  · rfl
  · rw [FileTree.get?_entry hes] at hlink
    cases noLink _ (Dict.mem_of_get? hlink)

theorem leadsInto_of_locate
    (h : d.locate path = .ok (.found place (.directory es))) :
    d.LeadsInto path place := by
  obtain ⟨-, -, hleads⟩ := leads_of_locateFrom h
  exact hleads.exists_enters_directory

theorem exists_leadsInto_of_isDirectory
    (h : d.isDirectory path = true) :
    ∃ place, d.LeadsInto path place := by
  obtain ⟨place, es, hlocate⟩ := isDirectory_iff.mp h
  exact ⟨place, leadsInto_of_locate hlocate⟩

/-- A path that leads into a directory leads to it, if it is a path of a fitting length. -/
theorem LeadsInto.exists_locate
    (h : d.LeadsInto path place)
    (hfits : Fits path)
    (hne : path.toList ≠ []) :
    ∃ es, d.locate path = .ok (.found place (.directory es)) := by
  obtain ⟨left, hwalk⟩ := h
  obtain ⟨es, hfollow⟩ := hwalk.follow_eq
  exact ⟨es, (locateFrom_eq hfits hne d true).trans hfollow⟩

theorem LeadsInto.isDirectory
    (h : d.LeadsInto path place)
    (hfits : Fits path)
    (hne : path.toList ≠ []) :
    d.isDirectory path = true := by
  obtain ⟨es, hlocate⟩ := h.exists_locate hfits hne
  exact isDirectory_iff.mpr ⟨place, es, hlocate⟩

/-- Below a directory, a name leads into the directory that it has there. -/
theorem leadsInto_join
    (h : d.LeadsInto base parent)
    (named : IsNamed name.toList)
    (plain : '/' ∉ name.toList)
    (here : d.get? (parent ++ [name]) = some (.directory es)) :
    d.LeadsInto (join base name) (parent ++ [name]) := by
  obtain ⟨left, hwalk⟩ := leadsInto_iff.mp h
  obtain ⟨es', hes⟩ := hwalk.stop
  have hdone : Enters d left (parent ++ [String.ofList name.toList]) [] left (parent ++ [name]) := by
    rw [String.ofList_toList]
    exact .done here
  have hdown : Enters d left parent [name.toList] left (parent ++ [name]) := .down hes named hdone
  refine ⟨left, ?_⟩
  rw [(endsIn_join named plain base).splitOn_eq]
  exact hwalk.append hdown

/-- Where no link has its name, a path below a directory leads to the entry of the name and to nothing
else. -/
theorem LeadsInto.locate_join_iff
    (h : d.LeadsInto base parent)
    (hname : IsPlainName name)
    (noLink : ∀ target, d.get? (parent ++ [name]) ≠ some (.link target)) :
    d.locate (join base name) = .ok (.found place t) ↔
      IsNamed name.toList ∧ Fits (join base name) ∧ place = parent ++ [name] ∧
        d.get? (parent ++ [name]) = some t := by
  constructor
  · intro hlocate
    obtain ⟨parent', hreaches⟩ := exists_reaches_of_locateFrom hname hlocate
    obtain rfl : parent' = parent := h.unique hreaches.into
    cases hentry : d.get? (parent' ++ [name]) with
    | none =>
        have hfree := hreaches.locateFrom_of_missing hentry true
        rw [← locate, hlocate] at hfree
        cases hfree
    | some u =>
        have hlink : u.isLink = false := FileTree.isLink_eq_false_iff.mpr fun target heq =>
          noLink target (by rw [hentry, heq])
        have hfound := hreaches.locate_of_found hentry hlink
        rw [hlocate] at hfound
        cases hfound
        exact ⟨hreaches.named, hreaches.fits, rfl, rfl⟩
  · rintro ⟨named, fits, rfl, hentry⟩
    have hreaches : d.Reaches base name parent := ⟨h, named, hname.plain, fits⟩
    refine hreaches.locate_of_found hentry (FileTree.isLink_eq_false_iff.mpr fun target heq => ?_)
    exact noLink target (by rw [hentry, heq])

end Below

/-! ## One directory -/

section One

variable {d d' : Disk}
variable {base name path : String}
variable {parent : Place}

/-- A path below a directory has no slash at its end. -/
theorem bare_join
    (hname : IsPlainName name)
    (base : String) :
    bare (join base name) = join base name := by
  have hne : name.toList.reverse ≠ [] := by
    simpa using (of_decide_eq_true hname.active).1
  obtain ⟨c, s, hreverse⟩ := List.exists_cons_of_ne_nil hne
  have hslash : c ≠ '/' := by
    rintro rfl
    exact hname.plain (List.mem_reverse.mp (hreverse ▸ List.mem_cons_self))
  have hlast : (join base name).toList.reverse = c :: (s ++ (frontOf base).reverse) := by
    rw [toList_join (not_isAbsolute hname.plain), List.reverse_append, hreverse, List.cons_append]
  have hkept : ((join base name).toList.reverse.dropWhile (· = '/')).reverse =
      (join base name).toList := by
    rw [hlast, List.dropWhile_cons_of_neg (by simpa using hslash), ← hlast, List.reverse_reverse]
  have hnonempty : (join base name).toList.isEmpty = false := by
    rw [← List.isEmpty_reverse, hlast]
    rfl
  simp [bare, hkept, hnonempty]

/-- A directory is made under a name that a directory does not have. -/
theorem Reaches.makeDirectory_eq
    (h : d.Reaches base name parent)
    (missing : d.get? (parent ++ [name]) = none) :
    d.makeDirectory (join base name) = .ok (d.put (parent ++ [name]) (.directory [])) := by
  unfold makeDirectory
  rw [(endsIn_join h.named h.plain base).bare_eq, locateEntry, h.locateFrom_of_missing missing]

/-- A directory that is made below another one is put there under its name. -/
theorem exists_reaches_of_makeDirectory
    (hname : IsPlainName name)
    (h : d.makeDirectory (join base name) = .ok d') :
    ∃ parent, d.Reaches base name parent ∧ d.get? (parent ++ [name]) = none ∧
      d' = d.put (parent ++ [name]) (.directory []) := by
  unfold makeDirectory at h
  rw [bare_join hname] at h
  split at h
  · cases h
  · cases h
  · rename_i front last slash hfree
    obtain ⟨parent, hreaches⟩ := exists_reaches_of_locateFrom hname hfree
    have hmissing : d.get? (parent ++ [name]) = none :=
      hreaches.missing_of_locateEntry fun place t hfound => by simp [hfree] at hfound
    have hspot := hreaches.locateFrom_of_missing hmissing false
    rw [← locateEntry, hfree] at hspot
    cases hspot
    cases h
    exact ⟨_, hreaches, hmissing, rfl⟩

/-- Parts that lead to a free name lead into the directory that is put there. -/
theorem Leads.exists_enters_put
    {links : Nat}
    {p : Place}
    {parts : List (List Char)}
    {slash : Bool}
    {part : List Char}
    (h : Leads d false links p parts (.free parent (String.ofList part) slash))
    (room : Room d parent part)
    (missing : d.get? (parent ++ [String.ofList part]) = none) :
    ∃ left, Enters (d.put (parent ++ [String.ofList part]) (.directory [])) links p parts left
      (parent ++ [String.ofList part]) := by
  generalize hspot : Spot.free parent (String.ofList part) slash = spot at h
  induction h with
  | here here => cases hspot
  | stay here idle _ ih =>
      obtain ⟨es', hes⟩ := room.exists_directory_put here (.directory [])
      obtain ⟨left, hwalk⟩ := ih hspot
      exact ⟨left, .stay hes idle hwalk⟩
  | up here _ ih =>
      obtain ⟨es', hes⟩ := room.exists_directory_put here (.directory [])
      obtain ⟨left, hwalk⟩ := ih hspot
      exact ⟨left, .up hes hwalk⟩
  | down here named found plain _ ih =>
      obtain ⟨es', hes⟩ := room.exists_directory_put here (.directory [])
      obtain ⟨left, hwalk⟩ := ih hspot
      exact ⟨left, .down hes named hwalk⟩
  | @link links p es part' rest target spot here named found meant _ ih =>
      obtain ⟨es', hes⟩ := room.exists_directory_put here (.directory [])
      have hne : p ++ [String.ofList part'] ≠ parent ++ [String.ofList part] := by
        intro heq
        rw [heq, missing] at found
        cases found
      obtain ⟨left, hwalk⟩ := ih hspot
      exact ⟨left, .link hes named (room.get?_put_link hne found _) hwalk⟩
  | lastLink here named found itself => cases hspot
  | @free links p es part' rest here named missing' last =>
      obtain ⟨rfl, hname, -⟩ := Spot.free.inj hspot
      obtain rfl : part = part' := String.ofList_inj.mp hname
      obtain ⟨es', hes⟩ := room.exists_directory_put here (.directory [])
      have hdone : Enters (d.put (parent ++ [String.ofList part]) (.directory [])) links
          (parent ++ [String.ofList part]) [] links (parent ++ [String.ofList part]) :=
        .done (room.get?_put _)
      have hidle : ∀ other ∈ rest, ¬ isActive other = true := fun other hother => by
        have hempty := List.all_eq_true.mp last other hother
        simp [isActive, List.isEmpty_iff.mp hempty]
      have hrest := hdone.stay_append hidle
      rw [List.append_nil] at hrest
      exact ⟨links, .down hes named hrest⟩

/-- The path of a directory that is made leads into it, and it is empty. -/
theorem exists_leadsInto_of_makeDirectory
    (h : d.makeDirectory path = .ok d') :
    ∃ place, d'.LeadsInto path place ∧ d'.get? place = some (.directory []) := by
  unfold makeDirectory at h
  split at h
  · cases h
  · cases h
  · rename_i parent name slash hfree
    cases h
    obtain ⟨-, -, hleads⟩ := leads_of_locateFrom hfree
    obtain ⟨part, named, rfl, around, missing⟩ := hleads.exists_missing
    obtain ⟨es, hes⟩ := around
    have room := room_of_missing named hes missing
    obtain ⟨left, hwalk⟩ := hleads.exists_enters_put room missing
    exact ⟨_, ⟨left, hwalk.of_filter_eq (activeParts_bare path)⟩, room.get?_put _⟩

/-- A directory is still led into after something has been put where nothing was. -/
theorem LeadsInto.put_missing
    {place : Place}
    {around : List (String × FileTree)}
    (h : d.LeadsInto path place)
    (hparent : d.get? parent = some (.directory around))
    (missing : d.get? (parent ++ [name]) = none)
    (new : FileTree) :
    LeadsInto (d.put (parent ++ [name]) new) path place := by
  obtain ⟨left, hwalk⟩ := h
  exact ⟨left, hwalk.put hparent (fun es => by simp [missing]) (fun target => by simp [missing]) new⟩

/-- A path below a directory leads into the directory that is put there under a new name. -/
theorem Reaches.leadsInto_put
    (h : d.Reaches base name parent)
    (missing : d.get? (parent ++ [name]) = none)
    (es : List (String × FileTree)) :
    LeadsInto (d.put (parent ++ [name]) (.directory es)) (join base name) (parent ++ [name]) := by
  obtain ⟨around, haround⟩ := h.into.stop
  exact leadsInto_join (h.into.put (.inl missing) _) h.named h.plain (FileTree.get?_put haround _)

/-- A file that a directory does not have is put there. -/
theorem LeadsInto.eq_put_of_write
    {c : Content}
    (h : d.LeadsInto base parent)
    (hname : IsPlainName name)
    (missing : d.get? (parent ++ [name]) = none)
    (hwrite : d.write (join base name) c = .ok d') :
    d.Reaches base name parent ∧ d' = d.put (parent ++ [name]) (.file c .plain) := by
  obtain ⟨parent', hreaches⟩ := exists_reaches_of_write hname hwrite
  obtain rfl : parent' = parent := h.unique hreaches.into
  have hput := hreaches.write_eq (.inl missing) c
  rw [hwrite] at hput
  cases hput
  exact ⟨hreaches, rfl⟩

end One

/-! ## All directories on the way -/

/-- A directory is made, or it is there. -/
inductive Provides (d : Disk) (path : String) : Disk → Prop where
  | made
      {d' : Disk}
      (h : d.makeDirectory path = .ok d') :
      Provides d path d'
  | there
      (h : d.isDirectory path = true) :
      Provides d path d

/-- A directory is made or it is there, perhaps after the one around it has been made in this way. -/
inductive Makes (d : Disk) : String → Disk → Prop where
  | here
      {path : String}
      {d' : Disk}
      (h : Provides d path d') :
      Makes d path d'
  | around
      {path parent : String}
      {d₁ d' : Disk}
      (missing : d.makeDirectory path = .error .noEntry)
      (outside : parent? path = some parent)
      (before : Makes d parent d₁)
      (h : Provides d₁ path d') :
      Makes d path d'

section Way

variable {d d' : Disk}
variable {base name path parent : String}
variable {place : Place}

theorem provides_of_settleDirectory
    (h : settleDirectory d path (d.makeDirectory path) = (d', .ok ())) :
    Provides d path d' := by
  cases hmade : d.makeDirectory path with
  | ok made =>
      rw [hmade] at h
      cases h
      exact .made hmade
  | error e =>
      rw [hmade, settleDirectory] at h
      obtain ⟨rfl, hdone⟩ := Prod.mk.inj h
      split at hdone
      · rename_i hthere
        exact .there hthere
      · cases hdone

theorem makes_of_makeDirectories
    {fuel : Nat}
    (h : makeDirectories fuel d path = (d', .ok ())) :
    Makes d path d' := by
  fun_induction makeDirectories fuel d path generalizing d' with
  | case1 d path => cases h
  | case2 fuel d path hmissing houtside => cases h
  | case3 fuel d path hmissing parent houtside around e haround ih => cases h
  | case4 fuel d path hmissing parent houtside around haround ih =>
      exact .around hmissing houtside (ih haround) (provides_of_settleDirectory h)
  | case5 fuel d path hother => exact .here (provides_of_settleDirectory h)

theorem makes_of_ensureDirectory
    (hne : path.isEmpty = false)
    (h : d.ensureDirectory path = .ok d') :
    Makes d path d' := by
  have hmade := ensureDirectory_eq_ok_iff.mp h
  rw [provideDirectory, hne, if_neg Bool.false_ne_true] at hmade
  exact makes_of_makeDirectories hmade

/-- A path that cannot be followed because something on it is missing is one of a fitting length. -/
theorem fits_of_noEntry
    {final : Bool}
    (hne : path.toList ≠ [])
    (h : d.locateFrom [] final path = .error .noEntry) :
    Fits path := by
  simp only [locateFrom] at h
  split at h
  · cases h
  · rename_i hzero
    rw [if_neg (by simpa using hne)] at h
    split at h
    · cases h
    · rename_i hshort
      exact ⟨by simpa using hzero, Nat.not_le.mp hshort⟩

/-- What a path leads into need not be made, and nothing around it is missing. -/
theorem LeadsInto.makeDirectory_ne
    (h : d.LeadsInto path place)
    (hne : path.toList ≠ []) :
    (∀ d', d.makeDirectory path ≠ .ok d') ∧ d.makeDirectory path ≠ .error .noEntry := by
  obtain ⟨left, hwalk⟩ := h
  obtain ⟨q, t, hfound⟩ :=
    (hwalk.of_filter_eq (activeParts_bare path).symm).exists_follow_entry
  have hbare := bare_ne_nil hne
  unfold makeDirectory locateEntry
  constructor
  · intro d' hmade
    split at hmade
    · cases hmade
    · cases hmade
    · rename_i front last slash hfree
      obtain ⟨hfits, -, hleads⟩ := leads_of_locateFrom hfree
      rw [hleads.follow_eq] at hfound
      cases hfound
  · intro hmissing
    split at hmissing
    · rename_i e hlocate
      cases hmissing
      rw [locateFrom_eq (fits_of_noEntry hbare hlocate) hbare, hfound] at hlocate
      cases hlocate
    · cases hmissing
    · cases hmissing

/-- A directory that is there is no reason to fail. -/
theorem exists_makeDirectory_of_isDirectory
    (hne : path.toList ≠ [])
    (h : d.isDirectory path = true) :
    ∃ e, d.makeDirectory path = .error e ∧ e ≠ .noEntry := by
  obtain ⟨place, hinto⟩ := exists_leadsInto_of_isDirectory h
  obtain ⟨hfresh, hpresent⟩ := hinto.makeDirectory_ne hne
  cases hmake : d.makeDirectory path with
  | ok d' => exact absurd hmake (hfresh d')
  | error e => exact ⟨e, rfl, fun heq => hpresent (heq ▸ hmake)⟩

theorem Provides.settleDirectory_eq
    (hne : path.toList ≠ [])
    (h : Provides d path d') :
    settleDirectory d path (d.makeDirectory path) = (d', .ok ()) := by
  cases h with
  | made h => rw [h, settleDirectory]
  | there h =>
      obtain ⟨e, hmake, -⟩ := exists_makeDirectory_of_isDirectory hne h
      rw [hmake, settleDirectory, if_pos h]

/-- A directory that is made or there is made or there with all directories around it. -/
theorem makeDirectories_of_provides
    (hne : path.toList ≠ [])
    (h : Provides d path d')
    (fuel : Nat) :
    makeDirectories (fuel + 1) d path = (d', .ok ()) := by
  rw [makeDirectories]
  split
  · rename_i hmissing
    cases h with
    | made h =>
        rw [hmissing] at h
        cases h
    | there h =>
        obtain ⟨e, hmake, hother⟩ := exists_makeDirectory_of_isDirectory hne h
        rw [hmissing] at hmake
        cases hmake
        exact absurd rfl hother
  · exact h.settleDirectory_eq hne

/-- The directory around a missing one is made before it. -/
theorem makeDirectories_of_around
    {fuel : Nat}
    {d₁ : Disk}
    (hne : path.toList ≠ [])
    (missing : d.makeDirectory path = .error .noEntry)
    (outside : parent? path = some parent)
    (before : makeDirectories fuel d parent = (d₁, .ok ()))
    (h : Provides d₁ path d') :
    makeDirectories (fuel + 1) d path = (d', .ok ()) := by
  rw [makeDirectories, missing]
  simp only [outside, before]
  exact h.settleDirectory_eq hne

/-- A directory that a path leads into stays as it is. -/
theorem Makes.eq_of_leadsInto
    (h : Makes d path d')
    (hinto : d.LeadsInto path place) :
    d' = d := by
  by_cases hne : path.toList = []
  · -- An empty path is none of a directory, and there is nothing around it.
    obtain rfl : path = "" := String.toList_eq_nil_iff.mp hne
    cases h with
    | here h =>
        cases h with
        | made h => cases h
        | there h => rfl
    | around missing outside => cases outside
  · obtain ⟨hfresh, hpresent⟩ := hinto.makeDirectory_ne hne
    cases h with
    | here h =>
        cases h with
        | made h => exact absurd h (hfresh d')
        | there h => rfl
    | around missing => exact absurd missing hpresent

/-- A path has the parts of the path around it, and perhaps one more. -/
theorem exists_activeParts_of_parent?
    (h : parent? path = some parent) :
    ∃ last, '/' ∉ last ∧
      activeParts path.toList = activeParts parent.toList ++ [last].filter isActive := by
  unfold parent? at h
  have hbehind (r : List Char) :
      parent = String.ofList (skipEmptyPartsReversed r).reverse →
        activeParts parent.toList = activeParts r.reverse := by
    rintro rfl
    rw [String.toList_ofList, activeParts_skipEmptyPartsReversed]
  split at h
  · cases h
  · cases h
  · have hparent := hbehind _ (Option.some.inj h).symm
    obtain ⟨front, last, hsplit, hplain, hclosed⟩ :=
      exists_front (skipEmptyPartsReversed path.toList.reverse).reverse
    have hpath : activeParts path.toList = activeParts (front ++ last) := by
      rw [← hsplit, activeParts_skipEmptyPartsReversed, List.reverse_reverse]
    have hrest : (skipEmptyPartsReversed path.toList.reverse).dropWhile (· ≠ '/') = front.reverse := by
      have hfree : ∀ c ∈ last.reverse, decide (c ≠ '/') = true := fun c hc => by
        rw [decide_eq_true_eq]
        rintro rfl
        exact hplain (List.mem_reverse.mp hc)
      rw [← List.reverse_reverse (skipEmptyPartsReversed _), hsplit, List.reverse_append,
        List.dropWhile_append_of_pos hfree]
      rcases hclosed with rfl | ⟨g, rfl⟩
      · rfl
      · simp
    have hlast : activeParts last = [last].filter isActive := by
      rw [activeParts, Text.splitOn_of_not_mem hplain]
    rw [hrest, List.reverse_reverse] at hparent
    refine ⟨last, hplain, ?_⟩
    rw [hpath, hparent, ← hlast]
    rcases hclosed with rfl | ⟨g, rfl⟩
    · rfl
    · have hend : activeParts [] = [] := rfl
      rw [List.append_assoc, List.singleton_append, activeParts_append, activeParts_append, hend,
        List.append_nil]

/-- Behind an empty directory no name leads into another one. -/
theorem LeadsInto.not_leadsInto_of_empty
    {last : List Char}
    (h : d.LeadsInto parent place)
    (hempty : d.get? place = some (.directory []))
    (hparts : activeParts path.toList = activeParts parent.toList ++ [last])
    (hactive : isActive last = true)
    (hup : last ≠ ['.', '.'])
    (q : Place) :
    ¬ d.LeadsInto path q := by
  rintro ⟨left, hwalk⟩
  obtain ⟨left', hfront⟩ := h
  have hall : Enters d maxLinks [] (Text.splitOn '/' parent.toList ++ [last]) left q := by
    refine hwalk.of_filter_eq ?_
    rw [List.filter_append, List.filter_cons_of_pos hactive, List.filter_nil]
    exact hparts
  obtain ⟨es, hfollow⟩ := hall.follow_eq
  rw [hfront.follow_append true (Or.inl rfl)] at hfollow
  have named := isNamed_of_follow hempty hactive hup hfollow
  have hmissing : d.get? (place ++ [String.ofList last]) = none := by
    rw [FileTree.get?_entry hempty]
    rfl
  rw [follow_missing hempty named hmissing] at hfollow
  cases hfollow

/-- Where a path goes back, it goes back from a directory that is there. -/
def TurnsInside
    (d : Disk)
    (path : String) : Prop :=
  ∀ front rest, activeParts path.toList = front ++ ['.', '.'] :: rest →
    ∃ left q, Enters d maxLinks [] front left q

/-- A directory that was not there is empty once it has been made, unless its path goes back from one that
was not there either. -/
theorem Makes.exists_empty
    (h : Makes d path d')
    (hturns : TurnsInside d path)
    (hnot : ∀ place, ¬ d.LeadsInto path place) :
    ∃ place, d'.LeadsInto path place ∧ d'.get? place = some (.directory []) := by
  induction h with
  | here h =>
      cases h with
      | made h => exact exists_leadsInto_of_makeDirectory h
      | there h =>
          obtain ⟨place, hinto⟩ := exists_leadsInto_of_isDirectory h
          exact absurd hinto (hnot place)
  | @around path parent d₁ d' missing outside before h ih =>
      cases h with
      | made h => exact exists_leadsInto_of_makeDirectory h
      | there h =>
          obtain ⟨q, hq⟩ := exists_leadsInto_of_isDirectory h
          obtain ⟨last, hplain, hparts⟩ := exists_activeParts_of_parent? outside
          -- The directory around it was missing too, so it is empty and leads no further.
          have hoff : ∀ place, ¬ d.LeadsInto parent place := by
            intro place hinto
            rw [before.eq_of_leadsInto hinto] at hq
            exact hnot q hq
          have hup : last ≠ ['.', '.'] := by
            rintro rfl
            obtain ⟨left, place, hwalk⟩ := hturns (activeParts parent.toList) [] hparts
            refine hoff place ⟨left, hwalk.of_filter_eq ?_⟩
            exact List.filter_eq_self.mpr fun part hpart => (List.mem_filter.mp hpart).2
          have hturns' : TurnsInside d parent := by
            intro front rest hfront
            refine hturns front (rest ++ [last].filter isActive) ?_
            rw [hparts, hfront, List.append_assoc, List.cons_append]
          obtain ⟨place, hinto, hempty⟩ := ih hturns' hoff
          cases hactive : isActive last with
          | true =>
              rw [List.filter_cons_of_pos hactive, List.filter_nil] at hparts
              exact absurd hq (hinto.not_leadsInto_of_empty hempty hparts hactive hup q)
          | false =>
              rw [List.filter_cons_of_neg (by simp [hactive]), List.filter_nil, List.append_nil]
                at hparts
              obtain ⟨left, hwalk⟩ := hinto
              exact ⟨place, ⟨left, hwalk.of_filter_eq hparts.symm⟩, hempty⟩

end Way

/-! ## A directory in one that may be missing -/

/-- A disk on which a path leads into a directory: it did so before, or the directory is new and
empty. -/
structure Opens
    (d : Disk)
    (path : String)
    (d₁ : Disk)
    (place : Place) : Prop where
  into : d₁.LeadsInto path place
  eq_or_empty : d₁ = d ∨
    (∀ q, ¬ d.LeadsInto path q) ∧ d₁.get? place = some (.directory [])

section Inside

variable {d d' : Disk}
variable {base name sub path parent : String}
variable {place : Place}

theorem activeParts_join
    (hname : IsPlainName name)
    (base : String) :
    activeParts (join base name).toList = activeParts base.toList ++ [name.toList] := by
  rw [activeParts, toList_join (not_isAbsolute hname.plain),
    splitOn_front_append hname.plain (frontOf_closed base), List.filter_append, filter_frontOf,
    List.filter_cons_of_pos hname.active, List.filter_nil]

/-- The path around one below a directory has the parts of the directory. -/
theorem activeParts_of_parent?_join
    (named : IsNamed name.toList)
    (plain : '/' ∉ name.toList)
    (h : parent? (join base name) = some parent) :
    activeParts parent.toList = activeParts base.toList := by
  have hends := endsIn_join named plain base
  rw [hends.parent?_eq] at h
  cases h
  rw [String.toList_ofList, activeParts_skipEmptyPartsReversed, List.reverse_reverse,
    ← hends.filter_front, filter_frontOf]

theorem join_ne_nil
    (hname : IsPlainName name)
    (base : String) :
    (join base name).toList ≠ [] := by
  rw [toList_join (not_isAbsolute hname.plain)]
  exact List.append_ne_nil_of_right_ne_nil _ (of_decide_eq_true hname.active).1

/-- What a name is put behind below a directory whose path ends in a name. -/
theorem frontOf_join
    (named : IsNamed name.toList)
    (plain : '/' ∉ name.toList)
    (base : String) :
    frontOf (join base name) = (join base name).toList ++ ['/'] := by
  obtain ⟨c, s, hreverse, hc, -, -⟩ := (endsIn_join named plain base).last
  have hlast : (join base name).toList.getLast? = some c := by
    rw [← List.head?_reverse, hreverse, List.head?_cons]
  rcases frontOf_cases (join base name) with ⟨-, hnil⟩ | ⟨g, -, hslash⟩ | ⟨hfront, -⟩
  · rw [hnil] at hlast
    cases hlast
  · rw [hslash, List.getLast?_concat] at hlast
    exact absurd (Option.some.inj hlast).symm hc
  · exact hfront

/-- The path around one below a directory is that of the directory, if that ends in a name. -/
theorem parent?_join_join
    (named : IsNamed name.toList)
    (plain : '/' ∉ name.toList)
    (named' : IsNamed sub.toList)
    (plain' : '/' ∉ sub.toList)
    (base : String) :
    parent? (join (join base name) sub) = some (join base name) := by
  obtain ⟨c, s, hreverse, hc, hpoint, -⟩ := (endsIn_join named plain base).last
  have hkept : skipEmptyPartsReversed (c :: s) = c :: s := by
    refine skipEmptyPartsReversed_eq_self (by simpa using hc) fun t heq => ?_
    obtain ⟨rfl, rfl⟩ := List.cons_eq_cons.mp heq
    exact hpoint rfl rfl
  rw [(endsIn_join named' plain' (join base name)).parent?_eq, frontOf_join named plain base,
    List.reverse_concat, hreverse, skipEmptyPartsReversed, hkept, ← hreverse, List.reverse_reverse,
    String.ofList_toList]
  simp

/-- What the path of a directory lacks, a path below the directory lacks. -/
theorem lacksAt_join_join
    (h : d.LacksAt (join base name) place)
    (named : IsNamed name.toList)
    (plain : '/' ∉ name.toList)
    (plain' : '/' ∉ sub.toList) :
    d.LacksAt (join (join base name) sub) place := by
  have hsplit : Text.splitOn '/' (join (join base name) sub).toList =
      Text.splitOn '/' (join base name).toList ++ [sub.toList] := by
    rw [toList_join (not_isAbsolute plain'), frontOf_join named plain base, List.append_assoc,
      List.singleton_append, Text.splitOn_append_cons, Text.splitOn_of_not_mem plain']
  rw [LacksAt, hsplit]
  exact Lacks.append h _

/-- What a path below a directory leads through is a directory. -/
theorem Reaches.isDirectory_base
    (h : d.Reaches base name place)
    (hne : base.toList ≠ []) :
    d.isDirectory base = true :=
  h.into.isDirectory h.fits_base hne

/-- A name that is too long for any directory is not followed. -/
theorem follow_long
    {final : Bool}
    {links : Nat}
    {p : Place}
    {es : List (String × FileTree)}
    {part : List Char}
    {rest : List (List Char)}
    (here : d.get? p = some (.directory es))
    (hactive : isActive part = true)
    (hup : part ≠ ['.', '.'])
    (hlong : maxName < (String.ofList part).utf8ByteSize) :
    follow d final links p (part :: rest) = .error .nameTooLong := by
  obtain ⟨hne, hpoint⟩ := of_decide_eq_true hactive
  rw [follow, here]
  simp [hne, hpoint, hup, hlong]

/-- Below a directory that is there, a directory is not missing for what is around it. -/
theorem LeadsInto.makeDirectory_join_ne
    (h : d.LeadsInto base place)
    (hname : IsPlainName name) :
    d.makeDirectory (join base name) ≠ .error .noEntry := by
  intro hmissing
  have hlocate : d.locateEntry (join base name) = .error .noEntry := by
    unfold makeDirectory at hmissing
    rw [bare_join hname] at hmissing
    split at hmissing
    · rename_i e he
      cases hmissing
      exact he
    · cases hmissing
    · cases hmissing
  obtain ⟨hne, hpoint⟩ := of_decide_eq_true hname.active
  have hnonempty := join_ne_nil hname base
  have hfits := fits_of_noEntry hnonempty hlocate
  by_cases hshort : (String.ofList name.toList).utf8ByteSize ≤ maxName
  · have hreaches : d.Reaches base name place :=
      ⟨h, ⟨hne, hpoint, hname.ne_up, hshort⟩, hname.plain, hfits⟩
    have hfree := hreaches.locateFrom_of_missing
      (hreaches.missing_of_locateEntry fun _ _ hfound => by simp [hlocate] at hfound) false
    rw [← locateEntry, hlocate] at hfree
    cases hfree
  · obtain ⟨left, hwalk⟩ := leadsInto_iff.mp h
    obtain ⟨es, hes⟩ := hwalk.stop
    rw [locateEntry, locateFrom_eq hfits hnonempty, toList_join (not_isAbsolute hname.plain),
      splitOn_front_append hname.plain (frontOf_closed base),
      hwalk.follow_append false (Or.inr (List.cons_ne_nil _ _)),
      follow_long hes hname.active hname.ne_up (Nat.not_le.mp hshort)] at hlocate
    cases hlocate

/-- Below a directory, one is put where there was nothing, or there is one. -/
theorem Provides.exists_reaches
    (h : Provides d (join base name) d')
    (hname : IsPlainName name) :
    ∃ place, d.Reaches base name place ∧
      ((d.get? (place ++ [name]) = none ∧ d' = d.put (place ++ [name]) (.directory [])) ∨
        (d' = d ∧ d.isDirectory (join base name) = true)) := by
  cases h with
  | made h =>
      obtain ⟨place, hreaches, hmissing, hput⟩ := exists_reaches_of_makeDirectory hname h
      exact ⟨place, hreaches, .inl ⟨hmissing, hput⟩⟩
  | there h =>
      obtain ⟨q, es, hlocate⟩ := isDirectory_iff.mp h
      obtain ⟨place, hreaches⟩ := exists_reaches_of_locateFrom hname hlocate
      exact ⟨place, hreaches, .inr ⟨rfl, h⟩⟩

/-- A directory is made in one that was there, or in a new and empty one, unless the path of that goes back
from one that was not there. -/
theorem Makes.exists_opens
    (h : Makes d (join base name) d')
    (hname : IsPlainName name)
    (hturns : TurnsInside d base) :
    ∃ d₁ place, Opens d base d₁ place ∧ Provides d₁ (join base name) d' := by
  cases h with
  | here h =>
      obtain ⟨place, hreaches, -⟩ := h.exists_reaches hname
      exact ⟨d, place, ⟨hreaches.into, .inl rfl⟩, h⟩
  | @around _ parent d₁ _ missing outside before h =>
      have hoff : ∀ place, ¬ d.LeadsInto base place :=
        fun place hinto => hinto.makeDirectory_join_ne hname missing
      obtain ⟨place, hreaches, -⟩ := h.exists_reaches hname
      have hparts := activeParts_of_parent?_join hreaches.named hreaches.plain outside
      have hturns' : TurnsInside d parent := by
        rw [TurnsInside, hparts]
        exact hturns
      have hoff' : ∀ q, ¬ d.LeadsInto parent q := by
        rintro q ⟨left, hwalk⟩
        exact hoff q ⟨left, hwalk.of_filter_eq hparts⟩
      obtain ⟨q, ⟨left, hwalk⟩, hempty⟩ := before.exists_empty hturns' hoff'
      exact ⟨d₁, q, ⟨⟨left, hwalk.of_filter_eq hparts⟩, .inr ⟨hoff, hempty⟩⟩, h⟩

/-- In an empty directory there is no other one. -/
theorem not_isDirectory_join_of_empty
    (hinto : d.LeadsInto base place)
    (hempty : d.get? place = some (.directory []))
    (hname : IsPlainName name) :
    d.isDirectory (join base name) = false := by
  rw [Bool.eq_false_iff]
  intro hthere
  obtain ⟨q, hq⟩ := exists_leadsInto_of_isDirectory hthere
  exact hinto.not_leadsInto_of_empty hempty (activeParts_join hname base) hname.active hname.ne_up q hq

/-- A directory that was not there is made in a directory of a root, which is there or made as well. The
root itself may be missing unless its path goes back from what is missing. -/
theorem exists_made_of_ensureDirectory
    (hname : IsPlainName name)
    (hsub : IsPlainName sub)
    (hturns : TurnsInside d base)
    (hnone : d.isDirectory (join (join base name) sub) = false)
    (h : d.ensureDirectory (join (join base name) sub) = .ok d') :
    ∃ d₁ place d₂, Opens d base d₁ place ∧ Provides d₁ (join base name) d₂ ∧
      d₂.makeDirectory (join (join base name) sub) = .ok d' := by
  have hpath : (join (join base name) sub).isEmpty = false := by
    simpa using join_ne_nil hsub (join base name)
  obtain ⟨d₁, place, d₂, hopens, hmiddle, hlast⟩ : ∃ d₁ place d₂, Opens d base d₁ place ∧
      Provides d₁ (join base name) d₂ ∧ Provides d₂ (join (join base name) sub) d' := by
    cases makes_of_ensureDirectory hpath h with
    | here h =>
        obtain ⟨inner, hreaches, -⟩ := h.exists_reaches hsub
        have hthere := hreaches.isDirectory_base (join_ne_nil hname base)
        obtain ⟨place, hreaches', -⟩ := (Provides.there hthere).exists_reaches hname
        exact ⟨d, place, d, ⟨hreaches'.into, .inl rfl⟩, .there hthere, h⟩
    | @around _ parent d₂ _ missing outside before h =>
        obtain ⟨inner, hreaches, -⟩ := h.exists_reaches hsub
        have hthere := hreaches.isDirectory_base (join_ne_nil hname base)
        obtain ⟨place, hreaches', -⟩ := (Provides.there hthere).exists_reaches hname
        rw [parent?_join_join hreaches'.named hreaches'.plain hreaches.named hreaches.plain]
          at outside
        cases outside
        obtain ⟨d₁, place, hopens, hmiddle⟩ := before.exists_opens hname hturns
        exact ⟨d₁, place, d₂, hopens, hmiddle, h⟩
  refine ⟨d₁, place, d₂, hopens, hmiddle, ?_⟩
  cases hlast with
  | made h => exact h
  | there hthere =>
      exfalso
      cases hmiddle with
      | made hmade =>
          obtain ⟨inner, hinto, hempty⟩ := exists_leadsInto_of_makeDirectory hmade
          rw [not_isDirectory_join_of_empty hinto hempty hsub] at hthere
          cases hthere
      | there hmiddle =>
          rcases hopens.eq_or_empty with rfl | ⟨-, hempty⟩
          · rw [hnone] at hthere
            cases hthere
          · rw [not_isDirectory_join_of_empty hopens.into hempty hname] at hmiddle
            cases hmiddle

end Inside

end Disk
end Runbook
