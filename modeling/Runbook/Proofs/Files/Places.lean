import Runbook.Files.Tree
import Runbook.Proofs.Json.Dictionary

/-!
# Places of a file tree

What is put at a place is found there, putting twice leaves the second tree, and every other place
keeps what it holds: only the directories on the way have another entry.

A tree is known by the files at its places. Listing the entries of directories in another order leaves
every file in its place, and so does putting them in the order of their names. Taking one file away, or
putting another file in its place, leaves all other files.

Main statements: `FileTree.exists_get?_put`, `FileTree.Relisted.hasFile_iff`, `FileTree.sameBut_erase` and
`FileTree.sameBut_put`.
-/

namespace Runbook

namespace FileTree

section Kinds

variable {t : FileTree}

theorem isDirectory_iff :
    t.isDirectory = true ↔ ∃ es, t = .directory es := by
  cases t <;> simp [isDirectory]

theorem isDirectory_eq_false_iff :
    t.isDirectory = false ↔ ∀ es, t ≠ .directory es := by
  cases t <;> simp [isDirectory]

theorem isLink_eq_false_iff :
    t.isLink = false ↔ ∀ target, t ≠ .link target := by
  cases t <;> simp [isLink]

theorem isLink_of_isDirectory
    (h : t.isDirectory = true) :
    t.isLink = false := by
  obtain ⟨es, rfl⟩ := isDirectory_iff.mp h
  rfl

end Kinds

@[simp] theorem get?_nil (t : FileTree) :
    t.get? [] = some t := by
  cases t <;> rfl

@[simp] theorem get?_directory_cons
    (es : List (String × FileTree))
    (name : String)
    (rest : Place) :
    (directory es).get? (name :: rest) = (Dict.get? es name).bind fun t => t.get? rest := by
  rw [get?]
  cases Dict.get? es name <;> rfl

/-- Only directories have places below them. -/
theorem exists_of_get?_cons
    {t u : FileTree}
    {name : String}
    {rest : Place}
    (h : t.get? (name :: rest) = some u) :
    ∃ es s, t = .directory es ∧ Dict.get? es name = some s ∧ s.get? rest = some u := by
  cases t with
  | directory es =>
      rw [get?_directory_cons, Option.bind_eq_some_iff] at h
      obtain ⟨s, hs, hu⟩ := h
      exact ⟨es, s, rfl, hs, hu⟩
  | file content traits => cases h
  | link target => cases h
  | device kind => cases h

theorem get?_append
    (t : FileTree)
    (p q : Place) :
    t.get? (p ++ q) = (t.get? p).bind fun u => u.get? q := by
  induction p generalizing t with
  | nil => simp
  | cons name p ih =>
      cases t with
      | directory es =>
          rw [List.cons_append, get?_directory_cons, get?_directory_cons, Option.bind_assoc]
          exact Option.bind_congr fun s _ => ih s
      | file content traits => rfl
      | link target => rfl
      | device kind => rfl

/-- The entries of a directory are what its names lead to. -/
theorem get?_entry
    {t : FileTree}
    {parent : Place}
    {es : List (String × FileTree)}
    (h : t.get? parent = some (.directory es))
    (name : String) :
    t.get? (parent ++ [name]) = Dict.get? es name := by
  rw [get?_append, h, Option.bind_some, get?_directory_cons]
  cases Dict.get? es name <;> simp

theorem put_directory_cons
    {es : List (String × FileTree)}
    {name : String}
    {s : FileTree}
    (hs : Dict.get? es name = some s)
    (parent : Place)
    (last : String)
    (new : FileTree) :
    (directory es).put (name :: (parent ++ [last])) new =
      .directory (Dict.insert es name (s.put (parent ++ [last]) new)) := by
  cases parent with
  | nil => simp [put, hs]
  | cons p parent => simp [put, hs]

section Entry

variable {t : FileTree}
variable {parent : Place}
variable {es : List (String × FileTree)}
variable {name : String}

/-- What is put into a directory is there. -/
theorem get?_put
    (h : t.get? parent = some (.directory es))
    (new : FileTree) :
    (t.put (parent ++ [name]) new).get? (parent ++ [name]) = some new := by
  induction parent generalizing t with
  | nil =>
      obtain rfl : t = .directory es := by simpa using h
      simp [put, Dict.get?_insert_self]
  | cons p parent ih =>
      obtain ⟨es', s, rfl, hs, hu⟩ := exists_of_get?_cons h
      rw [List.cons_append, put_directory_cons hs, get?_directory_cons, Dict.get?_insert_self]
      exact ih hu

/-- The other entries of the directory stay. -/
theorem get?_put_sibling
    {other : String}
    (h : t.get? parent = some (.directory es))
    (hne : other ≠ name)
    (new : FileTree) :
    (t.put (parent ++ [name]) new).get? (parent ++ [other]) = t.get? (parent ++ [other]) := by
  induction parent generalizing t with
  | nil =>
      obtain rfl : t = .directory es := by simpa using h
      simp [put, Dict.get?_insert_of_ne es new hne]
  | cons p parent ih =>
      obtain ⟨es', s, rfl, hs, hu⟩ := exists_of_get?_cons h
      rw [List.cons_append, List.cons_append, put_directory_cons hs, get?_directory_cons,
        get?_directory_cons, Dict.get?_insert_self, hs]
      exact ih hu

/-- Of two trees put at one place the last one stays. -/
theorem put_put
    (h : t.get? parent = some (.directory es))
    (a b : FileTree) :
    (t.put (parent ++ [name]) a).put (parent ++ [name]) b = t.put (parent ++ [name]) b := by
  induction parent generalizing t with
  | nil =>
      obtain rfl : t = .directory es := by simpa using h
      simp [put, Dict.insert_insert]
  | cons p parent ih =>
      obtain ⟨es', s, rfl, hs, hu⟩ := exists_of_get?_cons h
      rw [List.cons_append, put_directory_cons hs, put_directory_cons (Dict.get?_insert_self _ _ _),
        put_directory_cons hs, Dict.insert_insert, ih hu]

/-- Every other place holds what it held, but the directories on the way have another entry. What was
at the place must not be a directory, or there would be places below it. -/
theorem exists_get?_put
    {q : Place}
    {u : FileTree}
    (h : t.get? parent = some (.directory es))
    (hold : ∀ es', t.get? (parent ++ [name]) ≠ some (.directory es'))
    (hq : q ≠ parent ++ [name])
    (hu : t.get? q = some u)
    (new : FileTree) :
    ∃ u', (t.put (parent ++ [name]) new).get? q = some u' ∧
      (u' = u ∨ (u.isDirectory = true ∧ u'.isDirectory = true)) := by
  induction parent generalizing t q with
  | nil =>
      obtain rfl : t = .directory es := by simpa using h
      cases q with
      | nil =>
          obtain rfl : .directory es = u := by simpa using hu
          exact ⟨_, get?_nil _, Or.inr ⟨rfl, by simp [put, isDirectory]⟩⟩
      | cons n rest =>
          rw [get?_directory_cons] at hu
          simp only [List.nil_append, put, get?_directory_cons]
          by_cases hn : n = name
          · subst hn
            -- Below the place nothing was, since no directory was there.
            obtain ⟨s, hs, hs'⟩ := Option.bind_eq_some_iff.mp hu
            cases rest with
            | nil => exact absurd rfl hq
            | cons m rest =>
                obtain ⟨es', -, rfl, -, -⟩ := exists_of_get?_cons hs'
                exact absurd (by simp [hs]) (hold es')
          · rw [Dict.get?_insert_of_ne es new hn]
            exact ⟨u, hu, Or.inl rfl⟩
  | cons p parent ih =>
      obtain ⟨es', s, rfl, hs, hdir⟩ := exists_of_get?_cons h
      rw [List.cons_append, put_directory_cons hs]
      cases q with
      | nil =>
          obtain rfl : .directory es' = u := by simpa using hu
          exact ⟨_, get?_nil _, Or.inr ⟨rfl, rfl⟩⟩
      | cons n rest =>
          rw [get?_directory_cons] at hu ⊢
          by_cases hn : n = p
          · subst hn
            rw [hs, Option.bind_some] at hu
            rw [Dict.get?_insert_self, Option.bind_some]
            refine ih hdir (fun es'' hes => hold es'' ?_) (fun heq => hq (by rw [heq]; rfl)) hu
            rw [List.cons_append, get?_directory_cons, hs, Option.bind_some, hes]
          · rw [Dict.get?_insert_of_ne es' _ hn]
            exact ⟨u, hu, Or.inl rfl⟩

/-- Every place that is not below the one where something is put held what it holds, but for the directories
on the way. -/
theorem exists_get?_of_put_outside
    {q : Place}
    {new u : FileTree}
    (h : t.get? parent = some (.directory es))
    (hq : ¬ parent ++ [name] <+: q)
    (hu : (t.put (parent ++ [name]) new).get? q = some u) :
    ∃ u', t.get? q = some u' ∧ (u = u' ∨ (u'.isDirectory = true ∧ u.isDirectory = true)) := by
  induction parent generalizing t q with
  | nil =>
      obtain rfl : t = .directory es := by simpa using h
      cases q with
      | nil =>
          obtain rfl : .directory (Dict.insert es name new) = u := by simpa [put] using hu
          exact ⟨_, get?_nil _, Or.inr ⟨rfl, rfl⟩⟩
      | cons n rest =>
          simp only [List.nil_append, put, get?_directory_cons] at hu
          have hn : n ≠ name := by
            rintro rfl
            exact hq (List.prefix_append [n] rest)
          rw [Dict.get?_insert_of_ne es new hn] at hu
          exact ⟨u, by rw [get?_directory_cons, hu], Or.inl rfl⟩
  | cons p parent ih =>
      obtain ⟨es', s, rfl, hs, hdir⟩ := exists_of_get?_cons h
      rw [List.cons_append, put_directory_cons hs] at hu
      cases q with
      | nil =>
          obtain rfl : .directory (Dict.insert es' p (s.put (parent ++ [name]) new)) = u := by
            simpa using hu
          exact ⟨_, get?_nil _, Or.inr ⟨rfl, rfl⟩⟩
      | cons n rest =>
          rw [get?_directory_cons] at hu ⊢
          by_cases hn : n = p
          · subst hn
            rw [Dict.get?_insert_self, Option.bind_some] at hu
            rw [hs, Option.bind_some]
            exact ih hdir (fun hbelow => hq (List.cons_prefix_cons.mpr ⟨rfl, hbelow⟩)) hu
          · rw [Dict.get?_insert_of_ne es' _ hn] at hu
            exact ⟨u, hu, Or.inl rfl⟩

/-- The same for every other place, if what is put is no directory, so that nothing is below it. -/
theorem exists_get?_of_put
    {q : Place}
    {new u : FileTree}
    (h : t.get? parent = some (.directory es))
    (hnew : new.isDirectory = false)
    (hq : q ≠ parent ++ [name])
    (hu : (t.put (parent ++ [name]) new).get? q = some u) :
    ∃ u', t.get? q = some u' ∧ (u = u' ∨ (u'.isDirectory = true ∧ u.isDirectory = true)) := by
  refine exists_get?_of_put_outside h ?_ hu
  rintro ⟨rest, rfl⟩
  rw [get?_append, get?_put h, Option.bind_some] at hu
  cases rest with
  | nil => exact hq (List.append_nil _)
  | cons n rest =>
      obtain ⟨es', s, rfl, -, -⟩ := exists_of_get?_cons hu
      cases hnew

end Entry

/-- What holds for a directory when it holds for all that its names lead to, and for everything else,
holds for all trees. -/
@[elab_as_elim]
theorem entryInduction
    {motive : FileTree → Prop}
    (file : ∀ content traits, motive (.file content traits))
    (link : ∀ target, motive (.link target))
    (device : ∀ kind, motive (.device kind))
    (directory : ∀ es, (∀ name t, Dict.get? es name = some t → motive t) → motive (.directory es))
    (t : FileTree) :
    motive t := by
  induction hsize : sizeOf t using Nat.strong_induction_on generalizing t with
  | h size ih =>
      cases t with
      | file content traits => exact file content traits
      | link target => exact link target
      | device kind => exact device kind
      | directory es =>
          refine directory es fun name t ht => ih _ ?_ t rfl
          have hlt := List.sizeOf_lt_of_mem (Dict.mem_of_get? ht)
          simp only [← hsize, FileTree.directory.sizeOf_spec, Prod.mk.sizeOf_spec] at hlt ⊢
          omega

/-! ## Files in their places -/

/-- A tree has a file with a content at a place. -/
def HasFile
    (t : FileTree)
    (place : Place)
    (c : Content) : Prop :=
  ∃ traits, t.get? place = some (.file c traits)

@[simp] theorem not_hasFile_directory_nil
    (es : List (String × FileTree))
    (c : Content) :
    ¬ (directory es).HasFile [] c := by
  simp [HasFile]

@[simp] theorem hasFile_directory_cons
    (es : List (String × FileTree))
    (name : String)
    (rest : Place)
    (c : Content) :
    (directory es).HasFile (name :: rest) c ↔
      ∃ t, Dict.get? es name = some t ∧ t.HasFile rest c := by
  simp only [HasFile, get?_directory_cons, Option.bind_eq_some_iff]
  constructor
  · rintro ⟨traits, t, ht, hfile⟩
    exact ⟨t, ht, traits, hfile⟩
  · rintro ⟨t, ht, traits, hfile⟩
    exact ⟨traits, t, ht, hfile⟩

/-- Only a file has a file at its own place, and nothing below it. -/
@[simp] theorem hasFile_file
    (content : Content)
    (traits : Traits)
    (place : Place)
    (c : Content) :
    (file content traits).HasFile place c ↔ place = [] ∧ c = content := by
  cases place with
  | nil => simp [HasFile, eq_comm]
  | cons name rest => simp [HasFile, get?]

@[simp] theorem not_hasFile_link
    (target : String)
    (place : Place)
    (c : Content) :
    ¬ (link target).HasFile place c := by
  cases place <;> simp [HasFile, get?]

@[simp] theorem not_hasFile_device
    (kind : Device)
    (place : Place)
    (c : Content) :
    ¬ (device kind).HasFile place c := by
  cases place <;> simp [HasFile, get?]

/-! ## Entries in order -/

theorem sorted_orderedEntries (es : List (String × FileTree)) :
    Dict.Sorted (orderedEntries es) := by
  induction es with
  | nil => exact List.Pairwise.nil
  | cons e rest ih =>
      rw [orderedEntries]
      exact ih.insert e.1 (ordered e.2)

/-- Putting entries in order leaves what their names lead to, put in order itself. -/
theorem get?_orderedEntries
    (es : List (String × FileTree))
    (name : String) :
    Dict.get? (orderedEntries es) name = (Dict.get? es name).map ordered := by
  induction es with
  | nil => rfl
  | cons e rest ih =>
      rw [orderedEntries]
      by_cases hname : name = e.1
      · subst hname
        rw [Dict.get?_insert_self, Dict.get?, if_pos rfl, Option.map_some]
      · rw [Dict.get?_insert_of_ne _ _ hname, ih, Dict.get?, if_neg (Ne.symm hname)]

/-! ## Another order -/

/-- One tree is the other one with the entries of directories listed in another order. -/
inductive Relisted : FileTree → FileTree → Prop where
  | refl (t : FileTree) :
      Relisted t t
  | perm
      {es es' : List (String × FileTree)}
      (distinct : (es.map Prod.fst).Nodup)
      (h : es.Perm es') :
      Relisted (.directory es) (.directory es')
  | entry
      {before after : List (String × FileTree)}
      {name : String}
      {t t' : FileTree}
      (h : Relisted t t') :
      Relisted (.directory (before ++ (name, t) :: after))
        (.directory (before ++ (name, t') :: after))
  | trans
      {t u v : FileTree}
      (h : Relisted t u)
      (h' : Relisted u v) :
      Relisted t v

/-- In whatever order entries are listed, the same files are in the same places. -/
theorem Relisted.hasFile_iff
    {t t' : FileTree}
    (h : Relisted t t')
    (place : Place)
    (c : Content) :
    t.HasFile place c ↔ t'.HasFile place c := by
  induction h generalizing place with
  | refl t => exact Iff.rfl
  | perm distinct h =>
      cases place with
      | nil => simp
      | cons name rest => simp [Dict.get?_perm distinct h name]
  | @entry before after name t t' h ih =>
      cases place with
      | nil => simp
      | cons n rest =>
          simp only [hasFile_directory_cons, Dict.get?_append, Dict.get?]
          cases Dict.get? before n with
          | some u => simp
          | none =>
              by_cases hn : name = n
              · simp [hn, ih rest]
              · simp [hn]
  | trans h h' ih ih' => exact (ih place).trans (ih' place)

theorem Relisted.isDirectory_eq
    {t t' : FileTree}
    (h : Relisted t t') :
    t'.isDirectory = t.isDirectory := by
  induction h with
  | refl t => rfl
  | perm distinct h => rfl
  | entry h ih => rfl
  | trans h h' ih ih' => exact ih'.trans ih

/-! ## One file less, or another one -/

/-- Two trees have the same files, but for one place. -/
def SameBut
    (place : Place)
    (t t' : FileTree) : Prop :=
  ∀ q, q ≠ place → ∀ c, t'.HasFile q c ↔ t.HasFile q c

/-- Two directories with the same entries but for one name have the same files but for one place when
what the name leads to does. -/
theorem sameBut_cons
    {es es' : List (String × FileTree)}
    {name : String}
    {rest : Place}
    (others : ∀ n, n ≠ name → Dict.get? es' n = Dict.get? es n)
    (entry : ∀ q, q ≠ rest → ∀ c,
      (∃ t, Dict.get? es' name = some t ∧ t.HasFile q c) ↔
        ∃ t, Dict.get? es name = some t ∧ t.HasFile q c) :
    SameBut (name :: rest) (.directory es) (.directory es') := by
  intro q hq c
  cases q with
  | nil => simp
  | cons n q =>
      rw [hasFile_directory_cons, hasFile_directory_cons]
      by_cases hn : n = name
      · subst hn
        exact entry q (fun heq => hq (heq ▸ rfl)) c
      · rw [others n hn]

section Entry

variable {t : FileTree}
variable {place : Place}
variable {c : Content}

/-- A directory whose file at a place is taken away has all its other files. -/
theorem sameBut_erase
    (h : t.HasFile place c) :
    SameBut place t (t.erase place) := by
  induction place generalizing t with
  | nil => exact fun q hq b => Iff.rfl
  | cons name rest ih =>
      obtain ⟨traits, htraits⟩ := h
      obtain ⟨es, s, rfl, hs, hfile⟩ := exists_of_get?_cons htraits
      cases rest with
      | nil =>
          -- Nothing was below the file, since it was no directory.
          obtain rfl : s = .file c traits := by simpa using hfile
          refine sameBut_cons (fun n hn => Dict.get?_erase_of_ne es hn) fun q hq b => ?_
          simp [Dict.get?_erase_self, hs, hq]
      | cons m rest =>
          have hrest := ih ⟨traits, hfile⟩
          simp only [erase, hs]
          refine sameBut_cons (fun n hn => Dict.get?_insert_of_ne es _ hn) fun q hq b => ?_
          simp [Dict.get?_insert_self, hs, hrest q hq b]

/-- A file lies in a directory, unless it is the whole tree. -/
theorem exists_directory_of_hasFile
    (h : t.HasFile place c)
    (below : place ≠ []) :
    ∃ parent name es, place = parent ++ [name] ∧ t.get? parent = some (.directory es) := by
  obtain ⟨parent, name, rfl⟩ := (List.eq_nil_or_concat' place).resolve_left below
  obtain ⟨traits, htraits⟩ := h
  rw [get?_append, Option.bind_eq_some_iff] at htraits
  obtain ⟨u, hu, hentry⟩ := htraits
  obtain ⟨es, s, rfl, -, -⟩ := exists_of_get?_cons hentry
  exact ⟨parent, name, es, rfl, hu⟩

end Entry

/-- Only directories have files below them. -/
theorem not_hasFile_of_ne_directory
    {t : FileTree}
    (h : ∀ es, t ≠ .directory es)
    {q : Place}
    (hq : q ≠ [])
    (c : Content) :
    ¬ t.HasFile q c := by
  rintro ⟨traits, htraits⟩
  obtain ⟨name, rest, rfl⟩ := List.exists_cons_of_ne_nil hq
  obtain ⟨es, s, rfl, -, -⟩ := exists_of_get?_cons htraits
  exact h es rfl

/-- A directory that has something without files below it under a name has all its other files. What was
there must not be a directory. -/
theorem sameBut_put
    {t new : FileTree}
    {parent : Place}
    {es : List (String × FileTree)}
    {name : String}
    (h : t.get? parent = some (.directory es))
    (hold : ∀ es', t.get? (parent ++ [name]) ≠ some (.directory es'))
    (hnew : ∀ q, q ≠ [] → ∀ c, ¬ new.HasFile q c) :
    SameBut (parent ++ [name]) t (t.put (parent ++ [name]) new) := by
  induction parent generalizing t with
  | nil =>
      obtain rfl : t = .directory es := by simpa using h
      simp only [List.nil_append, put] at hold ⊢
      refine sameBut_cons (fun n hn => Dict.get?_insert_of_ne es _ hn) fun q hq c => ?_
      rw [Dict.get?_insert_self]
      refine iff_of_false (fun hfile => ?_) fun hfile => ?_
      · obtain ⟨s, hs, hfile⟩ := hfile
        exact hnew q hq c (Option.some.inj hs ▸ hfile)
      · obtain ⟨s, hs, hfile⟩ := hfile
        refine not_hasFile_of_ne_directory (fun es' hes => hold es' ?_) hq c hfile
        rw [get?_directory_cons, hs, hes, Option.bind_some, get?_nil]
  | cons p parent ih =>
      obtain ⟨es', s, rfl, hs, hdir⟩ := exists_of_get?_cons h
      rw [List.cons_append, put_directory_cons hs]
      refine sameBut_cons (fun n hn => Dict.get?_insert_of_ne es' _ hn) fun q hq c => ?_
      have hrest := ih hdir (fun es'' hes => hold es'' ?_) q hq c
      · simp [Dict.get?_insert_self, hs, hrest]
      · rw [List.cons_append, get?_directory_cons, hs, Option.bind_some, hes]

/-- Taking a file away leaves a directory. -/
theorem isDirectory_erase
    (t : FileTree)
    (place : Place) :
    (t.erase place).isDirectory = t.isDirectory := by
  fun_cases erase t place <;> rfl

/-- Putting a tree below a directory leaves a directory. -/
theorem isDirectory_put
    (t : FileTree)
    {place : Place}
    (h : place ≠ [])
    (new : FileTree) :
    (t.put place new).isDirectory = t.isDirectory := by
  fun_cases put t place new <;> first | rfl | exact absurd rfl h

end FileTree
end Runbook
