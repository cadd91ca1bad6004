import Mathlib.Data.String.Basic
import Mathlib.Tactic
import Runbook.Json.Basic

/-!
# Dictionaries

A dictionary made from a list has the last value that the list has for a key, its keys stand in
increasing order, and it is the list itself when the keys of the list do. Entering a list into a
dictionary, entry by entry, lets the last value for a key win, and leaves the other keys.

Main statements: `get?_ofList`, `ofList_of_sorted` and `get?_insertAll`.
-/

namespace Runbook
namespace Dict

variable {α β : Type}

/-- Of two values for one key the last one stays. -/
theorem insert_insert
    (d : Dict α)
    (key : String)
    (a b : α) :
    insert (insert d key a) key b = insert d key b := by
  induction d with
  | nil => simp [insert]
  | cons p rest ih =>
      obtain ⟨k, v⟩ := p
      by_cases hk : k = key
      · simp [insert, hk]
      · by_cases hlt : key < k
        · simp [insert, hk, hlt]
        · simp [insert, hk, hlt, ih]

/-! ## Entering several values -/

/-- Sets the values of a list, one after another. -/
def insertAll
    (d : Dict α)
    (entries : List (String × α)) :
    Dict α :=
  entries.foldl (fun d e => insert d e.1 e.2) d

@[simp] theorem insertAll_cons
    (d : Dict α)
    (e : String × α)
    (entries : List (String × α)) :
    insertAll d (e :: entries) = insertAll (insert d e.1 e.2) entries := by
  rfl

@[simp] theorem insertAll_concat
    (d : Dict α)
    (entries : List (String × α))
    (e : String × α) :
    insertAll d (entries ++ [e]) = insert (insertAll d entries) e.1 e.2 := by
  simp [insertAll]

theorem get?_eq_map_find?
    (d : Dict α)
    (key : String) :
    get? d key = (d.find? fun e => e.1 = key).map Prod.snd := by
  induction d with
  | nil => rfl
  | cons e rest ih =>
      obtain ⟨k, v⟩ := e
      by_cases hk : k = key
      · simp [get?, hk]
      · simp [get?, hk, ih]

/-- Of the values that are set for a key the last one counts. -/
theorem get?_insertAll
    (d : Dict α)
    (entries : List (String × α))
    (key : String) :
    get? (insertAll d entries) key =
      ((entries.reverse.find? fun e => e.1 = key).map Prod.snd).or (get? d key) := by
  induction entries using List.reverseRecOn with
  | nil => rfl
  | append_singleton rest e ih =>
      rw [insertAll_concat, List.reverse_append, List.reverse_singleton, List.singleton_append]
      by_cases hkey : e.1 = key
      · subst hkey
        simp [get?_insert_self]
      · simp [get?_insert_of_ne _ _ (Ne.symm hkey), hkey, ih]

/-- A key for which a value is set has one of the values that are set. -/
theorem exists_mem_of_insertAll
    {entries : List (String × α)}
    {key : String}
    (h : key ∈ entries.map Prod.fst)
    (d : Dict α) :
    ∃ value, get? (insertAll d entries) key = some value ∧ (key, value) ∈ entries := by
  obtain ⟨e, he, rfl⟩ := List.mem_map.mp h
  have hfound : (entries.reverse.find? fun e' => e'.1 = e.1).isSome := by
    rw [List.find?_isSome]
    exact ⟨e, List.mem_reverse.mpr he, decide_eq_true rfl⟩
  obtain ⟨⟨key, value⟩, hlast⟩ := Option.isSome_iff_exists.mp hfound
  have hmem : (key, value) ∈ entries := List.mem_reverse.mp (List.mem_of_find?_eq_some hlast)
  have hkey := List.find?_some hlast
  obtain rfl : key = e.1 := of_decide_eq_true hkey
  exact ⟨value, by rw [get?_insertAll, hlast]; rfl, hmem⟩

@[simp] theorem ofList_concat
    (entries : List (String × α))
    (p : String × α) :
    ofList (entries ++ [p]) = insert (ofList entries) p.1 p.2 := by
  simp [ofList]

/-- Of the values that a list has for a key the last one counts. -/
theorem get?_ofList
    (entries : List (String × α))
    (key : String) :
    get? (ofList entries) key = (entries.reverse.find? fun p => p.1 = key).map Prod.snd := by
  have hall := get?_insertAll [] entries key
  rwa [get?_nil, Option.or_none] at hall

/-! ## The order of the keys -/

/-- The keys of a list stand in increasing order. -/
def Sorted (d : Dict α) : Prop :=
  d.Pairwise fun p q => p.1 < q.1

/-- A key that is set is among the keys, and no other key is new. -/
theorem mem_insert
    {d : Dict α}
    {key : String}
    {value : α}
    {p : String × α}
    (h : p ∈ insert d key value) :
    p = (key, value) ∨ p ∈ d := by
  induction d with
  | nil => exact Or.inl (by simpa [insert] using h)
  | cons q rest ih =>
      obtain ⟨k, v⟩ := q
      rw [insert] at h
      split at h
      · exact (List.mem_cons.mp h).imp_right (List.mem_cons_of_mem _)
      · split at h
        · exact List.mem_cons.mp h
        · rcases List.mem_cons.mp h with rfl | hrest
          · exact Or.inr List.mem_cons_self
          · exact (ih hrest).imp_right (List.mem_cons_of_mem _)

theorem Sorted.insert
    {d : Dict α}
    (h : Sorted d)
    (key : String)
    (value : α) :
    Sorted (Dict.insert d key value) := by
  induction d with
  | nil => exact List.pairwise_singleton _ _
  | cons q rest ih =>
      obtain ⟨k, v⟩ := q
      obtain ⟨hfirst, hrest⟩ := List.pairwise_cons.mp h
      rw [Dict.insert]
      split
      next hk =>
        subst hk
        exact List.pairwise_cons.mpr ⟨hfirst, hrest⟩
      next hk =>
        split
        next hlt =>
          refine List.pairwise_cons.mpr ⟨fun p hp => ?_, h⟩
          rcases List.mem_cons.mp hp with rfl | hp
          · exact hlt
          · exact lt_trans hlt (hfirst p hp)
        next hle =>
          refine List.pairwise_cons.mpr ⟨fun p hp => ?_, ih hrest⟩
          rcases mem_insert hp with rfl | hp
          · exact lt_of_le_of_ne (not_lt.mp hle) hk
          · exact hfirst p hp

theorem sorted_ofList
    (entries : List (String × α)) :
    Sorted (ofList entries) := by
  induction entries using List.reverseRecOn with
  | nil => exact List.Pairwise.nil
  | append_singleton rest p ih =>
      rw [ofList_concat]
      exact ih.insert p.1 p.2

/-- A key above all others comes last. -/
theorem insert_of_lt
    {d : Dict α}
    {key : String}
    (h : ∀ p ∈ d, p.1 < key)
    (value : α) :
    insert d key value = d ++ [(key, value)] := by
  induction d with
  | nil => rfl
  | cons q rest ih =>
      obtain ⟨k, v⟩ := q
      have hk : k < key := h (k, v) List.mem_cons_self
      have hrest := ih fun p hp => h p (List.mem_cons_of_mem _ hp)
      rw [insert, if_neg hk.ne, if_neg hk.asymm, hrest, List.cons_append]

/-- A list whose keys stand in order is a dictionary. -/
theorem ofList_of_sorted
    {d : Dict α}
    (h : Sorted d) :
    ofList d = d := by
  induction d using List.reverseRecOn with
  | nil => rfl
  | append_singleton rest p ih =>
      obtain ⟨hrest, -, hlast⟩ := List.pairwise_append.mp h
      rw [ofList_concat, ih hrest]
      exact insert_of_lt (fun q hq => hlast q hq p (List.mem_singleton_self p)) p.2

/-- What a dictionary has for a key is one of its entries. -/
theorem mem_of_get?
    {d : Dict α}
    {key : String}
    {value : α}
    (h : get? d key = some value) :
    (key, value) ∈ d := by
  induction d with
  | nil => cases h
  | cons p rest ih =>
      obtain ⟨k, v⟩ := p
      rw [get?] at h
      split at h
      · rename_i hk
        cases h
        exact hk ▸ List.mem_cons_self
      · exact List.mem_cons_of_mem _ (ih h)

/-- A key is one of the keys if it has a value. -/
theorem mem_keys_iff
    {d : Dict α}
    {key : String} :
    key ∈ d.map Prod.fst ↔ ∃ value, get? d key = some value := by
  induction d with
  | nil => simp [get?]
  | cons p rest ih =>
      obtain ⟨k, v⟩ := p
      by_cases hk : k = key
      · simp [get?, hk]
      · simp only [List.map_cons, List.mem_cons, get?, if_neg hk, ih]
        exact or_iff_right (Ne.symm hk)

/-- Where no key stands twice, every entry is what the dictionary has for its key. -/
theorem get?_eq_some_iff
    {d : Dict α}
    (hd : (d.map Prod.fst).Nodup)
    {key : String}
    {value : α} :
    get? d key = some value ↔ (key, value) ∈ d := by
  induction d with
  | nil => simp
  | cons p rest ih =>
      obtain ⟨k, v⟩ := p
      rw [List.map_cons, List.nodup_cons] at hd
      rw [get?, List.mem_cons, Prod.mk.injEq]
      split
      next hk =>
        subst hk
        have hfree : (k, value) ∉ rest := fun hmem => hd.1 (List.mem_map.mpr ⟨_, hmem, rfl⟩)
        simp [hfree, eq_comm]
      next hk => simp [ih hd.2, Ne.symm hk]

/-- No key stands twice where the keys stand in order. -/
theorem Sorted.nodup
    {d : Dict α}
    (h : Sorted d) :
    (d.map Prod.fst).Nodup :=
  List.pairwise_map.mpr (h.imp fun hlt => hlt.ne)

/-- In what order the entries stand does not matter where no key stands twice. -/
theorem get?_perm
    {d d' : Dict α}
    (hd : (d.map Prod.fst).Nodup)
    (h : d.Perm d')
    (key : String) :
    get? d key = get? d' key := by
  have hd' : (d'.map Prod.fst).Nodup := (h.map Prod.fst).nodup_iff.mp hd
  refine Option.ext fun value => ?_
  rw [get?_eq_some_iff hd, get?_eq_some_iff hd', h.mem_iff]

/-- Where no key stands twice, each of the values that are set counts. -/
theorem get?_insertAll_of_nodup
    {entries : List (String × α)}
    (hentries : (entries.map Prod.fst).Nodup)
    {key : String}
    {value : α}
    (h : (key, value) ∈ entries)
    (d : Dict α) :
    get? (insertAll d entries) key = some value := by
  rw [get?_insertAll, ← get?_eq_map_find?, ← get?_perm hentries (List.reverse_perm entries).symm,
    (get?_eq_some_iff hentries).mpr h, Option.some_or]

theorem get?_append
    (d d' : Dict α)
    (key : String) :
    get? (d ++ d') key = (get? d key).or (get? d' key) := by
  induction d with
  | nil => rfl
  | cons p rest ih =>
      obtain ⟨k, v⟩ := p
      by_cases hk : k = key
      · simp [get?, hk]
      · simp [get?, hk, ih]

/-! ## Taking keys away -/

theorem get?_erase_self
    (d : Dict α)
    (key : String) :
    get? (erase d key) key = none := by
  cases h : get? (erase d key) key with
  | none => rfl
  | some value =>
      have hmem := List.mem_filter.mp (mem_of_get? h)
      simp at hmem

theorem get?_erase_of_ne
    (d : Dict α)
    {key key' : String}
    (h : key' ≠ key) :
    get? (erase d key) key' = get? d key' := by
  induction d with
  | nil => rfl
  | cons p rest ih =>
      obtain ⟨k, v⟩ := p
      unfold erase at ih ⊢
      by_cases hk : k = key
      · subst hk
        rw [List.filter_cons_of_neg (by simp), ih, get?, if_neg h.symm]
      · rw [List.filter_cons_of_pos (by simpa using hk), get?, get?, ih]

/-! ## Other values for the same keys -/

theorem map_insert
    (f : α → β)
    (d : Dict α)
    (key : String)
    (value : α) :
    (insert d key value).map (Prod.map id f) = insert (d.map (Prod.map id f)) key (f value) := by
  induction d with
  | nil => rfl
  | cons q rest ih =>
      obtain ⟨k, v⟩ := q
      simp only [insert, List.map_cons, Prod.map_apply, id_eq]
      split
      · rfl
      · split
        · rfl
        · rw [List.map_cons, ih]
          rfl

theorem map_ofList
    (f : α → β)
    (entries : List (String × α)) :
    (ofList entries).map (Prod.map id f) = ofList (entries.map (Prod.map id f)) := by
  induction entries using List.reverseRecOn with
  | nil => rfl
  | append_singleton rest p ih =>
      rw [ofList_concat, map_insert, ih, List.map_append, List.map_singleton, ofList_concat]
      rfl

end Dict
end Runbook
