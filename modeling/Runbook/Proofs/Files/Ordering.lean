import Runbook.Proofs.Files.Replacing

/-!
# The order of paths

Paths are ordered by their components, and not by their characters: what lies below a directory comes
before the next name of the directory, whatever character comes first. A path below another one has the
components of that one and then the names that lead to it, so below one path the names decide.

Main statements: `components_below` and `precedes_below`.
-/

namespace Runbook

/-! ## Components in order -/

namespace PathPart

theorem precedes_irrefl (p : PathPart) :
    p.precedes p = false := by
  cases p <;> simp [precedes]

theorem precedes_asymm
    {p q : PathPart}
    (h : p.precedes q = true) :
    q.precedes p = false := by
  cases p <;> cases q
  case name.name a b =>
    have hlt : a < b := of_decide_eq_true h
    exact decide_eq_false hlt.asymm
  all_goals first | rfl | cases h

end PathPart

namespace Path

@[simp] theorem partsPrecede_nil (s : List PathPart) :
    partsPrecede s [] = false := by
  cases s <;> rfl

/-- Components that two paths share at their start do not matter. -/
theorem partsPrecede_append
    (s t u : List PathPart) :
    partsPrecede (s ++ t) (s ++ u) = partsPrecede t u := by
  induction s with
  | nil => rfl
  | cons a s ih => simp [partsPrecede, PathPart.precedes_irrefl, ih]

theorem partsPrecede_asymm
    {s t : List PathPart}
    (h : partsPrecede s t = true) :
    partsPrecede t s = false := by
  induction s generalizing t with
  | nil => exact partsPrecede_nil t
  | cons a s ih =>
      cases t with
      | nil => cases h
      | cons b t =>
          simp only [partsPrecede, Bool.or_eq_true, Bool.and_eq_true, decide_eq_true_eq] at h
          rcases h with hlt | ⟨rfl, hrest⟩
          · have hne : b ≠ a := by
              rintro rfl
              rw [PathPart.precedes_irrefl] at hlt
              cases hlt
            simp [partsPrecede, PathPart.precedes_asymm hlt, hne]
          · simp [partsPrecede, PathPart.precedes_irrefl, ih hrest]

theorem precedes_asymm
    {p q : String}
    (h : precedes p q = true) :
    precedes q p = false :=
  partsPrecede_asymm h

/-- Of two paths with the same components none comes first. -/
theorem components_ne_of_precedes
    {p q : String}
    (h : precedes p q = true) :
    components p ≠ components q := by
  intro heq
  have hback := precedes_asymm h
  rw [precedes, heq] at h hback
  rw [h] at hback
  cases hback

/-! ## Paths below a path -/

/-- A name that an entry of a directory may have. -/
structure IsEntryName (name : String) : Prop where
  ne_nil : name.toList ≠ []
  ne_here : name.toList ≠ ['.']
  ne_up : name.toList ≠ ['.', '.']
  plain : '/' ∉ name.toList

instance (name : String) : Decidable (IsEntryName name) :=
  decidable_of_iff
    (name.toList ≠ [] ∧ name.toList ≠ ['.'] ∧ name.toList ≠ ['.', '.'] ∧ '/' ∉ name.toList)
    ⟨fun h => ⟨h.1, h.2.1, h.2.2.1, h.2.2.2⟩, fun h => ⟨h.ne_nil, h.ne_here, h.ne_up, h.plain⟩⟩

/-- The path that names lead to from a path on. -/
def below
    (path : String)
    (place : Place) :
    String :=
  place.foldl join path

section Below

variable {name : String}

theorem IsEntryName.partOf?_eq
    (h : IsEntryName name) :
    partOf? name.toList = some (.name name) := by
  simp [partOf?, h.ne_nil, h.ne_here, h.ne_up]

/-- The parts of a path below a directory are those of the directory, empty ones aside, and the
name. -/
theorem filterMap_splitOn_join
    (h : IsEntryName name)
    (base : String) :
    (Text.splitOn '/' (join base name).toList).filterMap partOf? =
      (Text.splitOn '/' base.toList).filterMap partOf? ++ [.name name] := by
  have hempty : partOf? [] = none := rfl
  rw [toList_join (not_isAbsolute h.plain), Disk.splitOn_front_append h.plain (frontOf_closed base),
    List.filterMap_append, List.filterMap_cons_some h.partOf?_eq, List.filterMap_nil]
  congr 1
  rcases frontOf_cases base with ⟨hfront, hbase⟩ | ⟨g, hfront, hbase⟩ | ⟨hfront, -⟩
  · rw [hfront, hbase]
    rfl
  · have hparts : Text.splitOn '/' (g ++ ['/']) = Text.splitOn '/' g ++ [[]] :=
      Text.splitOn_append_cons '/' g []
    rw [hfront, hbase, hparts, List.dropLast_concat, List.filterMap_append,
      List.filterMap_cons_none hempty, List.filterMap_nil, List.append_nil]
  · have hparts : Text.splitOn '/' (base.toList ++ ['/']) = Text.splitOn '/' base.toList ++ [[]] :=
      Text.splitOn_append_cons '/' base.toList []
    rw [hfront, hparts, List.dropLast_concat]

/-- A path below a directory starts as the directory does. -/
theorem start_join
    (h : IsEntryName name)
    (base : String) :
    isAbsolute (join base name) = isAbsolute base ∧
      ((Text.splitOn '/' (join base name).toList).head? = some ['.'] ↔
        (Text.splitOn '/' base.toList).head? = some ['.']) := by
  have hname : name.toList.head? ≠ some '/' := fun hhead => h.plain (List.mem_of_mem_head? hhead)
  have hfree := toList_join (not_isAbsolute h.plain) base
  rw [isAbsolute, isAbsolute, hfree, Disk.splitOn_front_append h.plain (frontOf_closed base)]
  rcases frontOf_cases base with ⟨hfront, hbase⟩ | ⟨g, hfront, hbase⟩ | ⟨hfront, hbase⟩
  · rw [hfront, hbase]
    simp [Text.splitOn, h.ne_here, hname]
  · have hparts : Text.splitOn '/' (g ++ ['/']) = Text.splitOn '/' g ++ [[]] :=
      Text.splitOn_append_cons '/' g []
    obtain ⟨part, parts, hg⟩ := List.exists_cons_of_ne_nil (Text.splitOn_ne_nil '/' g)
    rw [hfront, hbase, hparts, List.dropLast_concat, hg]
    refine ⟨?_, by simp⟩
    cases g <;> simp
  · have hparts : Text.splitOn '/' (base.toList ++ ['/']) = Text.splitOn '/' base.toList ++ [[]] :=
      Text.splitOn_append_cons '/' base.toList []
    obtain ⟨part, parts, hsplit⟩ := List.exists_cons_of_ne_nil (Text.splitOn_ne_nil '/' base.toList)
    obtain ⟨c, s, hcons⟩ := List.exists_cons_of_ne_nil hbase
    rw [hfront, hparts, List.dropLast_concat, hsplit, hcons]
    simp

/-- A path below a directory has one component more. -/
theorem components_join
    (h : IsEntryName name)
    (base : String) :
    components (join base name) = components base ++ [.name name] := by
  obtain ⟨habsolute, hhere⟩ := start_join h base
  unfold components
  simp only [filterMap_splitOn_join h, habsolute, hhere, List.append_assoc]

theorem fileName?_join
    (h : IsEntryName name)
    (base : String) :
    fileName? (join base name) = some name := by
  rw [fileName?, components_join h, List.getLast?_concat]

end Below

/-- The names that lead below a path are components of the path there. -/
theorem components_below
    {place : Place}
    (h : ∀ name ∈ place, IsEntryName name)
    (path : String) :
    components (below path place) = components path ++ place.map .name := by
  induction place generalizing path with
  | nil => simp [below]
  | cons name place ih =>
      have hrest := ih (fun other hother => h other (List.mem_cons_of_mem _ hother)) (join path name)
      rw [below, List.foldl_cons, ← below, hrest, components_join (h name List.mem_cons_self)]
      simp

/-- Below a path what one name leads to comes before what a greater name leads to. -/
theorem precedes_below
    {path a b : String}
    {place place' : Place}
    (h : ∀ name ∈ a :: place, IsEntryName name)
    (h' : ∀ name ∈ b :: place', IsEntryName name)
    (hlt : a < b) :
    precedes (below path (a :: place)) (below path (b :: place')) = true := by
  rw [precedes, components_below h, components_below h', partsPrecede_append]
  simp [partsPrecede, PathPart.precedes, hlt]

end Path

end Runbook
