import Mathlib.Data.List.Sort
import Runbook.Action.Discovery
import Runbook.Proofs.Files.Places
import Runbook.Proofs.Files.Ordering

/-!
# The action files of a directory

A walk through a tree with its entries in order finds the files at places without a hidden name, each
with the path that the names lead to and as deep as there are names, in the order of their paths. So
every action file is entered at the end, and no path comes twice: what is found is what the single files
are, in the order of their paths, and it depends on nothing but the files and their places.

Main statements: `FoundFile.mem_inTree_ordered`, `FoundFile.pairwise_inTree_ordered` and
`exists_findActionFiles`.
-/

namespace Runbook

open FileTree

/-- All names that lead to files of a tree may be names of entries. -/
def FileTree.Named (t : FileTree) : Prop :=
  ∀ place c, t.HasFile place c → ∀ name ∈ place, Path.IsEntryName name

theorem FileTree.Named.entry
    {es : List (String × FileTree)}
    {name : String}
    {t : FileTree}
    (h : (FileTree.directory es).Named)
    (ht : Dict.get? es name = some t) :
    t.Named :=
  fun place c hfile n hn =>
    h (name :: place) c ((hasFile_directory_cons es name place c).mpr ⟨t, ht, hfile⟩) n
      (List.mem_cons_of_mem _ hn)

theorem FileTree.named_file
    (content : Content)
    (traits : Traits) :
    (FileTree.file content traits).Named := by
  intro place c hfile
  obtain ⟨rfl, -⟩ := (hasFile_file content traits place c).mp hfile
  exact List.forall_mem_nil _

theorem FileTree.named_directory
    {es : List (String × FileTree)}
    (h : ∀ e ∈ es, Path.IsEntryName e.1 ∧ e.2.Named) :
    (FileTree.directory es).Named := by
  intro place c hfile
  cases place with
  | nil => exact absurd hfile (not_hasFile_directory_nil es c)
  | cons name rest =>
      obtain ⟨t, ht, hrest⟩ := (hasFile_directory_cons es name rest c).mp hfile
      obtain ⟨hname, hnamed⟩ := h _ (Dict.mem_of_get? ht)
      exact List.forall_mem_cons.mpr ⟨hname, hnamed rest c hrest⟩

/-- No name on the way to a place is hidden. -/
def Place.IsVisible (place : Place) : Prop :=
  ∀ name ∈ place, name.toList.head? ≠ some '.'

theorem Place.isVisible_cons
    {name : String}
    {rest : Place} :
    Place.IsVisible (name :: rest) ↔ name.toList.head? ≠ some '.' ∧ Place.IsVisible rest :=
  List.forall_mem_cons

namespace FoundFile

/-- The file that a walk from a path on finds at a place. -/
def atPlace
    (path : String)
    (depth : Nat)
    (place : Place)
    (c : Content) :
    FoundFile :=
  ⟨Path.below path place, depth + place.length, c⟩

theorem atPlace_cons
    (path : String)
    (depth : Nat)
    (name : String)
    (rest : Place)
    (c : Content) :
    atPlace path depth (name :: rest) c = atPlace (Path.join path name) (depth + 1) rest c := by
  simp only [atPlace, Path.below, List.foldl_cons, List.length_cons, FoundFile.mk.injEq, and_true,
    true_and]
  omega

/-! ## What a walk finds -/

/-- The files below entries are those below each of them that is not hidden. -/
theorem mem_inEntries
    {path : String}
    {depth : Nat}
    {es : List (String × FileTree)}
    {f : FoundFile} :
    f ∈ inEntries path depth es ↔
      ∃ name t, (name, t) ∈ es ∧ name.toList.head? ≠ some '.' ∧
        f ∈ inTree (Path.join path name) depth t := by
  induction es with
  | nil => simp [inEntries]
  | cons e rest ih =>
      obtain ⟨name, t⟩ := e
      rw [inEntries]
      by_cases hhidden : name.toList.head? = some '.'
      · rw [if_pos hhidden, ih]
        constructor
        · rintro ⟨n, u, hmem, hrest⟩
          exact ⟨n, u, List.mem_cons_of_mem _ hmem, hrest⟩
        · rintro ⟨n, u, hmem, hn, hf⟩
          rcases List.mem_cons.mp hmem with heq | hmem
          · cases heq
            exact absurd hhidden hn
          · exact ⟨n, u, hmem, hn, hf⟩
      · rw [if_neg hhidden, List.mem_append, ih]
        constructor
        · rintro (hf | ⟨n, u, hmem, hn, hf⟩)
          · exact ⟨name, t, List.mem_cons_self, hhidden, hf⟩
          · exact ⟨n, u, List.mem_cons_of_mem _ hmem, hn, hf⟩
        · rintro ⟨n, u, hmem, hn, hf⟩
          rcases List.mem_cons.mp hmem with heq | hmem
          · cases heq
            exact Or.inl hf
          · exact Or.inr ⟨n, u, hmem, hn, hf⟩

/-- With the entries in order, each name counts once, with what it leads to. -/
theorem mem_inEntries_ordered
    {path : String}
    {depth : Nat}
    {es : List (String × FileTree)}
    {f : FoundFile} :
    f ∈ inEntries path depth (orderedEntries es) ↔
      ∃ name t, Dict.get? es name = some t ∧ name.toList.head? ≠ some '.' ∧
        f ∈ inTree (Path.join path name) depth t.ordered := by
  have hnodup := (sorted_orderedEntries es).nodup
  simp only [mem_inEntries, ← Dict.get?_eq_some_iff hnodup, get?_orderedEntries,
    Option.map_eq_some_iff]
  constructor
  · rintro ⟨name, u, ⟨t, ht, rfl⟩, hf⟩
    exact ⟨name, t, ht, hf⟩
  · rintro ⟨name, t, ht, hf⟩
    exact ⟨name, t.ordered, ⟨t, ht, rfl⟩, hf⟩

/-- A walk finds the files of a tree at places without a hidden name, and nothing else. -/
theorem mem_inTree_ordered
    {t : FileTree}
    {path : String}
    {depth : Nat}
    {f : FoundFile} :
    f ∈ inTree path depth t.ordered ↔
      ∃ place c, t.HasFile place c ∧ Place.IsVisible place ∧ f = atPlace path depth place c := by
  induction t using entryInduction generalizing path depth with
  | file content traits =>
      simp [ordered, inTree, atPlace, Path.below, Place.IsVisible]
  | link target => simp [ordered, inTree]
  | device kind => simp [ordered, inTree]
  | directory es ih =>
      rw [ordered, inTree, mem_inEntries_ordered]
      constructor
      · rintro ⟨name, t, ht, hname, hf⟩
        obtain ⟨place, c, hfile, hvisible, rfl⟩ := (ih name t ht).mp hf
        refine ⟨name :: place, c, ?_, Place.isVisible_cons.mpr ⟨hname, hvisible⟩, ?_⟩
        · exact (hasFile_directory_cons es name place c).mpr ⟨t, ht, hfile⟩
        · rw [atPlace_cons]
      · rintro ⟨place, c, hfile, hvisible, rfl⟩
        cases place with
        | nil => exact absurd hfile (not_hasFile_directory_nil es c)
        | cons name rest =>
            obtain ⟨t, ht, hrest⟩ := (hasFile_directory_cons es name rest c).mp hfile
            obtain ⟨hname, hvisible⟩ := Place.isVisible_cons.mp hvisible
            refine ⟨name, t, ht, hname, (ih name t ht).mpr ⟨rest, c, hrest, hvisible, ?_⟩⟩
            rw [atPlace_cons]

/-! ## In which order -/

/-- The path of a file comes before that of another one. -/
def Precedes (f g : FoundFile) : Prop :=
  Path.precedes f.path g.path = true

instance : Std.Irrefl Precedes where
  irrefl _ h := Path.components_ne_of_precedes h rfl

instance : Std.Antisymm Precedes where
  antisymm _ _ h h' := absurd (Path.precedes_asymm h) (by rw [h']; exact Bool.noConfusion)

/-- The files below entries in order are in order when those below each entry are, and all of them come
before those below a later entry. -/
theorem pairwise_inEntries
    {path : String}
    {depth : Nat}
    {es : List (String × FileTree)}
    (sorted : Dict.Sorted es)
    (inside : ∀ name t, (name, t) ∈ es → (inTree (Path.join path name) depth t).Pairwise Precedes)
    (across : ∀ a t b u, (a, t) ∈ es → (b, u) ∈ es → a < b →
      ∀ f ∈ inTree (Path.join path a) depth t, ∀ g ∈ inTree (Path.join path b) depth u,
        f.Precedes g) :
    (inEntries path depth es).Pairwise Precedes := by
  induction es with
  | nil => exact List.Pairwise.nil
  | cons e rest ih =>
      obtain ⟨name, t⟩ := e
      obtain ⟨hfirst, hrest⟩ := List.pairwise_cons.mp sorted
      have hlater := ih hrest
        (fun n u hmem => inside n u (List.mem_cons_of_mem _ hmem))
        (fun a u b v ha hb => across a u b v (List.mem_cons_of_mem _ ha) (List.mem_cons_of_mem _ hb))
      rw [inEntries]
      split
      · exact hlater
      · refine List.pairwise_append.mpr ⟨inside name t List.mem_cons_self, hlater, ?_⟩
        intro f hf g hg
        obtain ⟨n, u, hmem, -, hg⟩ := mem_inEntries.mp hg
        exact across name t n u List.mem_cons_self (List.mem_cons_of_mem _ hmem) (hfirst _ hmem)
          f hf g hg

/-- A walk finds files in the order of their paths. -/
theorem pairwise_inTree_ordered
    {t : FileTree}
    (named : t.Named)
    (path : String)
    (depth : Nat) :
    (inTree path depth t.ordered).Pairwise Precedes := by
  induction t using entryInduction generalizing path depth with
  | file content traits => exact List.pairwise_singleton _ _
  | link target => exact List.Pairwise.nil
  | device kind => exact List.Pairwise.nil
  | directory es ih =>
      have hnodup := (sorted_orderedEntries es).nodup
      have hentry : ∀ name u, (name, u) ∈ orderedEntries es →
          ∃ t, Dict.get? es name = some t ∧ u = t.ordered := by
        intro name u hmem
        have hget := (Dict.get?_eq_some_iff hnodup).mpr hmem
        rw [get?_orderedEntries, Option.map_eq_some_iff] at hget
        obtain ⟨t, ht, rfl⟩ := hget
        exact ⟨t, ht, rfl⟩
      rw [ordered, inTree]
      refine pairwise_inEntries (sorted_orderedEntries es) ?_ ?_
      · intro name u hmem
        obtain ⟨t, ht, rfl⟩ := hentry name u hmem
        exact ih name t ht (named.entry ht) _ _
      · intro a u b v ha hb hlt f hf g hg
        obtain ⟨t, ht, rfl⟩ := hentry a u ha
        obtain ⟨s, hs, rfl⟩ := hentry b v hb
        obtain ⟨place, c, hfile, -, rfl⟩ := mem_inTree_ordered.mp hf
        obtain ⟨place', c', hfile', -, rfl⟩ := mem_inTree_ordered.mp hg
        exact Path.precedes_below
          (named _ c ((hasFile_directory_cons es a place c).mpr ⟨t, ht, hfile⟩))
          (named _ c' ((hasFile_directory_cons es b place' c').mpr ⟨s, hs, hfile'⟩)) hlt

/-- The same files in the same places give the same walk. -/
theorem inTree_ordered_congr
    {t t' : FileTree}
    (named : t.Named)
    (h : ∀ place c, t'.HasFile place c ↔ t.HasFile place c)
    (path : String)
    (depth : Nat) :
    inTree path depth t'.ordered = inTree path depth t.ordered := by
  have named' : t'.Named := fun place c hfile => named place c ((h place c).mp hfile)
  refine List.Pairwise.eq_of_mem_iff (pairwise_inTree_ordered named' path depth)
    (pairwise_inTree_ordered named path depth) fun f => ?_
  simp only [mem_inTree_ordered, h]

end FoundFile

/-! ## Entering files -/

namespace ActionFiles

variable {files : ActionFiles}
variable {path : String}

/-- A path behind all others comes last. -/
theorem insert_of_precedes
    (h : ∀ e ∈ files, Path.precedes e.1 path = true)
    (a : ActionFile) :
    files.insert path a = files ++ [(path, a)] := by
  induction files with
  | nil => rfl
  | cons e rest ih =>
      have hfirst := Path.precedes_asymm (h e List.mem_cons_self)
      have hrest := ih fun e he => h e (List.mem_cons_of_mem _ he)
      rw [insert, hfirst, if_neg Bool.false_ne_true, hrest, List.cons_append]

/-- A path behind all others is not among them. -/
theorem has_of_precedes
    (h : ∀ e ∈ files, Path.precedes e.1 path = true) :
    files.has path = false := by
  refine List.any_eq_false.mpr fun e he => ?_
  simpa using Path.components_ne_of_precedes (h e he)

end ActionFiles

namespace FoundFile

/-- The action file that a file is, with its path. -/
def action? (f : FoundFile) : Option (String × ActionFile) :=
  match f.isCandidate, f.recognised with
  | true, .actions a => some (f.path, a)
  | _, _ => none

/-- The path of a file that has actions but is no action file otherwise. -/
def malformed? (f : FoundFile) : Option String :=
  match f.isCandidate, f.recognised with
  | true, .malformed => some f.path
  | _, _ => none

theorem action?_eq_some_iff
    {f : FoundFile}
    {p : String}
    {a : ActionFile} :
    f.action? = some (p, a) ↔
      f.isCandidate = true ∧ f.recognised = .actions a ∧ p = f.path := by
  unfold action?
  cases f.isCandidate <;> cases f.recognised <;> simp [eq_comm, and_comm]

/-- Looking at a file behind all action files so far adds what it is, and never fails. -/
theorem enter_eq
    {files : ActionFiles}
    {f : FoundFile}
    (h : ∀ e ∈ files, Path.precedes e.1 f.path = true)
    (malformed : List String) :
    enter (files, malformed) f =
      .ok (files ++ f.action?.toList, malformed ++ f.malformed?.toList) := by
  unfold enter action? malformed?
  cases f.isCandidate with
  | false => simp
  | true =>
      cases f.recognised with
      | actions a =>
          simp [ActionFiles.has_of_precedes h, ActionFiles.insert_of_precedes h]
      | malformed => simp
      | other => simp

/-- Looking at files in the order of their paths adds what each of them is. -/
theorem foldlM_enter_eq
    {fs : List FoundFile}
    {files : ActionFiles}
    (inOrder : fs.Pairwise Precedes)
    (behind : ∀ e ∈ files, ∀ f ∈ fs, Path.precedes e.1 f.path = true)
    (malformed : List String) :
    fs.foldlM enter (files, malformed) =
      .ok (files ++ fs.filterMap action?, malformed ++ fs.filterMap malformed?) := by
  induction fs generalizing files malformed with
  | nil => simp [pure, Except.pure]
  | cons f rest ih =>
      obtain ⟨hfirst, hrest⟩ := List.pairwise_cons.mp inOrder
      have henter := enter_eq (fun e he => behind e he f List.mem_cons_self) malformed
      have hbehind : ∀ e ∈ files ++ f.action?.toList, ∀ g ∈ rest,
          Path.precedes e.1 g.path = true := by
        intro e he g hg
        rcases List.mem_append.mp he with he | he
        · exact behind e he g (List.mem_cons_of_mem _ hg)
        · obtain ⟨-, -, hpath⟩ := action?_eq_some_iff.mp (Option.mem_toList.mp he)
          rw [hpath]
          exact hfirst g hg
      rw [List.foldlM_cons, henter]
      have hrun := ih hrest hbehind (malformed ++ f.malformed?.toList)
      simp only [bind, Except.bind, hrun]
      rw [List.append_assoc, List.append_assoc]
      cases haction : f.action? <;> cases hmalformed : f.malformed? <;>
        simp [haction, hmalformed]

/-- Among files in the order of their paths the action files are those that are one. -/
theorem actionFilesAmong_eq
    {fs : List FoundFile}
    (inOrder : fs.Pairwise Precedes) :
    actionFilesAmong fs = .ok (fs.filterMap action?, fs.filterMap malformed?) :=
  foldlM_enter_eq inOrder (fun _ he => absurd he List.not_mem_nil) []

/-- Leaving a path out of the action files is leaving it out of the files. -/
theorem filter_filterMap_action?
    (fs : List FoundFile)
    (path : String) :
    (fs.filterMap action?).filter (fun e => e.1 ≠ path) =
      (fs.filter fun f => f.path ≠ path).filterMap action? := by
  rw [List.filter_filterMap, List.filterMap_filter]
  refine List.filterMap_congr fun f _ => ?_
  cases haction : f.action? with
  | none => simp
  | some e =>
      obtain ⟨-, -, hpath⟩ := action?_eq_some_iff.mp haction
      by_cases heq : f.path = path <;> simp [Option.filter, hpath, heq]

/-- The rule for manifests depends on how deep a file lies, that for backups on its name alone. -/
theorem isCandidate_atPlace
    {place : Place}
    (named : ∀ name ∈ place, Path.IsEntryName name)
    (below : place ≠ [])
    (path : String)
    (c : Content) :
    (atPlace path 0 place c).isCandidate = true ↔
      (∀ name ∈ manifestNames, place ≠ [name]) ∧
        ∀ name ∈ place.getLast?, ∀ suffix ∈ backupSuffixes, name.endsWith suffix = false := by
  obtain ⟨front, last, rfl⟩ := (List.eq_nil_or_concat' place).resolve_left below
  have hlast : Path.fileName? (Path.below path (front ++ [last])) = some last := by
    rw [Path.below, List.foldl_append]
    exact Path.fileName?_join (named last (by simp)) _
  have hmanifest : (∀ name ∈ manifestNames, front ++ [last] ≠ [name]) ↔
      ¬ front = [] ∨ last ∉ manifestNames := by
    constructor
    · intro h
      by_cases hfront : front = []
      · subst hfront
        exact Or.inr fun hmem => h last hmem rfl
      · exact Or.inl hfront
    · intro h name hname heq
      obtain ⟨rfl, rfl⟩ : front = [] ∧ last = name := by
        simpa using List.append_eq_singleton_iff.mp heq
      exact h.elim (fun hfront => hfront rfl) fun hmem => hmem hname
  rw [hmanifest, List.getLast?_concat]
  simp [isCandidate, atPlace, hlast]

end FoundFile

/-! ## What is found below a path -/

/-- A tree has an action file at a place: no name on the way is hidden, it is no manifest of the tree
itself and no backup, and its text is that of an action file. -/
structure FileTree.HasActionFile
    (t : FileTree)
    (place : Place)
    (a : ActionFile) : Prop where
  text : ∃ text, t.HasFile place (.text text) ∧ recognise text = .actions a
  visible : place.IsVisible
  noManifest : ∀ name ∈ manifestNames, place ≠ [name]
  noBackup : ∀ name ∈ place.getLast?, ∀ suffix ∈ backupSuffixes, name.endsWith suffix = false

/-- The files below a path are looked at in order. -/
theorem findActionFiles_eq
    {d : Disk}
    {path : String}
    {t : FileTree}
    (found : d.tree? path = .ok t)
    (directory : t.isDirectory = true)
    (named : t.Named) :
    findActionFiles d path =
      .ok ((FoundFile.inTree path 0 t.ordered).filterMap FoundFile.action?,
        (FoundFile.inTree path 0 t.ordered).filterMap FoundFile.malformed?) := by
  rw [← FoundFile.actionFilesAmong_eq (FoundFile.pairwise_inTree_ordered named path 0)]
  unfold findActionFiles
  rw [found]
  cases t with
  | directory es => rfl
  | file content traits => cases directory
  | link target => cases directory
  | device kind => cases directory

/-- The action files among those of a walk are the action files of the tree. -/
theorem mem_filterMap_action?
    {es : List (String × FileTree)}
    (named : (FileTree.directory es).Named)
    {path p : String}
    {a : ActionFile} :
    (p, a) ∈ (FoundFile.inTree path 0 (ordered (.directory es))).filterMap FoundFile.action? ↔
      ∃ place, (FileTree.directory es).HasActionFile place a ∧ p = Path.below path place := by
  simp only [List.mem_filterMap, FoundFile.mem_inTree_ordered, FoundFile.action?_eq_some_iff]
  constructor
  · rintro ⟨f, ⟨place, c, hfile, hvisible, rfl⟩, hcandidate, hactions, rfl⟩
    have hbelow : place ≠ [] := by
      rintro rfl
      exact not_hasFile_directory_nil es c hfile
    obtain ⟨hmanifest, hbackup⟩ :=
      (FoundFile.isCandidate_atPlace (named place c hfile) hbelow path c).mp hcandidate
    cases c with
    | bytes b => cases hactions
    | text text => exact ⟨place, ⟨⟨text, hfile, hactions⟩, hvisible, hmanifest, hbackup⟩, rfl⟩
  · rintro ⟨place, ⟨⟨text, hfile, hactions⟩, hvisible, hmanifest, hbackup⟩, rfl⟩
    have hbelow : place ≠ [] := by
      rintro rfl
      exact not_hasFile_directory_nil es _ hfile
    exact ⟨FoundFile.atPlace path 0 place (.text text), ⟨place, _, hfile, hvisible, rfl⟩,
      (FoundFile.isCandidate_atPlace (named place _ hfile) hbelow path _).mpr
        ⟨hmanifest, hbackup⟩, hactions, rfl⟩

/-- Where two trees have the same files but for one place, a walk finds the same files but for the path
of that place. -/
theorem filter_inTree_of_sameBut
    {t t' : FileTree}
    {place : Place}
    {c : Content}
    (named : t.Named)
    (hfile : t.HasFile place c)
    (same : SameBut place t t')
    (path : String) :
    t'.Named ∧
      (FoundFile.inTree path 0 t'.ordered).filter (fun f => f.path ≠ Path.below path place) =
        (FoundFile.inTree path 0 t.ordered).filter fun f => f.path ≠ Path.below path place := by
  have named' : t'.Named := by
    intro q b hq
    by_cases heq : q = place
    · exact heq ▸ named place c hfile
    · exact named q b ((same q heq b).mp hq)
  refine ⟨named', List.Pairwise.eq_of_mem_iff
    ((FoundFile.pairwise_inTree_ordered named' path 0).filter _)
    ((FoundFile.pairwise_inTree_ordered named path 0).filter _) fun f => ?_⟩
  simp only [List.mem_filter, FoundFile.mem_inTree_ordered, decide_eq_true_eq]
  refine and_congr_left fun hpath => exists_congr fun q => exists_congr fun b => ?_
  refine and_congr_left fun hf => ?_
  refine same q ?_ b
  rintro rfl
  exact hpath (congrArg FoundFile.path hf.2)

/-- Below a directory whose entries have names that entries may have, the search for action files
succeeds. It finds the action files of the tree under their paths, in the order of the paths and each
path once, in whatever order directories list their entries, and a file that is taken away or replaced
by another one changes the entry of its own path alone. -/
theorem exists_findActionFiles
    {d : Disk}
    {path : String}
    {es : List (String × FileTree)}
    (found : d.tree? path = .ok (.directory es))
    (named : (FileTree.directory es).Named) :
    ∃ files malformed,
      findActionFiles d path = .ok (files, malformed) ∧
      (∀ p a, (p, a) ∈ files ↔
        ∃ place, (FileTree.directory es).HasActionFile place a ∧ p = Path.below path place) ∧
      files.Pairwise (fun e f => Path.precedes e.1 f.1 = true) ∧
      (∀ d' t', d'.tree? path = .ok t' → Relisted (.directory es) t' →
        findActionFiles d' path = .ok (files, malformed)) ∧
      ∀ place c, (FileTree.directory es).HasFile place c →
        ∀ d' t', d'.tree? path = .ok t' →
          (t' = (FileTree.directory es).erase place ∨
            ∃ new traits, t' = (FileTree.directory es).put place (.file new traits)) →
          ∃ files' malformed',
            findActionFiles d' path = .ok (files', malformed') ∧
            files'.filter (fun e => e.1 ≠ Path.below path place) =
              files.filter fun e => e.1 ≠ Path.below path place := by
  refine ⟨_, _, findActionFiles_eq found rfl named, fun p a => mem_filterMap_action? named, ?_, ?_, ?_⟩
  · refine List.pairwise_filterMap.mpr ?_
    refine (FoundFile.pairwise_inTree_ordered named path 0).imp fun {f g} hlt e he e' he' => ?_
    obtain ⟨-, -, hpath⟩ := FoundFile.action?_eq_some_iff.mp he
    obtain ⟨-, -, hpath'⟩ := FoundFile.action?_eq_some_iff.mp he'
    rw [hpath, hpath']
    exact hlt
  · intro d' t' found' hrelisted
    have hsame : ∀ place c, t'.HasFile place c ↔ (FileTree.directory es).HasFile place c :=
      fun place c => (hrelisted.hasFile_iff place c).symm
    have hnamed' : t'.Named := fun place c hfile => named place c ((hsame place c).mp hfile)
    rw [findActionFiles_eq found' hrelisted.isDirectory_eq hnamed',
      FoundFile.inTree_ordered_congr named hsame]
  · intro place c hfile d' t' found' hchanged
    have hbelow : place ≠ [] := by
      rintro rfl
      exact not_hasFile_directory_nil es c hfile
    have hsame : t'.isDirectory = true ∧ SameBut place (.directory es) t' := by
      rcases hchanged with rfl | ⟨new, traits, rfl⟩
      · exact ⟨isDirectory_erase _ place, sameBut_erase hfile⟩
      · obtain ⟨parent, name, es', rfl, hparent⟩ := exists_directory_of_hasFile hfile hbelow
        obtain ⟨traits', htraits⟩ := hfile
        refine ⟨isDirectory_put _ hbelow _, sameBut_put hparent (fun es'' hes => ?_) fun q hq b => ?_⟩
        · rw [htraits] at hes
          cases hes
        · exact not_hasFile_of_ne_directory (fun es'' hes => by cases hes) hq b
    obtain ⟨named', hwalk⟩ := filter_inTree_of_sameBut named hfile hsame.2 path
    refine ⟨_, _, findActionFiles_eq found' hsame.1 named', ?_⟩
    rw [FoundFile.filter_filterMap_action?, FoundFile.filter_filterMap_action?, hwalk]

/-- Entries that are listed in no order: an action file, a manifest, and a directory with another action
file. -/
def unorderedEntries : List (String × FileTree) :=
  [("run.yaml", .file (.text "actions: []") .plain),
    ("command.yaml", .file (.text "actions: []") .plain),
    ("java", .directory [("run.yaml", .file (.text "actions: []") .plain)])]

/-- The files of a directory with entries in no order are found. -/
theorem exists_findActionFiles_unordered :
    let d : Disk := .directory [("acts", .directory unorderedEntries)]
    d.tree? "acts" = .ok (.directory unorderedEntries) ∧
      (FileTree.directory unorderedEntries).Named ∧
      ∃ files malformed,
        findActionFiles d "acts" = .ok (files, malformed) ∧
          ("acts/java/run.yaml", ⟨none, []⟩) ∈ files := by
  intro d
  have hparts : Text.splitOn '/' "acts".toList = ["acts".toList] := rfl
  have hacts : Disk.IsNamed "acts".toList := ⟨by decide, by decide, by decide, by decide⟩
  have hlocate : d.locate "acts" = .ok (.found ["acts"] (.directory unorderedEntries)) := by
    rw [Disk.locate, Disk.locateFrom_eq ⟨by decide, by decide⟩ (by decide), hparts,
      Disk.follow_down rfl hacts rfl rfl, Disk.follow_nil rfl]
    rfl
  have found : d.tree? "acts" = .ok (.directory unorderedEntries) := by
    rw [Disk.tree?, hlocate]
  have named : (FileTree.directory unorderedEntries).Named := by
    refine named_directory fun e he => ?_
    simp only [unorderedEntries, List.mem_cons, List.not_mem_nil, or_false] at he
    rcases he with rfl | rfl | rfl
    · exact ⟨by decide, named_file _ _⟩
    · exact ⟨by decide, named_file _ _⟩
    · refine ⟨by decide, named_directory fun e he => ?_⟩
      obtain rfl := List.mem_singleton.mp he
      exact ⟨by decide, named_file _ _⟩
  have haction : (FileTree.directory unorderedEntries).HasActionFile ["java", "run.yaml"] ⟨none, []⟩ :=
    { text := ⟨"actions: []", ⟨.plain, rfl⟩, by decide +kernel⟩
      visible := by
        unfold Place.IsVisible
        decide
      noManifest := by decide
      noBackup := by
        intro name hname
        cases hname
        decide +kernel }
  obtain ⟨files, malformed, hfound, hmem, -⟩ := exists_findActionFiles found named
  exact ⟨found, named, files, malformed, hfound, (hmem _ _).mpr ⟨_, haction, rfl⟩⟩

end Runbook
