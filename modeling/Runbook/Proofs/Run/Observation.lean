import Runbook.Proofs.Pom.Acceptance
import Runbook.Proofs.Role.Store
import Runbook.Proofs.Run.Batching
import Runbook.Proofs.Run.Composition
import Runbook.Proofs.Run.Keeping
import Runbook.Proofs.Run.Moves

/-!
# What a run sees of the project model

The project model stands in three places: in its file, in the context, and in the entries that are
queued. Wherever a run looks at it, at a gate, at an action that does not queue an entry and at the
end, nothing is queued and the context has the model of the file, as long as the file is written by
nothing but the queue.

Main statement: `runAll_tracks`.
-/

namespace Runbook

namespace Pom

open Text Markup

/-- A text without a model, or one that is read as a project document. -/
def Sound (doc : List Char) : Prop :=
  Model.parse? doc = none ∨ ∃ d : ProjectDocument, Veiled doc d.write

/-- A document of XML is sound, if the first `>` of no opening tag stands behind a slash and that of no
empty tag behind two. -/
theorem sound_of_xml
    {d : Xml.Document}
    (hname : d.rootName = "project".toList)
    (hempty : ∀ t ∈ d.openingTags, ¬ t.EndsEmpty)
    (hdouble : ∀ t ∈ d.emptyTags, ¬ t.EndsDoubled) :
    Sound d.write := by
  have hread : isName d.rootName = true := by
    rw [hname]
    decide
  by_cases hopen : ∀ t ∈ d.emptyTags, ¬ t.EndsOpen
  · obtain ⟨tree, hveil, hroot⟩ := d.exists_veiled hread hempty hdouble hopen
    rw [hname, String.ofList_toList] at hroot
    exact Or.inr ⟨⟨tree, hroot⟩, hveil⟩
  · have hsome : ∃ t ∈ d.emptyTags, t.EndsOpen := by
      simpa only [not_forall, not_not, exists_prop] using hopen
    exact Or.inl (eq_none_of_root? (d.root?_eq_none hread hempty hdouble hsome)).1

/-- Elements that are merged into a sound text leave a sound text with a model. -/
theorem exists_model_of_merge
    {doc out : List Char}
    {es : List Entry}
    (h : Sound doc)
    (hes : ∀ e ∈ es, e.IsElement)
    (hmerge : merge doc es = some out) :
    Sound out ∧ ∃ m, Model.parse? out = some m := by
  obtain ⟨project, hproject, hall⟩ := Option.bind_eq_some_iff.mp hmerge
  have hmodel : Model.parse? doc ≠ none := by simp [Model.parse?, hproject]
  obtain ⟨d, hveil⟩ := h.resolve_left hmodel
  obtain ⟨next, d', hnext, hout, -⟩ :=
    exists_mergeAll_of_veiled (isBlank_detect doc project) es hveil hes
  obtain rfl : next = out := Option.some.inj (hnext.symm.trans hall)
  exact ⟨Or.inr ⟨d', hout⟩, Option.isSome_iff_exists.mp (isSome_of_veiled hout).1⟩

end Pom

namespace Run

/-- The file of the project model can be read and is sound, the context has its model, and what is
queued are elements. -/
structure Tracks (s : Setting) (w : World) : Prop where
  model : ∃ text, w.disk.readText s.pomPath = .ok text ∧ Pom.Sound text.toList ∧
    modelIn? w.context = Pom.Model.parse? text.toList
  queued : ∀ e ∈ w.queue, e.IsElement

/-- Writing the queue keeps the context at the model of the file. -/
theorem Tracks.flush
    {s : Setting}
    {w left : World}
    {n : Nat}
    (h : Tracks s w)
    (hflush : result (flush s) w = (.ok n, left)) :
    Tracks s left ∧ left.queue = [] := by
  have hempty : left.queue = [] := by
    have hnil := queue_flush s w
    rwa [hflush] at hnil
  obtain ⟨text, hread, hsound, hmodel⟩ := h.model
  refine ⟨⟨?_, by simp [hempty]⟩, hempty⟩
  cases hmerge : Pom.merge text.toList w.queue with
  | none =>
      have hunmerged := flush_of_unmerged (s := s) (w := w) fun other hother => by
        rw [hread] at hother
        cases hother
        exact hmerge
      rw [hflush] at hunmerged
      exact ⟨text, by rw [hunmerged.1, hread], hsound, by rw [hunmerged.2, hmodel]⟩
  | some merged =>
      have hafter := readText_flush hread hmerge
      rw [hflush] at hafter
      by_cases hsame : merged = text.toList
      · subst hsame
        have hkept := (flush_of_merged_eq hread hmerge).2
        rw [hflush] at hkept
        rw [String.ofList_toList] at hafter
        exact ⟨text, hafter, hsound, by rw [hkept, hmodel]⟩
      · obtain ⟨hsound', m, hm⟩ := Pom.exists_model_of_merge hsound h.queued hmerge
        obtain ⟨place, hreplace, -⟩ := exists_pom_place hread
        have hqueue : w.queue ≠ [] := by
          intro hnil
          rw [hnil] at hmerge
          exact hsame (eq_of_merge_nil hmerge)
        have hnew := (flush_of_merged_ne hread hmerge hsame hqueue (hreplace _)).2
        rw [hflush] at hnew
        refine ⟨String.ofList merged, hafter, by rwa [String.toList_ofList], ?_⟩
        rw [hnew, String.toList_ofList, hm, modelIn?_modelled hm]

/-- The notes do not matter. -/
theorem Tracks.of_silent
    {s : Setting}
    {w w' : World}
    (h : Tracks s w)
    (hsame : w'.silent = w.silent) :
    Tracks s w' := by
  obtain ⟨hdisk, -, hcontext, hqueue, -⟩ := World.silent_eq_iff.mp hsame
  exact ⟨by rw [hdisk, hcontext]; exact h.model, by rw [hqueue]; exact h.queued⟩

/-! ## What moves leave -/

/-- What a run knows of the project model apart from its file. -/
def outlook (w : World) : Option Pom.Model × List Pom.Entry :=
  (modelIn? w.context, w.queue)

/-- A value of another name does not matter. -/
theorem keeps_outlook_setValue
    {key : String}
    (h : key ≠ modelKey)
    (value : Json) :
    Keeps outlook (setValue key value) := by
  intro w
  have hother : Dict.get? (Dict.insert w.context key value) modelKey =
      Dict.get? w.context modelKey :=
    Dict.get?_insert_of_ne _ _ (Ne.symm h)
  show (modelIn? (Dict.insert w.context key value), w.queue) = (modelIn? w.context, w.queue)
  rw [modelIn?, hother, ← modelIn?]

/-- An action that leaves the file of the project model as it is, and sets no value of its name, leaves
what is known of it. -/
theorem Tracks.perform
    {s s' : Setting}
    {w left : World}
    {a : Action}
    {outcome : Outcome}
    (h : Tracks s w)
    (ha : a.isQueued = false)
    (hkeys : modelKey ∉ a.keys)
    (hfile : left.disk.readText s.pomPath = w.disk.readText s.pomPath)
    (hrun : result (a.perform s') w = (.ok outcome, left)) :
    Tracks s left := by
  have hinner : Inner outlook := fun _ _ _ _ _ => rfl
  have hkept := keeps_perform hinner ha
    (fun key hkey => keeps_outlook_setValue fun heq => hkeys (heq ▸ hkey)) s' w
  rw [hrun] at hkept
  obtain ⟨hmodel, hqueue⟩ := Prod.mk.inj hkept
  exact ⟨by rw [hfile, hmodel]; exact h.model, by rw [hqueue]; exact h.queued⟩

/-- Queueing elements leaves what is known of the project model. -/
theorem Tracks.enqueue
    {s s' : Setting}
    {w left : World}
    {kind : Pom.EntryKind}
    {text : String}
    {outcome : Outcome}
    (h : Tracks s w)
    (hentries : ∀ rendered entries, Template.render w.context text = .ok rendered →
      Pom.Entry.parseAll kind rendered.toList = .ok entries → ∀ e ∈ entries, e.IsElement)
    (hrun : result (enqueue kind text s') w = (.ok outcome, left)) :
    Tracks s left := by
  have hkeeps : Keeps (fun w : World => (w.disk, w.context)) (Runbook.enqueue kind text s') :=
    keeps_enqueue (fun _ _ _ => rfl) kind text s'
  have hkept := hkeeps w
  have hmem := @mem_queue_enqueue kind text s' w
  rw [hrun] at hkept hmem
  obtain ⟨hdisk, hcontext⟩ := Prod.mk.inj hkept
  refine ⟨by rw [hdisk, hcontext]; exact h.model, fun e he => ?_⟩
  rcases hmem he with hqueued | ⟨rendered, entries, -, hrender, hparse, hentry, -⟩
  · exact h.queued e hqueued
  · exact hentries rendered entries hrender hparse e hentry

/-! ## Runs -/

/-- Nothing is queued, and the context has the model of the file of the project model. -/
def Current (s : Setting) (w : World) : Prop :=
  w.queue = [] ∧ ∃ text, w.disk.readText s.pomPath = .ok text ∧
    modelIn? w.context = Pom.Model.parse? text.toList

/-- A run of files leaves the project model to the queue. What it queues are elements, no values are
asked for under the name of the model, and an action that does not queue entries leaves the file of
the project model as it is. -/
structure LeavesModel
    (s : Setting)
    (w : World)
    (files : List (String × ActionFile)) :
    Prop where
  elements : ∀ path kind template before,
    Reached s w files (.call path (.entry kind template)) before →
    ∀ rendered entries, Template.render before.context template = .ok rendered →
      Pom.Entry.parseAll kind rendered.toList = .ok entries → ∀ e ∈ entries, e.IsElement
  names : ∀ path f v, (path, f) ∈ files → Action.vars v ∈ f.actions → modelKey ∉ v.keys
  file : ∀ path a before, Reached s w files (.call path a) before → a.isQueued = false →
    ∀ n seen outcome left, result (flush s) before = (.ok n, seen) →
      result (a.perform (s.forFile path)) seen = (.ok outcome, left) →
      left.disk.readText s.pomPath = seen.disk.readText s.pomPath

namespace LeavesModel

variable {s : Setting}
variable {w : World}
variable {files : List (String × ActionFile)}

/-- A call that goes well leaves the project model tracked. -/
theorem tracks_of_call
    (h : LeavesModel s w files)
    {path : String}
    {a : Action}
    {before next : World}
    {outcome : Outcome}
    (hreached : Reached s w files (.call path a) before)
    (hbefore : Tracks s before)
    (hcall : result (a.runOrSettle (s.forFile path)) before = (.ok outcome, next)) :
    Tracks s next := by
  rcases exists_seen_of_call hcall with ⟨hqueued, hrun⟩ | ⟨ha, n, seen, hflush, hrun⟩
  · cases a with
    | entry kind template =>
        exact hbefore.enqueue (h.elements path kind template before hreached) hrun
    | generate g => cases hqueued
    | inject i => cases hqueued
    | exec x => cases hqueued
    | vars v => cases hqueued
  · rw [flush_forFile] at hflush
    have hkeys : modelKey ∉ a.keys := by
      obtain ⟨f, hf, haf⟩ := exists_of_call_mem hreached.mem
      cases a with
      | vars v => exact h.names path f v hf haf
      | exec x => simp [Action.keys, Exec.keys, modelKey]
      | generate g => exact List.not_mem_nil
      | inject i => exact List.not_mem_nil
      | entry kind template => exact List.not_mem_nil
    exact (hbefore.flush hflush).1.perform ha hkeys
      (h.file path a before hreached ha n seen outcome _ hflush hrun) hrun

/-- Wherever a run comes to, the project model is tracked. The induction is on the moves before. -/
theorem tracks_of_reached
    (h : LeavesModel s w files)
    (hstart : Tracks s { w with queue := [] })
    {m : Move}
    {reached : World}
    (hm : Reached s w files m reached) :
    Tracks s reached := by
  obtain ⟨front, back, hparts, hfront⟩ := hm
  refine holds_of_runMoves hstart (fun done m' later before next hsplit hdone hbefore hm => ?_)
    hfront
  have hreached : Reached s w files m' before :=
    ⟨done, later ++ m :: back, by rw [hparts, hsplit]; simp, hdone⟩
  cases m' with
  | gate path template =>
      obtain ⟨n, seen, hflush, hsame⟩ := exists_seen_of_gate hm
      exact (hbefore.flush hflush).1.of_silent hsame
  | idle path =>
      cases hm
      exact hbefore.of_silent rfl
  | ending =>
      obtain ⟨n, hflush⟩ := exists_of_ignored hm
      exact (hbefore.flush hflush).1
  | call path a =>
      obtain ⟨outcome, hcall⟩ := exists_of_ignored hm
      exact h.tracks_of_call hreached hbefore hcall

end LeavesModel

/-- A run starts with a sound project model and the model of it in the context, and leaves the project
model to the queue. Then at every gate, at every call of an action that does not queue entries and at
the end nothing is queued and the context has the model of the file. So a gate lets a file in exactly
when the project model, as it stands in its file, depends on the artifact. -/
theorem runAll_tracks
    {s : Setting}
    {w : World}
    {files : List (String × ActionFile)}
    {text : String}
    (hread : w.disk.readText s.pomPath = .ok text)
    (hsound : Pom.Sound text.toList)
    (hmodel : modelIn? w.context = Pom.Model.parse? text.toList)
    (hleaves : LeavesModel s w files) :
    (∀ path template before, Reached s w files (.gate path template) before →
      ∀ n seen, result (flush s) before = (.ok n, seen) →
        Current s seen ∧
          ((result (checkArtifact s (s.shown path) (some template)) before).1 = .ok () ↔
            ∃ artifact now m, Template.render seen.context template = .ok artifact ∧
              seen.disk.readText s.pomPath = .ok now ∧
              Pom.Model.parse? now.toList = some m ∧ m.hasDependency artifact = true)) ∧
    (∀ path a before, Reached s w files (.call path a) before → a.isQueued = false →
      ∀ n seen, result (flush s) before = (.ok n, seen) →
        Current s seen ∧
          result (a.run (s.forFile path)) before = result (a.perform (s.forFile path)) seen) ∧
    ∀ r left, result (runAll s files) w = (.ok r, left) → Current s left := by
  have hstart : Tracks s { w with queue := [] } := ⟨⟨text, hread, hsound, hmodel⟩, by simp⟩
  have hcurrent : ∀ {m : Move} {before seen : World} {n : Nat}, Reached s w files m before →
      result (flush s) before = (.ok n, seen) → Current s seen := by
    intro m before seen n hreached hflush
    have hbefore := hleaves.tracks_of_reached hstart hreached
    obtain ⟨⟨⟨text', hread', -, hmodel'⟩, -⟩, hqueue⟩ := hbefore.flush hflush
    exact ⟨hqueue, text', hread', hmodel'⟩
  refine ⟨fun path template before hreached n seen hflush => ?_,
    fun path a before hreached ha n seen hflush => ?_, fun r left hrun => ?_⟩
  · have hseen := hcurrent hreached hflush
    refine ⟨hseen, (result_gate hflush _ _).2.trans ?_⟩
    obtain ⟨-, text', hread', hmodel'⟩ := hseen
    constructor
    · rintro ⟨artifact, m, hrender, hm, hdep⟩
      exact ⟨artifact, text', m, hrender, hread', hmodel' ▸ hm, hdep⟩
    · rintro ⟨artifact, other, m, hrender, hother, hm, hdep⟩
      rw [hread'] at hother
      cases hother
      exact ⟨artifact, m, hrender, hmodel'.trans hm, hdep⟩
  · have hflush' : result (flush (s.forFile path)) before = (.ok n, seen) := by
      rw [flush_forFile, hflush]
    exact ⟨hcurrent hreached hflush, result_run_of_flush ha hflush'⟩
  · obtain ⟨before, n, hreached, hflush⟩ := exists_reached_ending hrun
    exact hcurrent hreached hflush

/-- A file for projects with the artifact `a`, which asks for no values. -/
def quietFile : ActionFile where
  artifact := some "a"
  actions := [.vars ⟨[], [], none⟩]

/-- A project with an arrow in a value, and its model in the context. -/
def arrowWorld : World :=
  { projectWorld (String.ofList Pom.arrowOpened.write) with
    context := modelled [] Pom.arrowOpened.write }

theorem leavesModel_small :
    LeavesModel smallSetting arrowWorld
      [("deps.yaml", queueingFile), ("quiet.yaml", quietFile)] := by
  have hmoves : Move.ofFiles [("deps.yaml", queueingFile), ("quiet.yaml", quietFile)] =
      [.call "deps.yaml" (.entry .dependency "g:a:1.0"), .gate "quiet.yaml" "a",
        .call "quiet.yaml" (.vars ⟨[], [], none⟩), .ending] := rfl
  refine ⟨fun path kind template before hreached rendered entries hrender hparse e he => ?_,
    fun path f v hf hv => ?_, fun path a before hreached ha n seen outcome left _ hrun => ?_⟩
  · have hmem := hreached.mem
    rw [hmoves] at hmem
    obtain ⟨-, rfl, rfl⟩ : path = "deps.yaml" ∧ kind = .dependency ∧ template = "g:a:1.0" := by
      simpa using hmem
    have hliteral : Template.render before.context "g:a:1.0" = .ok "g:a:1.0" := rfl
    rw [hliteral] at hrender
    cases hrender
    rw [Pom.parseAll_smallEntry] at hparse
    cases hparse
    rw [List.mem_singleton.mp he]
    exact Pom.proper_smallEntry.written.isElement
  · have hnone : v = ⟨[], [], none⟩ := by
      simp only [List.mem_cons, Prod.mk.injEq, List.not_mem_nil, or_false] at hf
      rcases hf with ⟨-, rfl⟩ | ⟨-, rfl⟩
      · simp [queueingFile] at hv
      · simpa [quietFile] using hv
    rw [hnone]
    exact List.not_mem_nil
  · have hmem := hreached.mem
    rw [hmoves] at hmem
    obtain rfl : a = .vars ⟨[], [], none⟩ := by
      simp only [List.mem_cons, Move.call.injEq, List.not_mem_nil, or_false, reduceCtorEq,
        false_or] at hmem
      rcases hmem with ⟨-, rfl⟩ | ⟨-, rfl⟩
      · cases ha
      · rfl
    cases hrun
    rfl

/-- The entry is written before the gate looks, which lets the file in. -/
theorem runAll_tracks_small :
    arrowWorld.disk.readText smallSetting.pomPath = .ok (String.ofList Pom.arrowOpened.write) ∧
      Pom.Sound (String.ofList Pom.arrowOpened.write).toList ∧
      modelIn? arrowWorld.context =
        Pom.Model.parse? (String.ofList Pom.arrowOpened.write).toList ∧
      LeavesModel smallSetting arrowWorld
        [("deps.yaml", queueingFile), ("quiet.yaml", quietFile)] ∧
      (∀ before n seen, Reached smallSetting arrowWorld
          [("deps.yaml", queueingFile), ("quiet.yaml", quietFile)] (.gate "quiet.yaml" "a") before →
        result (flush smallSetting) before = (.ok n, seen) → Current smallSetting seen) ∧
      ∀ r left, result (runAll smallSetting
        [("deps.yaml", queueingFile), ("quiet.yaml", quietFile)]) arrowWorld = (.ok r, left) →
        Current smallSetting left := by
  have hread : arrowWorld.disk.readText smallSetting.pomPath =
      .ok (String.ofList Pom.arrowOpened.write) :=
    readText_projectWorld _
  have hsound : Pom.Sound (String.ofList Pom.arrowOpened.write).toList := by
    rw [String.toList_ofList]
    exact Pom.sound_of_xml rfl Pom.not_endsEmpty_arrowOpened (by simp [Pom.emptyTags_arrowOpened])
  have hmodel : modelIn? arrowWorld.context =
      Pom.Model.parse? (String.ofList Pom.arrowOpened.write).toList := by
    obtain ⟨m, hm⟩ := Option.isSome_iff_exists.mp
      (show (Pom.Model.parse? Pom.arrowOpened.write).isSome = true by decide +kernel)
    rw [String.toList_ofList, hm]
    simp only [arrowWorld]
    exact modelIn?_modelled hm
  obtain ⟨hgate, -, hend⟩ := runAll_tracks hread hsound hmodel leavesModel_small
  exact ⟨hread, hsound, hmodel, leavesModel_small,
    fun before n seen hreached hflush => (hgate _ _ before hreached n seen hflush).1, hend⟩

/-! ## Variables in the project model -/

theorem isName_dependencies :
    Markup.isName "dependencies".toList = true := by
  decide

theorem isName_dependency :
    Markup.isName "dependency".toList = true := by
  decide

/-- A project that depends on an artifact with two blanks in its name. -/
def spacedProject : Pom.ProjectDocument where
  before := []
  root :=
    .element (.ofString "project" Pom.isName_project) .none
      [.element (.ofString "dependencies" isName_dependencies) .none
        [.element (.ofString "dependency" isName_dependency) .none
          [.element Pom.artifactName .none
            [.piece (.text "a:  b".toList (by decide))] .none] .none] .none] .none
  after := []
  before_plain := Markup.elements_nil
  root_element := rfl
  after_plain := Markup.elements_nil
  named := rfl

/-- The text of the project. It is a dictionary of variables as well, with one of them. -/
def spacedText : String :=
  "<project><dependencies><dependency><artifactId>a:  b</artifactId></dependency>" ++
    "</dependencies></project>"

theorem write_spacedProject :
    spacedText.toList = spacedProject.write := by
  rfl

/-- The text of the project after another variable has been kept in it. -/
def respacedText : String :=
  "<project><dependencies><dependency><artifactId>a: b</artifactId></dependency>" ++
    "</dependencies></project>\nk: v\n"

theorem printDict_respaced :
    (Yaml.parseDict? spacedText).map (fun vars => Yaml.printDict (Dict.insert vars "k" "v")) =
      some respacedText := by
  decide +kernel

/-- A disk on which the file of the default role is a link to the project model. -/
def linkedDisk (text : String) : Disk :=
  .directory
    [("pom.xml", .file (.text text) .plain),
      ("roles", .directory [("vars.yaml", .link "../pom.xml")])]

theorem isNamed_vars :
    Disk.IsNamed "vars.yaml".toList :=
  Disk.isNamed_of_short (by decide) (by decide)

section Linked

variable (text : String)

theorem get?_linkedDisk :
    (linkedDisk text).get? [] = some (linkedDisk text) := by
  rfl

theorem locate_pom_linkedDisk :
    (linkedDisk text).locate smallSetting.pomPath =
      .ok (.found ["pom.xml"] (.file (.text text) .plain)) := by
  have hparts : Text.splitOn '/' smallSetting.pomPath.toList = ["pom.xml".toList] := rfl
  rw [Disk.locate, Disk.locateFrom_eq ⟨by decide, by decide⟩ (by decide), hparts,
    Disk.follow_down (get?_linkedDisk text) isNamed_pom rfl rfl, Disk.follow_nil rfl]
  rfl

theorem locate_vars_linkedDisk :
    (linkedDisk text).locate "roles/vars.yaml" =
      .ok (.found ["pom.xml"] (.file (.text text) .plain)) := by
  have hparts : Text.splitOn '/' "roles/vars.yaml".toList =
      ["roles".toList, "vars.yaml".toList] := rfl
  have htarget : Text.splitOn '/' "../pom.xml".toList ++ [] = [['.', '.'], "pom.xml".toList] := rfl
  have hlinks : Disk.maxLinks = 39 + 1 := rfl
  rw [Disk.locate, Disk.locateFrom_eq ⟨by decide, by decide⟩ (by decide), hparts, hlinks,
    Disk.follow_down (get?_linkedDisk text) RoleStore.isNamed_roles rfl rfl,
    Disk.follow_link rfl isNamed_vars rfl (Or.inl rfl), htarget, Disk.follow_up rfl,
    Disk.follow_down rfl isNamed_pom rfl rfl, Disk.follow_nil rfl]
  rfl

theorem readText_pom_linkedDisk :
    (linkedDisk text).readText smallSetting.pomPath = .ok text := by
  unfold Disk.readText Disk.read Disk.tree?
  rw [locate_pom_linkedDisk]

theorem provideDirectory_linkedDisk :
    (linkedDisk text).provideDirectory "roles" = (linkedDisk text, .ok ()) := by
  have hinto : (linkedDisk text).LeadsInto "roles" ["roles"] :=
    ⟨Disk.maxLinks, .down (get?_linkedDisk text) RoleStore.isNamed_roles (.done rfl)⟩
  obtain ⟨left, hwalk⟩ := hinto
  exact Disk.provideDirectory_of_enters ⟨by decide, by decide⟩ hwalk

theorem overwrite_linkedDisk (new : String) :
    (linkedDisk text).overwrite "roles/vars.yaml" (.text new) = (linkedDisk new, .ok ()) := by
  have hslash : Disk.isSlashed "roles/vars.yaml" = false := by decide
  unfold Disk.overwrite
  rw [hslash, if_neg Bool.false_ne_true, locate_vars_linkedDisk]
  rfl

/-- A variable that is kept in the role is kept in the project model. -/
theorem update_linkedDisk :
    smallSetting.store.update (linkedDisk spacedText) "" "k" "v" =
      (linkedDisk respacedText, .ok ()) := by
  have hfile : smallSetting.store.file "" = .ok "roles/vars.yaml" := rfl
  have hdirectory : smallSetting.store.directory = "roles" := rfl
  have hread : (linkedDisk spacedText).readText "roles/vars.yaml" = .ok spacedText := by
    unfold Disk.readText Disk.read Disk.tree?
    rw [locate_vars_linkedDisk]
  have hexists : (linkedDisk spacedText).exists? "roles/vars.yaml" = true := by
    unfold Disk.exists? Disk.tree?
    rw [locate_vars_linkedDisk]
  obtain ⟨vars, hparse, hprint⟩ := Option.map_eq_some_iff.mp printDict_respaced
  unfold RoleStore.update RoleStore.readFile RoleStore.writeFile
  simp only [hfile, hexists, if_true, hread, hparse, hdirectory, provideDirectory_linkedDisk, hprint,
    overwrite_linkedDisk]

end Linked

/-- A file that keeps a variable, and a file for projects with the artifact. -/
def keepingFile : ActionFile where
  artifact := none
  actions := [.vars ⟨[], [("k", "v")], none⟩]

def spacedFile : ActionFile where
  artifact := some "a:  b"
  actions := []

/-- The linked disk, with the model of the project in the context. -/
def linkedWorld : World where
  disk := linkedDisk spacedText
  jobs := .none
  context := modelled [] spacedText.toList
  queue := []
  prompter := .refusing
  notes := []

/-- What keeping one value leaves. -/
theorem result_keepOne
    {s : Setting}
    {w : World}
    {d : Disk}
    {key template value : String}
    (hrender : Template.render w.context template = .ok value)
    (hupdate : s.store.update w.disk "" key value = (d, .ok ())) :
    ∃ notes, result ((Action.vars ⟨[], [(key, template)], none⟩).perform s) w =
      (.ok .applied,
        { w with
          disk := d
          context := Dict.insert w.context key (.string value)
          notes := notes }) := by
  simp only [Action.perform, Vars.run, Vars.checkQuestions, Vars.answerAll, Vars.keepAll, Vars.keep,
    render?, render, onDisk, setValue, pure_bind]
  simp [result_bind, hrender, hupdate, announce, say, Except.map]

/-- Keeping the variable leaves the project model respaced, and the context with the variable. -/
theorem exists_left_keepingFile :
    ∃ notes, result (runMoves smallSetting (Move.ofFile "vars.yaml" keepingFile)) linkedWorld =
      (.ok (),
        { linkedWorld with
          disk := linkedDisk respacedText
          context := Dict.insert linkedWorld.context "k" (.string "v")
          notes := notes }) := by
  have hrender : Template.render linkedWorld.context "v" = .ok "v" := rfl
  obtain ⟨notes, hperform⟩ := result_keepOne (s := smallSetting.forFile "vars.yaml") hrender
    update_linkedDisk
  have hmoves : Move.ofFile "vars.yaml" keepingFile =
      [.call "vars.yaml" (.vars ⟨[], [("k", "v")], none⟩)] := rfl
  refine ⟨notes, ?_⟩
  rw [hmoves, runMoves_singleton]
  exact result_call_of_queue_nil rfl rfl hperform

/-- Keeping a variable may write the project model: then a gate behind it lets a file in by the model of
the context, although the project model, as it stands in its file, does not depend on the artifact. -/
theorem exists_outdated_gate :
    linkedWorld.disk.readText smallSetting.pomPath = .ok spacedText ∧
      spacedText.toList = spacedProject.write ∧
      modelIn? linkedWorld.context = Pom.Model.parse? spacedText.toList ∧
      ∃ before, Reached smallSetting linkedWorld
          [("vars.yaml", keepingFile), ("gated.yaml", spacedFile)]
          (.gate "gated.yaml" "a:  b") before ∧
        (result (checkArtifact smallSetting "gated.yaml" (some "a:  b")) before).1 = .ok () ∧
        ∃ n seen now m, result (flush smallSetting) before = (.ok n, seen) ∧
          seen.disk.readText smallSetting.pomPath = .ok now ∧
          Pom.Model.parse? now.toList = some m ∧ m.hasDependency "a:  b" = false := by
  obtain ⟨m, hm, hdep⟩ := (Option.any_eq_true (fun m => m.hasDependency "a:  b")
    (Pom.Model.parse? spacedText.toList)).mp (by decide +kernel)
  have hcontext : modelIn? linkedWorld.context = some m := by
    simp only [linkedWorld]
    exact modelIn?_modelled hm
  refine ⟨readText_pom_linkedDisk spacedText, write_spacedProject, hcontext.trans hm.symm, ?_⟩
  obtain ⟨notes, hkept⟩ := exists_left_keepingFile
  have hstart : ({ linkedWorld with queue := [] } : World) = linkedWorld := by
    simp only [linkedWorld]
  generalize hbefore : ({ linkedWorld with
    disk := linkedDisk respacedText
    context := Dict.insert linkedWorld.context "k" (.string "v")
    notes := notes } : World) = before at hkept
  have hqueue : before.queue = [] := by
    rw [← hbefore]
    rfl
  have hflush : result (flush smallSetting) before = (.ok 0, before) :=
    result_flush_of_queue_nil hqueue smallSetting
  have hother : modelKey ≠ "k" := by decide
  have hknown : modelIn? before.context = some m := by
    rw [← hcontext, ← hbefore]
    simp only [modelIn?, Dict.get?_insert_of_ne linkedWorld.context (Json.string "v") hother]
  have hread : before.disk.readText smallSetting.pomPath = .ok respacedText := by
    rw [← hbefore]
    exact readText_pom_linkedDisk respacedText
  obtain ⟨m', hm', hdep'⟩ := (Option.any_eq_true (fun m => !m.hasDependency "a:  b")
    (Pom.Model.parse? respacedText.toList)).mp (by decide +kernel)
  refine ⟨before, ⟨Move.ofFile "vars.yaml" keepingFile, [.idle "gated.yaml", .ending], rfl, ?_⟩,
    ?_, 0, before, respacedText, m', hflush, hread, hm', by simpa using hdep'⟩
  · rw [hstart, hkept]
  · exact (result_gate hflush _ _).2.mpr ⟨"a:  b", m, rfl, hknown, hdep⟩

end Run
end Runbook
