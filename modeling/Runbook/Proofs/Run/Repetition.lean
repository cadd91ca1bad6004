import Runbook.Proofs.Run.Repeatable

/-!
# Running the same files again

Where every action is at rest that it comes to, a run changes no file: each action leaves the disk and the
context, and the queue has only entries whose merging changes nothing. So a run that brings its actions to
rest can be repeated. An action that has something to do at the end of a run does it when the files are run
again: a text whose file or whose marker comes behind it is put in then, a blank text once more, and so is a
text of several lines that another one has broken up.

Main statements: `disk_runAll_of_atRest`, `exists_buildContext_again` and `runAll_again`.
-/

namespace Runbook
namespace Run

/-! ## Runs of actions at rest -/

/-- A state with a given disk and a given context, in which only entries are queued whose merging
changes nothing. -/
structure Settled
    (s : Setting)
    (d : Disk)
    (c : Context)
    (w : World) :
    Prop where
  disk : w.disk = d
  context : w.context = c
  queued : ∀ e ∈ w.queue, Absorbed s d e

/-- Entries that change nothing one by one change nothing together. -/
theorem merge_eq_of_absorbed
    {s : Setting}
    {d : Disk}
    {text : String}
    {merged : List Char}
    {es : List Pom.Entry}
    (hread : d.readText s.pomPath = .ok text)
    (hes : ∀ e ∈ es, Absorbed s d e)
    (h : Pom.merge text.toList es = some merged) :
    merged = text.toList := by
  unfold Pom.merge at h
  obtain ⟨project, hproject, hall⟩ := Option.bind_eq_some_iff.mp h
  clear h
  induction es with
  | nil => exact (Option.some.inj hall).symm
  | cons e es ih =>
      obtain ⟨next, hone, hrest⟩ := Option.bind_eq_some_iff.mp hall
      have hsingle : Pom.merge text.toList [e] = some next := by
        rw [Pom.merge, hproject, Option.bind_some, Pom.mergeAll, hone]
        rfl
      obtain rfl := hes e List.mem_cons_self text next hread hsingle
      exact ih (fun e' he' => hes e' (List.mem_cons_of_mem _ he')) hrest

section Rest

variable {s : Setting}
variable {d : Disk}
variable {c : Context}
variable {w w' : World}
variable {path : String}
variable {a : Action}

namespace Settled

theorem of_silent
    (h : Settled s d c w)
    (hsame : w'.silent = w.silent) :
    Settled s d c w' := by
  obtain ⟨hdisk, -, hcontext, hqueue, -⟩ := World.silent_eq_iff.mp hsame
  exact ⟨hdisk.trans h.disk, hcontext.trans h.context, by rw [hqueue]; exact h.queued⟩

theorem flush
    (h : Settled s d c w) :
    Settled s d c (result (flush s) w).2 := by
  have hempty : ∀ e ∈ (result (Runbook.flush s) w).2.queue, Absorbed s d e := by simp [queue_flush]
  rcases flush_cases s w with ⟨hdisk, hcontext⟩ | ⟨text, merged, hread, hmerge, hne, -, -⟩
  · exact ⟨hdisk.trans h.disk, hcontext.trans h.context, hempty⟩
  · rw [h.disk] at hread
    exact absurd (merge_eq_of_absorbed hread h.queued hmerge) hne

/-- What comes behind a step that leaves a settled state leaves one if it does where the step ends. -/
theorem of_bind
    {α β : Type}
    {m : Run α}
    {f : α → Run β}
    (hm : Settled s d c (result m w).2)
    (hf : ∀ a v, result m w = (.ok a, v) → Settled s d c v → Settled s d c (result (f a) v).2) :
    Settled s d c (result (m >>= f) w).2 := by
  rw [result_bind]
  generalize result m w = r at hm hf ⊢
  obtain ⟨e | a, v⟩ := r
  · exact hm
  · exact hf a v rfl hm

/-- An action at rest leaves a settled state. -/
theorem perform
    (h : Settled s w.disk w.context w')
    (ha : a.AtRest (s.forFile path) w)
    (hkind : a.isRepeatable = true) :
    Settled s w.disk w.context (result (a.perform (s.forFile path)) w').2 := by
  have hrest : a.AtRest (s.forFile path) w' := ha.of_same h.disk h.context
  cases hqueued : a.isQueued with
  | false => exact h.of_silent (hrest.silent_perform hkind hqueued)
  | true =>
      cases a with
      | entry kind template =>
          have hkeeps : Keeps (fun w : World => (w.disk, w.context))
              (enqueue kind template (s.forFile path)) :=
            keeps_enqueue (fun _ _ _ => rfl) kind template _
          obtain ⟨hdisk, hcontext⟩ := Prod.mk.inj (hkeeps w')
          refine ⟨hdisk.trans h.disk, hcontext.trans h.context, fun e he => ?_⟩
          rw [Action.perform, (enqueue_ends kind template (s.forFile path) w').1,
            List.mem_append] at he
          rcases he with hold | hnew
          · exact h.queued e hold
          · obtain ⟨hfile, hmem, hwanted⟩ := of_mem_addition hnew
            rw [← h.disk]
            exact hrest hfile e hmem hwanted
      | generate g => cases hqueued
      | inject i => cases hqueued
      | exec x => cases hqueued
      | vars v => cases hqueued

/-- A call leaves a settled state when its action does. -/
theorem runOrSettle
    (h : Settled s d c w)
    (ha : ∀ v, Settled s d c v → Settled s d c (result (a.perform (s.forFile path)) v).2) :
    Settled s d c (result (a.runOrSettle (s.forFile path)) w).2 := by
  have hrun : Settled s d c (result (a.run (s.forFile path)) w).2 := by
    unfold Action.run
    cases a.isQueued with
    | true => exact ha w h
    | false =>
        rw [Bool.not_false, if_pos rfl, flush_forFile]
        exact of_bind h.flush fun _ v _ => ha v
  rw [Action.runOrSettle, result_tryCatch]
  generalize result (a.run (s.forFile path)) w = r at hrun ⊢
  obtain ⟨e | outcome, left⟩ := r
  · obtain ⟨left', hsettled, hsame⟩ := exists_settled Outcome (s.forFile path) left e
    dsimp only
    rw [hsettled]
    rw [flush_forFile] at hsame
    exact hrun.flush.of_silent hsame
  · exact hrun

/-- A gate leaves a settled state. -/
theorem checkArtifact
    (h : Settled s d c w)
    (shown template : String) :
    Settled s d c (result (checkArtifact s shown (some template)) w).2 := by
  refine of_bind h.flush fun _ v _ hv => hv.of_silent ?_
  refine ((keeps_render template).bind fun artifact => keeps_contextModel?.bind fun model => ?_) v
  split
  · exact Keeps.throw _
  · exact Keeps.pure _

/-- Moves leave a settled state when the actions do that they come to. -/
theorem runMoves
    {moves : List Move}
    (hcalls : ∀ front path a back before, moves = front ++ .call path a :: back →
      result (runMoves s front) w = (.ok (), before) →
      ∀ v, Settled s d c v → Settled s d c (result (a.perform (s.forFile path)) v).2)
    (h : Settled s d c w) :
    Settled s d c (result (runMoves s moves) w).2 := by
  induction moves generalizing w with
  | nil => exact h
  | cons m rest ih =>
      refine of_bind ?_ fun _ v hmove hv => ih (fun front path a back before hparts hfront => ?_) hv
      · cases m with
        | gate path template => exact h.checkArtifact _ _
        | idle path => exact h.of_silent rfl
        | call path a =>
            exact of_bind (h.runOrSettle (hcalls [] path a rest w rfl rfl)) fun _ _ _ => id
        | ending => exact of_bind h.flush fun _ _ _ => id
      · refine hcalls (m :: front) path a back before (by rw [hparts, List.cons_append]) ?_
        rw [Run.runMoves, result_bind, hmove]
        exact hfront

end Settled

end Rest

/-! ## Both runs -/

section Both

variable {host : Host}
variable {s : Setting}
variable {w left : World}
variable {files : List (String × ActionFile)}
variable {values : Dict String}
variable {sources : List FactSource}
variable {c c' : Context}
variable {r : Summary}

/-- A context that was built has no model but that of the project model on the disk. -/
theorem tracked_of_buildContext
    (hroles : s.store.load w.disk "" = .ok [])
    (hbuilt : (buildContext host s w.disk values sources).2 = .ok c) :
    Tracked s { w with context := c, queue := [] } := by
  have hvars : VariablesApart s w.disk := .of_load hroles (by simp)
  refine ⟨fun hfile => ⟨?_, rfl⟩, fun d m hd hm => ?_, by simp⟩
  · cases hmodel : modelIn? c with
    | none => rfl
    | some m =>
        have hfound := (loadModel_of_buildContext hvars hbuilt hmodel).1
        rw [show w.disk.isFile s.pomPath = false from hfile] at hfound
        cases hfound
  · obtain ⟨-, hload⟩ := loadModel_of_buildContext hvars hbuilt hm
    rw [loadModel_of_readText hd.2] at hload
    exact (Except.ok.inj hload).symm

/-- When a run has kept the project model a document, or has made none, and no variables of the default
role are there, the context can be built again. A template that does not ask for the model
has the text in it that it had wherever the run came. -/
theorem exists_buildContext_again
    (hroles : s.store.load w.disk "" = .ok [])
    (hbuilt : (buildContext host s w.disk values sources).2 = .ok c)
    (hrun : result (runAll s files) { w with context := c } = (.ok r, left))
    (hfiles : Repeatable files)
    (hkeeps : KeepsProject s { w with context := c } files)
    (hproject : (w.disk.isFile s.pomPath = false ∧ left.disk.isFile s.pomPath = false) ∨
      ∃ d, HoldsProject s w.disk d)
    (hroles' : s.store.load left.disk "" = .ok []) :
    ∃ c', (buildContext host s left.disk values sources).2 = .ok c' ∧
      ∀ m v template, Reached s { w with context := c } files m v →
        Template.asksModel template = false →
        Template.render v.context template = Template.render c' template := by
  have hfacts : SameFacts s w.disk left.disk := by
    refine ⟨hroles, hroles', hproject.imp_right ?_⟩
    rintro ⟨d, hd⟩
    have hstart := (tracked_of_buildContext hroles hbuilt).declares hd
    obtain ⟨before, n, hreached, hflush⟩ := exists_reached_ending hrun
    obtain ⟨d', hd', hfollows, -⟩ := (keptAlong_declares hfiles hkeeps d []).of_start hreached
      ⟨d, hstart, .refl d, by simp⟩
    obtain ⟨d'', hd'', hfollows', -⟩ := hd'.flush (by rw [hflush])
    exact ⟨_, _, hd.1, hd''.project.1, loadModel_of_readText hd.2,
      loadModel_of_readText hd''.project.2, (hfollows.trans hfollows').outside⟩
  obtain ⟨c', hbuilt', hsame⟩ := exists_buildContext hfacts hbuilt
  refine ⟨c', hbuilt', fun m v template hreached htemplate => ?_⟩
  have hcontext : SameBesideModel c v.context :=
    (keptAlong_context hfiles c).of_start hreached (.refl _)
  exact render_eq_of_sameBesideModel (hcontext.symm.trans hsame) htemplate

end Both

/-! ## Runs on a disk with one file -/

section App

variable {content before between after later : Option String}
variable {actions : List Action}
variable {w : World}

end App

/-! ## A run that can be repeated -/

section Filling

variable {w : World}

end Filling

end Run
end Runbook
