import Runbook.Proofs.Run.Steps
import Runbook.Run.Pipeline

/-!
# Actions that refuse

Writing a file, changing a file and queueing entries check everything that they are asked for before
they do anything: when they refuse, nothing but the notes has changed. Writing the queue never
refuses, leaves the queue empty, and does the same whatever has been noted.

Main statement: `refuses_perform`.
-/

namespace Runbook
namespace Run

/-! ## What is rendered and read -/

section Parts

variable {γ : Type}
variable {part : World → γ}

theorem keeps_render (template : String) :
    Keeps part (render template) :=
  Keeps.get.bind fun _ => Keeps.lift _ _

theorem result_render
    {template text : String}
    {w : World}
    (h : Template.render w.context template = .ok text) :
    result (render template) w = (.ok text, w) := by
  rw [render, result_bind, result_get]
  dsimp only
  rw [h, result_lift_ok]

theorem keeps_render? (template : Option String) :
    Keeps part (render? template) := by
  cases template with
  | none => exact Keeps.pure _
  | some template => exact (keeps_render template).bind fun _ => Keeps.pure _

theorem keeps_resolve
    (s : Setting)
    (template : String) :
    Keeps part (resolve s template) :=
  (keeps_render template).bind fun _ => Keeps.lift _ _

theorem keeps_readText (path : String) :
    Keeps part (readText path) :=
  Keeps.get.bind fun _ => Keeps.lift _ _

theorem keeps_note (n : Note) :
    Keeps World.silent (note n) :=
  fun _ => rfl

theorem keeps_source
    (g : Generate)
    (s : Setting) :
    Keeps part (g.source s) := by
  unfold Generate.source
  split
  · exact Keeps.pure _
  · exact (keeps_render _).bind fun _ => keeps_readText _
  · exact Keeps.throw _

theorem keeps_anchor (i : Inject) :
    Keeps part i.anchor := by
  unfold Inject.anchor
  split
  · exact Keeps.throw _
  · exact (keeps_render _).bind fun _ => Keeps.pure _
  · exact (keeps_render _).bind fun _ => Keeps.pure _
  · exact Keeps.pure _

theorem keeps_contextModel? :
    Keeps World.silent contextModel? := by
  unfold contextModel?
  refine Keeps.get.bind fun w => ?_
  dsimp only
  split
  · exact (keeps_note _).bind fun _ => Keeps.get.bind fun _ => Keeps.pure _
  · exact Keeps.get.bind fun _ => Keeps.pure _

end Parts

/-- The model of the context is what the context has. -/
theorem exists_result_contextModel? (w : World) :
    ∃ w', result contextModel? w = (.ok (modelIn? w.context), w') ∧ w'.silent = w.silent := by
  have hmodel : (result contextModel? w).1 = .ok (modelIn? w.context) := by
    unfold contextModel?
    rw [result_bind, result_get]
    dsimp only
    split <;> rfl
  have hsilent := keeps_contextModel? w
  generalize result contextModel? w = r at hmodel hsilent ⊢
  obtain ⟨o, w'⟩ := r
  obtain rfl : o = _ := hmodel
  exact ⟨w', rfl, hsilent⟩

theorem hard_replaceFile (path text : String) :
    Hard (replaceFile path text) :=
  Hard.onDisk (fun _ => rfl) _

/-! ## Writing, changing and queueing -/

theorem refuses_generate
    (g : Generate)
    (s : Setting) :
    Refuses (g.run s) := by
  unfold Generate.run
  refine Refuses.bind (keeps_resolve s g.target) fun target => ?_
  refine Refuses.bind Keeps.get fun w => ?_
  split
  · exact Refuses.of_hard ((Hard.note _).bind fun _ => Hard.pure _)
  · refine Refuses.bind (keeps_source g s) fun template => ?_
    refine Refuses.bind (keeps_render template) fun content => ?_
    exact Refuses.of_hard
      ((hard_replaceFile target content).bind fun _ => (Hard.note _).bind fun _ => Hard.pure _)

theorem refuses_inject
    (i : Inject)
    (s : Setting) :
    Refuses (i.run s) := by
  have hskip (text : String) : Hard (do remark text; return Outcome.skipped : Run Outcome) :=
    (Hard.note _).bind fun _ => Hard.pure _
  have hput (target text : String) : Hard (do
      replaceFile target text
      announce "inject" (s.shown target)
      return Outcome.applied : Run Outcome) :=
    (hard_replaceFile target text).bind fun _ => (Hard.note _).bind fun _ => Hard.pure _
  unfold Inject.run
  refine Refuses.bind (keeps_resolve s i.target) fun target => ?_
  refine Refuses.bind Keeps.get fun w => ?_
  split
  · exact Refuses.of_hard (hskip _)
  · refine Refuses.bind (keeps_anchor i) fun anchor => ?_
    refine Refuses.bind (keeps_readText target) fun content => ?_
    refine Refuses.bind (keeps_render i.text) fun text => ?_
    refine Refuses.bind (keeps_render? i.skip) fun skip => ?_
    refine Refuses.of_hard ?_
    dsimp only
    split
    · split
      · exact hskip _
      · split
        · exact hskip _
        · split
          · exact hskip _
          · exact hput _ _
    · split
      · exact hskip _
      · split
        · exact hskip _
        · exact hput _ _

/-- Queueing never fails. -/
theorem hard_enqueueAll
    (kind : Pom.EntryKind)
    (model : Option Pom.Model)
    (entries : List Pom.Entry) :
    Hard (enqueueAll kind model entries) := by
  induction entries with
  | nil => exact Hard.pure _
  | cons e rest ih =>
      unfold enqueueAll
      refine Hard.get.bind fun w => ?_
      split
      · exact (Hard.note _).bind fun _ => ih
      · exact (Hard.change _).bind fun _ => ih.bind fun _ => Hard.pure _

/-- With a project model, entries are rendered, read and queued. -/
theorem result_enqueue
    {kind : Pom.EntryKind}
    {text : String}
    {s : Setting}
    {w : World}
    (h : w.disk.isFile s.pomPath = true) :
    result (enqueue kind text s) w =
      result (do
        let rendered ← render text
        let entries ← lift .entry (Pom.Entry.parseAll kind rendered.toList)
        let model ← contextModel?
        let queued ← enqueueAll kind model entries
        return if 0 < queued then .applied else .skipped) w := by
  unfold enqueue
  rw [result_bind, result_get]
  simp [h]

theorem refuses_enqueue
    (kind : Pom.EntryKind)
    (text : String)
    (s : Setting) :
    Refuses (enqueue kind text s) := by
  unfold enqueue
  refine Refuses.bind Keeps.get fun w => ?_
  split
  · exact Refuses.of_hard ((Hard.note _).bind fun _ => Hard.pure _)
  · refine Refuses.bind (keeps_render text) fun rendered => ?_
    refine Refuses.bind (Keeps.lift _ _) fun entries => ?_
    refine Refuses.bind keeps_contextModel? fun model => ?_
    exact Refuses.of_hard ((hard_enqueueAll kind model entries).bind fun _ => Hard.pure _)

/-- Whether an action writes a file, changes one or queues an entry. -/
def editsFiles : Action → Bool
  | .generate _ => true
  | .inject _ => true
  | .entry _ _ => true
  | .exec _ => false
  | .vars _ => false

/-- Such an action has done nothing when it refuses. -/
theorem refuses_perform
    {a : Action}
    (ha : editsFiles a = true)
    (s : Setting) :
    Refuses (a.perform s) := by
  cases a with
  | generate g => exact refuses_generate g s
  | inject i => exact refuses_inject i s
  | entry kind text => exact refuses_enqueue kind text s
  | exec x => cases ha
  | vars v => cases ha

/-! ## Writing the queue -/

theorem hard_writeEntries
    (s : Setting)
    (entries : List Pom.Entry) :
    Hard (writeEntries s entries) := by
  unfold writeEntries
  refine Hard.bind (Hard.get.bind fun _ => Hard.lift (fun _ => rfl) _) fun before => ?_
  refine Hard.get.bind fun w => ?_
  refine (Hard.lift (fun _ => rfl) _).bind fun patched => ?_
  split
  · exact Hard.pure _
  · refine (hard_replaceFile _ _).bind fun _ => (Hard.note _).bind fun _ => ?_
    dsimp only
    split
    · exact (Hard.change _).bind fun _ => Hard.pure _
    · exact Hard.pure _

theorem hard_flush (s : Setting) :
    Hard (flush s) := by
  unfold flush takeQueue
  refine Hard.bind (Hard.get.bind fun _ => (Hard.change _).bind fun _ => Hard.pure _)
    fun entries => ?_
  split
  · exact Hard.pure _
  · exact (hard_writeEntries s entries).bind fun _ => Hard.pure _

theorem keeps_queue_writeEntries
    (s : Setting)
    (entries : List Pom.Entry) :
    Keeps World.queue (writeEntries s entries) := by
  have hnote (n : Note) : Keeps World.queue (note n) := fun _ => rfl
  have hvalue (key : String) (value : Json) : Keeps World.queue (setValue key value) :=
    fun _ => rfl
  have hreplace (path text : String) : Keeps World.queue (replaceFile path text) :=
    Keeps.get.bind fun _ => Keeps.bind (fun _ => rfl) fun _ => Keeps.lift _ _
  unfold writeEntries
  refine (keeps_readText _).bind fun before => ?_
  refine Keeps.get.bind fun w => ?_
  refine (Keeps.lift _ _).bind fun patched => ?_
  split
  · exact Keeps.pure _
  · refine (hreplace _ _).bind fun _ => (hnote _).bind fun _ => ?_
    dsimp only
    split
    · exact (hvalue _ _).bind fun _ => Keeps.pure _
    · exact Keeps.pure _

theorem blind_readText (path : String) :
    Blind (readText path) :=
  Blind.get_bind (fun w w' h => by rw [(World.silent_eq_iff.mp h).1]) fun _ => Blind.lift _ _

theorem blind_onDisk
    {ε α : Type}
    (wrap : ε → RunError)
    (edit : Disk → Disk × Except ε α) :
    Blind (onDisk wrap edit) := by
  refine Blind.get_bind (fun w w' h => by rw [(World.silent_eq_iff.mp h).1]) fun w => ?_
  refine Blind.bind (Blind.change fun v v' h => ?_) fun _ => Blind.lift _ _
  obtain ⟨-, hjobs, hcontext, hqueue, hprompter⟩ := World.silent_eq_iff.mp h
  exact World.silent_eq_iff.mpr ⟨rfl, hjobs, hcontext, hqueue, hprompter⟩

theorem blind_setValue
    (key : String)
    (value : Json) :
    Blind (setValue key value) := by
  refine Blind.change fun w w' h => ?_
  obtain ⟨hdisk, hjobs, hcontext, hqueue, hprompter⟩ := World.silent_eq_iff.mp h
  exact World.silent_eq_iff.mpr ⟨hdisk, hjobs, by rw [hcontext], hqueue, hprompter⟩

theorem blind_writeEntries
    (s : Setting)
    (entries : List Pom.Entry) :
    Blind (writeEntries s entries) := by
  unfold writeEntries
  refine (blind_readText _).bind fun before => ?_
  refine Blind.get_bind (fun w w' h => by rw [(World.silent_eq_iff.mp h).1]) fun w => ?_
  refine (Blind.lift _ _).bind fun patched => ?_
  split
  · exact Blind.pure _
  · refine (blind_onDisk _ _).bind fun _ => (Blind.note _).bind fun _ => ?_
    dsimp only
    split
    · exact (blind_setValue _ _).bind fun _ => Blind.pure _
    · exact Blind.pure _

/-- Writing the queue takes it, and writes its entries if there are any. -/
theorem result_flush
    (s : Setting)
    (w : World) :
    result (flush s) w =
      if w.queue.isEmpty then (.ok 0, { w with queue := [] })
      else result (do return if ← writeEntries s w.queue then 1 else 0)
        { w with queue := [] } := by
  unfold flush takeQueue
  rw [result_bind]
  show result (if w.queue.isEmpty then _ else _) { w with queue := [] } = _
  split <;> rfl

theorem queue_flush
    (s : Setting)
    (w : World) :
    (result (flush s) w).2.queue = [] := by
  rw [result_flush]
  split
  · rfl
  · exact (keeps_queue_writeEntries s w.queue).bind (fun _ => Keeps.pure _) _

theorem blind_flush (s : Setting) :
    Blind (flush s) := by
  intro w w' h
  obtain ⟨hdisk, hjobs, hcontext, hqueue, hprompter⟩ := World.silent_eq_iff.mp h
  have htaken : World.silent { w with queue := [] } = World.silent { w' with queue := [] } :=
    World.silent_eq_iff.mpr ⟨hdisk, hjobs, hcontext, rfl, hprompter⟩
  rw [result_flush, result_flush, hqueue]
  split
  · exact ⟨rfl, htaken⟩
  · exact (blind_writeEntries s w'.queue).bind (fun _ => Blind.pure _) _ _ htaken

/-- An empty queue is written without a change. -/
theorem result_flush_of_queue_nil
    {w : World}
    (h : w.queue = [])
    (s : Setting) :
    result (flush s) w = (.ok 0, w) := by
  obtain ⟨disk, jobs, context, queue, prompter, notes⟩ := w
  obtain rfl : queue = [] := h
  rfl

theorem silent_flush_of_queue_nil
    {w : World}
    (h : w.queue = [])
    (s : Setting) :
    (result (flush s) w).2.silent = w.silent := by
  rw [result_flush_of_queue_nil h]

end Run
end Runbook
