import Runbook.Proofs.Command.Registration
import Runbook.Proofs.Run.Keeping
import Runbook.Proofs.Run.Writing

/-!
# What stands in the queue

Of all entries that have been asked for since the queue was last written, the queue has those that the
model of the context does not declare, the first of each kind and key, in the order in which they were
asked for. A text that is refused adds none of its entries, and a queue that cannot be written leaves
the files and the context.

Main statement: `queue_after_steps`.
-/

namespace Runbook

section Order

variable {α κ : Type} [DecidableEq κ]

/-- Keys that are taken may be named in any order. -/
theorem firstsBeside_congr
    {key : α → κ}
    {taken taken' : List κ}
    (h : ∀ k, k ∈ taken ↔ k ∈ taken')
    (l : List α) :
    firstsBeside key taken l = firstsBeside key taken' l :=
  List.filter_congr fun b _ => by rw [decide_eq_decide, h]

variable [DecidableEq α]

/-- In front of a list, what is not in it moves the places of all others alike. -/
theorem pairwise_idxOf_cons
    {x : α}
    {l m : List α}
    (hne : ∀ a ∈ m, x ≠ a)
    (h : m.Pairwise fun a b => l.idxOf a < l.idxOf b) :
    m.Pairwise fun a b => (x :: l).idxOf a < (x :: l).idxOf b := by
  refine h.imp_of_mem fun {a b} ha hb hless => ?_
  rw [List.idxOf_cons_ne l (hne a ha), List.idxOf_cons_ne l (hne b hb)]
  exact Nat.succ_lt_succ hless

/-- The first ones of each key among some members stand in the order in which the list has them for the
first time. -/
theorem pairwise_idxOf_firsts_filter
    (key : α → κ)
    (p : α → Bool)
    (l : List α) :
    (firsts key (l.filter p)).Pairwise fun a b => l.idxOf a < l.idxOf b := by
  induction l with
  | nil => exact List.Pairwise.nil
  | cons x rest ih =>
      by_cases hx : p x = true
      · rw [List.filter_cons_of_pos hx, firsts, List.pairwise_cons]
        have hne : ∀ a ∈ (firsts key (rest.filter p)).filter (fun b => key b ≠ key x), x ≠ a := by
          rintro a ha rfl
          simp at ha
        refine ⟨fun a ha => ?_, pairwise_idxOf_cons hne (ih.sublist List.filter_sublist)⟩
        rw [List.idxOf_cons_self, List.idxOf_cons_ne rest (hne a ha)]
        exact Nat.succ_pos _
      · rw [List.filter_cons_of_neg hx]
        refine pairwise_idxOf_cons ?_ ih
        rintro a ha rfl
        exact hx (List.mem_filter.mp ((firsts_sublist key _).subset ha)).2

end Order

namespace Run

/-! ## Asking for entries -/

/-- What tells entries apart in the queue. -/
def identity (e : Pom.Entry) : Pom.EntryKind × String :=
  (e.kind, e.key)

/-- Whether the model of a context does not declare an entry. -/
def isWanted
    (c : Context)
    (e : Pom.Entry) :
    Bool :=
  !(modelIn? c).any e.isDeclaredIn

/-- The entries that a template asks for. One that is refused asks for none. -/
def entriesOf
    (kind : Pom.EntryKind)
    (text : String)
    (c : Context) :
    List Pom.Entry :=
  match Template.render c text with
  | .error _ => []
  | .ok rendered =>
      match Pom.Entry.parseAll kind rendered.toList with
      | .error _ => []
      | .ok entries => entries

/-- What asking for entries adds to the queue. -/
def addition
    (kind : Pom.EntryKind)
    (text : String)
    (s : Setting)
    (w : World) :
    List Pom.Entry :=
  if w.disk.isFile s.pomPath then
    firstsBeside identity (w.queue.map identity)
      ((entriesOf kind text w.context).filter (isWanted w.context))
  else []

theorem isQueued_iff
    {queue : List Pom.Entry}
    {e : Pom.Entry} :
    isQueued queue e = true ↔ identity e ∈ queue.map identity := by
  simp [isQueued, identity]

/-- Queueing adds the first entries of each identity that are neither declared nor queued, and tells
how many there are. -/
theorem exists_result_enqueueAll
    (kind : Pom.EntryKind)
    (model : Option Pom.Model)
    (entries : List Pom.Entry) :
    ∀ w : World, ∃ w',
      result (enqueueAll kind model entries) w =
        (.ok (firstsBeside identity (w.queue.map identity)
          (entries.filter fun e => !model.any e.isDeclaredIn)).length, w') ∧
      w'.queue = w.queue ++ firstsBeside identity (w.queue.map identity)
        (entries.filter fun e => !model.any e.isDeclaredIn) := by
  induction entries with
  | nil => exact fun w => ⟨w, rfl, (List.append_nil _).symm⟩
  | cons e rest ih =>
      intro w
      unfold enqueueAll
      rw [result_bind, result_get]
      dsimp only
      by_cases hdeclared : model.any e.isDeclaredIn = true
      · rw [if_pos (by rw [hdeclared, Bool.true_or]),
          List.filter_cons_of_neg (by simp [hdeclared])]
        obtain ⟨w', hresult, hqueue⟩ := ih { w with notes := _ :: w.notes }
        exact ⟨w', by rw [result_bind]; exact hresult, hqueue⟩
      · rw [List.filter_cons_of_pos (by simp [hdeclared]), firstsBeside_cons]
        by_cases hqueued : isQueued w.queue e = true
        · rw [if_pos (by rw [hqueued, Bool.or_true]), if_pos (isQueued_iff.mp hqueued)]
          obtain ⟨w', hresult, hqueue⟩ := ih { w with notes := _ :: w.notes }
          exact ⟨w', by rw [result_bind]; exact hresult, hqueue⟩
        · rw [if_neg (by simp [hdeclared, hqueued]), if_neg (mt isQueued_iff.mpr hqueued)]
          obtain ⟨w', hresult, hqueue⟩ := ih { w with queue := w.queue ++ [e] }
          have hkeys : ∀ k, k ∈ (w.queue ++ [e]).map identity ↔
              k ∈ identity e :: w.queue.map identity := fun k => by simp [or_comm]
          rw [firstsBeside_congr hkeys] at hresult hqueue
          refine ⟨w', ?_, ?_⟩
          · rw [result_bind, result_modify]
            dsimp only
            rw [result_bind, hresult]
            rfl
          · rw [hqueue, List.append_assoc, List.singleton_append]

/-- Without a project model, entries are passed over. -/
theorem exists_result_enqueue_of_no_model
    {s : Setting}
    {w : World}
    (kind : Pom.EntryKind)
    (text : String)
    (h : w.disk.isFile s.pomPath = false) :
    ∃ notes, result (enqueue kind text s) w = (.ok .skipped, { w with notes := notes }) := by
  unfold enqueue
  rw [result_bind, result_get]
  dsimp only
  rw [h]
  exact ⟨_, rfl⟩

/-- How asking for entries ends: a text that is refused adds none, and the outcome tells whether any
was added. -/
theorem enqueue_ends
    (kind : Pom.EntryKind)
    (text : String)
    (s : Setting)
    (w : World) :
    (result (enqueue kind text s) w).2.queue = w.queue ++ addition kind text s w ∧
      (∀ e, (result (enqueue kind text s) w).1 = .error e → addition kind text s w = []) ∧
      ∀ outcome, (result (enqueue kind text s) w).1 = .ok outcome →
        (outcome = .applied ↔ addition kind text s w ≠ []) := by
  unfold addition
  cases hfile : w.disk.isFile s.pomPath with
  | false =>
      obtain ⟨notes, hskipped⟩ := exists_result_enqueue_of_no_model kind text hfile
      simp [hskipped, eq_comm]
  | true =>
      rw [result_enqueue hfile, result_bind, if_pos rfl]
      unfold entriesOf
      cases hrender : Template.render w.context text with
      | error e =>
          have hrefused : result (render text) w = (.error (.template e), w) := by
            simp [render, result_bind, hrender]
          simp [hrefused, firstsBeside, firsts]
      | ok rendered =>
          rw [result_render hrender]
          dsimp only
          rw [result_bind]
          cases hparse : Pom.Entry.parseAll kind rendered.toList with
          | error e => simp [firstsBeside, firsts]
          | ok entries =>
              rw [result_lift_ok]
              dsimp only
              obtain ⟨w₁, hmodel, hsilent⟩ := exists_result_contextModel? w
              have hsame : w₁.queue = w.queue := (World.silent_eq_iff.mp hsilent).2.2.2.1
              obtain ⟨w₂, hall, hqueue⟩ :=
                exists_result_enqueueAll kind (modelIn? w.context) entries w₁
              rw [hsame] at hall hqueue
              rw [result_bind, hmodel]
              dsimp only
              rw [result_bind, hall]
              refine ⟨hqueue, fun e h => (by cases h), fun outcome h => ?_⟩
              have houtcome : outcome = if 0 < (firstsBeside identity (w.queue.map identity)
                  (entries.filter (isWanted w.context))).length then .applied else .skipped :=
                (Except.ok.inj h).symm
              rw [houtcome, ← List.length_pos_iff]
              split <;> simp_all

/-! ## Writing the queue -/

/-- A queue that cannot be written leaves the files and the context. -/
theorem eq_of_flush_error
    {s : Setting}
    {w : World}
    {e : RunError}
    (h : (result (flush s) w).1 = .error e) :
    (result (flush s) w).2.disk = w.disk ∧ (result (flush s) w).2.context = w.context := by
  cases hread : w.disk.readText s.pomPath with
  | error _ => exact flush_of_unmerged fun text htext => by simp [hread] at htext
  | ok text =>
      cases hmerge : Pom.merge text.toList w.queue with
      | none =>
          refine flush_of_unmerged fun text' htext => ?_
          cases hread.symm.trans htext
          exact hmerge
      | some merged =>
          by_cases hsame : merged = text.toList
          · exact flush_of_merged_eq hread (hsame ▸ hmerge)
          · -- The file was read, so it can be replaced, and nothing else fails.
            obtain ⟨place, hreplace, -⟩ := exists_pom_place hread
            have hdiffers : String.ofList merged ≠ text := by
              rintro rfl
              exact hsame String.toList_ofList.symm
            exfalso
            revert h
            rw [result_flush]
            unfold writeEntries readText patchedText replaceFile onDisk announce say setValue
            split
            · simp
            · cases hparse : Pom.Model.parse? merged with
              | none =>
                  simp [result_bind, hread, hmerge, hdiffers, hreplace, hparse, Except.map]
              | some model =>
                  simp [result_bind, hread, hmerge, hdiffers, hreplace, hparse, Except.map]

/-! ## One step after another -/

/-- What is done to the queue: a template asks for entries, or what is queued is written. -/
inductive QueueStep where
  | ask (kind : Pom.EntryKind) (text : String)
  | write

/-- A state, and the entries that have been asked for since the queue was last written. -/
structure Queueing where
  world : World
  asked : List Pom.Entry

namespace Queueing

/-- A state without a queue, and nothing has been asked for. -/
def start (w : World) : Queueing :=
  ⟨{ w with queue := [] }, []⟩

/-- Takes a step. -/
def take
    (s : Setting)
    (q : Queueing) :
    QueueStep → Queueing
  | .ask kind text =>
      ⟨(result (enqueue kind text s) q.world).2, q.asked ++ entriesOf kind text q.world.context⟩
  | .write => ⟨(result (flush s) q.world).2, []⟩

/-- Takes steps one after another, from a state without a queue. -/
def after
    (s : Setting)
    (w : World)
    (steps : List QueueStep) :
    Queueing :=
  steps.foldl (take s) (start w)

/-- The queue has the first of each identity among the entries that are asked for and not declared, if
there is a project model. -/
def IsSettled
    (s : Setting)
    (q : Queueing) :
    Prop :=
  q.world.queue =
    if q.world.disk.isFile s.pomPath then
      firsts identity (q.asked.filter (isWanted q.world.context))
    else []

theorem IsSettled.take
    {s : Setting}
    {q : Queueing}
    (h : q.IsSettled s)
    (step : QueueStep) :
    (q.take s step).IsSettled s := by
  cases step with
  | ask kind text =>
      have hkeeps : Keeps (fun w : World => (w.disk, w.context)) (enqueue kind text s) :=
        keeps_enqueue (fun _ _ _ => rfl) kind text s
      obtain ⟨hdisk, hcontext⟩ := Prod.mk.inj (hkeeps q.world)
      unfold IsSettled at h ⊢
      simp only [Queueing.take, hdisk, hcontext, (enqueue_ends kind text s q.world).1, addition]
      cases hfile : q.world.disk.isFile s.pomPath with
      | false => simpa [hfile] using h
      | true =>
          rw [hfile, if_pos rfl] at h
          rw [if_pos rfl, if_pos rfl, h, List.filter_append, ← firstsBeside_nil, ← firstsBeside_nil,
            firstsBeside_append, List.append_nil]
  | write =>
      have hempty : (result (flush s) q.world).2.queue = [] := queue_flush s q.world
      unfold IsSettled
      simp [Queueing.take, hempty, firsts]

theorem isSettled_after
    (s : Setting)
    (w : World)
    (steps : List QueueStep) :
    (after s w steps).IsSettled s := by
  have hstart : (start w).IsSettled s := by simp [IsSettled, start, firsts]
  unfold after
  generalize start w = q at hstart ⊢
  induction steps generalizing q with
  | nil => exact hstart
  | cons step rest ih => exact ih _ (hstart.take step)

section Settled

variable {s : Setting}
variable {q : Queueing}

theorem IsSettled.nodup_identities
    (h : q.IsSettled s) :
    (q.world.queue.map identity).Nodup := by
  rw [h]
  split
  · exact nodup_map_firsts _ _
  · exact List.nodup_nil

theorem IsSettled.sublist_asked
    (h : q.IsSettled s) :
    q.world.queue.Sublist q.asked := by
  rw [h]
  split
  · exact (firsts_sublist _ _).trans List.filter_sublist
  · exact List.nil_sublist _

/-- Queued entries stand in the order in which they were first asked for. -/
theorem IsSettled.pairwise_idxOf
    (h : q.IsSettled s) :
    q.world.queue.Pairwise fun e f => q.asked.idxOf e < q.asked.idxOf f := by
  rw [h]
  split
  · exact pairwise_idxOf_firsts_filter _ _ _
  · exact List.Pairwise.nil

/-- With a project model, nothing that was asked for is missing. -/
theorem IsSettled.declared_or_queued
    (h : q.IsSettled s)
    (hfile : q.world.disk.isFile s.pomPath = true)
    {e : Pom.Entry}
    (he : e ∈ q.asked) :
    (modelIn? q.world.context).any e.isDeclaredIn = true ∨ isQueued q.world.queue e = true := by
  unfold IsSettled at h
  rw [hfile, if_pos rfl] at h
  by_cases hdeclared : (modelIn? q.world.context).any e.isDeclaredIn = true
  · exact .inl hdeclared
  · right
    have hwanted : e ∈ q.asked.filter (isWanted q.world.context) :=
      List.mem_filter.mpr ⟨he, by simp [isWanted, hdeclared]⟩
    obtain ⟨f, hf, hsame⟩ := exists_mem_firsts identity hwanted
    rw [isQueued_iff, h, ← hsame]
    exact List.mem_map_of_mem hf

end Settled

end Queueing

/-- Whatever has been asked for and written, from a state without a queue: no two queued entries have
the same kind and key; they stand in the order in which they were first asked for, and are all of the
entries that were asked for since the queue was last written and that are not declared, up to those of
the same kind and key. An action that asks for entries and fails leaves the queue, and one that does
not fail has been applied exactly when the queue is longer than it was. A queue that cannot be written
leaves the files and the context. -/
theorem queue_after_steps
    (s : Setting)
    (w : World)
    (steps : List QueueStep) :
    let q := Queueing.after s w steps
    (q.world.queue.map identity).Nodup ∧
      q.world.queue.Sublist q.asked ∧
      (q.world.queue.Pairwise fun e f => q.asked.idxOf e < q.asked.idxOf f) ∧
      (q.world.disk.isFile s.pomPath = true → ∀ e ∈ q.asked,
        (modelIn? q.world.context).any e.isDeclaredIn = true ∨ isQueued q.world.queue e = true) ∧
      (∀ kind text,
        (∀ e, (result (enqueue kind text s) q.world).1 = .error e →
          (result (enqueue kind text s) q.world).2.queue = q.world.queue) ∧
        ∀ outcome, (result (enqueue kind text s) q.world).1 = .ok outcome →
          (outcome = .applied ↔
            q.world.queue.length < (result (enqueue kind text s) q.world).2.queue.length)) ∧
      ∀ e, (result (flush s) q.world).1 = .error e →
        (result (flush s) q.world).2.disk = q.world.disk ∧
          (result (flush s) q.world).2.context = q.world.context := by
  intro q
  have hqueue : q.IsSettled s := Queueing.isSettled_after s w steps
  refine ⟨hqueue.nodup_identities, hqueue.sublist_asked, hqueue.pairwise_idxOf,
    fun hfile e he => hqueue.declared_or_queued hfile he, fun kind text => ?_,
    fun e => eq_of_flush_error⟩
  obtain ⟨hends, herror, hok⟩ := enqueue_ends kind text s q.world
  refine ⟨fun e h => ?_, fun outcome h => ?_⟩
  · rw [hends, herror e h, List.append_nil]
  · rw [hok outcome h, hends, List.length_append, ← List.length_pos_iff]
    omega

end Run
end Runbook
