import Runbook.Proofs.Run.Notes
import Runbook.Proofs.Run.Truncation

/-!
# Runs one after another

A run of files is a run of the first of them, which leaves the queue as it is, and then a run of the
others. Two runs differ from it only in that the queue is written between them. That makes no difference
when the second run begins with a look at the project model, which writes the queue anyway: both end in
the same way, leave the same state, and count the same.

Main statement: `runAll_append`.
-/

namespace Runbook

/-! ## Sums of what was done -/

namespace Summary

/-- What two runs did. -/
def add (a b : Summary) : Summary :=
  ⟨a.files + b.files, a.executed + b.executed, a.skipped + b.skipped⟩

@[simp] theorem add_zero (a : Summary) :
    a.add .zero = a := by
  rfl

theorem add_count
    (a b : Summary)
    (outcome : Outcome) :
    (a.add b).count outcome = a.add (b.count outcome) := by
  cases outcome <;> rfl

end Summary

namespace Run

/-- What was counted before is added to what a run counts. -/
theorem runActions_add
    (s : Setting)
    (a b : Summary)
    (actions : List Action) :
    runActions s (a.add b) actions = a.add <$> runActions s b actions := by
  induction actions generalizing b with
  | nil => rfl
  | cons action rest ih =>
      rw [runActions, runActions, map_bind]
      refine bind_congr fun outcome => ?_
      rw [Summary.add_count]
      exact ih _

theorem runFile_add
    (s : Setting)
    (a b : Summary)
    (path : String)
    (f : ActionFile) :
    runFile s (a.add b) path f = a.add <$> runFile s b path f := by
  unfold runFile
  dsimp only
  rw [map_bind]
  refine bind_congr fun _ => ?_
  split
  · rw [map_bind]
    rfl
  · exact runActions_add _ a { b with files := b.files + 1 } f.actions

theorem runFiles_add
    (s : Setting)
    (a b : Summary)
    (files : List (String × ActionFile)) :
    runFiles s (a.add b) files = a.add <$> runFiles s b files := by
  induction files generalizing b with
  | nil => rw [runFiles, runFiles, map_bind]; rfl
  | cons file rest ih =>
      rw [runFiles, runFiles, runFile_add, bind_map_left, map_bind]
      exact bind_congr fun next => ih next

/-! ## The files of a run in two parts -/

/-- Action files in the order given. The queue is left as it is. -/
def passFiles
    (s : Setting) :
    Summary → List (String × ActionFile) → Run Summary
  | r, [] => pure r
  | r, (path, f) :: rest => do
      let next ← runFile s r path f
      passFiles s next rest

/-- A run passes its files and writes the queue. -/
theorem runFiles_eq
    (s : Setting)
    (r : Summary)
    (files : List (String × ActionFile)) :
    runFiles s r files =
      (do
        let next ← passFiles s r files
        let _ ← flush s
        return next) := by
  induction files generalizing r with
  | nil => rw [runFiles, passFiles, pure_bind]
  | cons file rest ih =>
      rw [runFiles, passFiles, bind_assoc]
      exact bind_congr fun next => ih next

theorem runFiles_append
    (s : Setting)
    (r : Summary)
    (front back : List (String × ActionFile)) :
    runFiles s r (front ++ back) =
      (do
        let next ← passFiles s r front
        runFiles s next back) := by
  induction front generalizing r with
  | nil => rw [List.nil_append, passFiles, pure_bind]
  | cons file rest ih =>
      rw [List.cons_append, runFiles, passFiles, bind_assoc]
      exact bind_congr fun next => ih next

/-! ## Writing the queue twice -/

section Written

variable {α : Type}

/-- Behind a queue that is written, what writes the queue first can be left out. -/
theorem result_flush_bind
    {s : Setting}
    {m m' : Run α}
    (h : ∀ w : World, w.queue = [] → result m w = result m' w)
    (w : World) :
    result (flush s >>= fun _ => m) w = result (flush s >>= fun _ => m') w := by
  have hempty := queue_flush s w
  rw [result_bind, result_bind]
  generalize result (flush s) w = r at hempty ⊢
  obtain ⟨e | n, w'⟩ := r
  · rfl
  · exact h w' hempty

theorem result_flush_flush
    (s : Setting)
    (m : Run α)
    (w : World) :
    result (flush s >>= fun _ => flush s >>= fun _ => m) w = result (flush s >>= fun _ => m) w := by
  refine result_flush_bind (fun w' hempty => ?_) w
  rw [result_bind, result_flush_of_queue_nil hempty]

/-- An action that finds the queue written does what it does when the queue is written before. -/
theorem result_flush_runOrSettle
    {s : Setting}
    {a : Action}
    (ha : a.isQueued = false)
    (w : World) :
    result (flush s >>= fun _ => a.runOrSettle s) w = result (a.runOrSettle s) w := by
  have hrun : a.run s = flush s >>= fun _ => a.perform s := by
    unfold Action.run
    simp [ha]
  have hempty := queue_flush s w
  rw [Action.runOrSettle, result_tryCatch, hrun, result_bind, result_bind]
  generalize result (flush s) w = r at hempty ⊢
  obtain ⟨e | n, w'⟩ := r
  · -- Writing the queue has failed, so nothing is left to be written when the action settles.
    dsimp only
    rw [result_bind, result_tryCatch, result_bind, result_flush_of_queue_nil hempty]
    rfl
  · dsimp only
    rw [result_tryCatch, result_bind, result_flush_of_queue_nil hempty]

end Written

/-! ## Files that begin with a look at the project model -/

/-- Whether the first thing that files do is a look at the project model, by a gate or by an action that
does not queue entries. Files without gate and actions do nothing. -/
def looksFirst : List (String × ActionFile) → Bool
  | [] => true
  | (_, f) :: rest =>
      f.artifact.isSome ||
        match f.actions with
        | [] => looksFirst rest
        | a :: _ => !a.isQueued

/-- Two steps end in the same way on every state, and leave the same but for the notes. -/
def Same
    {α : Type}
    (m m' : Run α) :
    Prop :=
  ∀ w, (result m w).1 = (result m' w).1 ∧ (result m w).2.silent = (result m' w).2.silent

namespace Same

variable {α β : Type}

theorem of_eq
    {m m' : Run α}
    (h : ∀ w, result m w = result m' w) :
    Same m m' := by
  intro w
  rw [h w]
  exact ⟨rfl, rfl⟩

theorem trans
    {m m' m'' : Run α}
    (h : Same m m')
    (h' : Same m' m'') :
    Same m m'' :=
  fun w => ⟨(h w).1.trans (h' w).1, (h w).2.trans (h' w).2⟩

theorem bind
    (m : Run α)
    {f g : α → Run β}
    (h : ∀ a, Same (f a) (g a)) :
    Same (m >>= f) (m >>= g) := by
  intro w
  rw [result_bind, result_bind]
  rcases result m w with ⟨e | a, w'⟩
  · exact ⟨rfl, rfl⟩
  · exact h a w'

end Same

/-- A note may be taken later. -/
theorem same_note
    {α β : Type}
    {m : Run α}
    {k : Run β}
    (hm : Blind m)
    (hk : Blind k)
    (n : Note) :
    Same (m >>= fun _ => note n >>= fun _ => k) (note n >>= fun _ => m >>= fun _ => k) := by
  intro w
  have hnoted : w.silent = World.silent { w with notes := n :: w.notes } := rfl
  obtain ⟨hend, hleft⟩ := hm _ _ hnoted
  have hlate : ∀ w', result (note n >>= fun _ => k) w' =
      result k { w' with notes := n :: w'.notes } := fun w' => by rw [result_bind, result_note]
  rw [result_bind, result_bind, result_note]
  dsimp only
  rw [result_bind]
  generalize result m w = r at hend hleft ⊢
  generalize result m { w with notes := n :: w.notes } = r' at hend hleft ⊢
  obtain ⟨o, v⟩ := r
  obtain ⟨o', v'⟩ := r'
  obtain rfl : o = o' := hend
  cases o with
  | error e => exact ⟨rfl, hleft⟩
  | ok a =>
      dsimp only
      rw [hlate]
      exact hk { v with notes := n :: v.notes } v' hleft

/-- Files that begin with a look at the project model do the same when the queue is written before. -/
theorem same_flush_runFiles
    (s : Setting)
    (r : Summary)
    {files : List (String × ActionFile)}
    (h : looksFirst files = true) :
    Same (flush s >>= fun _ => runFiles s r files) (runFiles s r files) := by
  induction files generalizing r with
  | nil =>
      rw [runFiles]
      exact Same.of_eq (result_flush_flush s (pure r))
  | cons file rest ih =>
      obtain ⟨path, f⟩ := file
      rw [runFiles, runFile]
      cases hgate : f.artifact with
      | some template =>
          simp only [checkArtifact, bind_assoc]
          exact Same.of_eq (result_flush_flush s _)
      | none =>
          rw [looksFirst, hgate, Option.isSome_none, Bool.false_or] at h
          simp only [checkArtifact, pure_bind]
          cases hactions : f.actions with
          | nil =>
              rw [hactions] at h
              refine (same_note (blind_flush s) (blind_runFiles s _ rest) _).trans ?_
              exact Same.bind _ fun _ => ih _ h
          | cons a later =>
              rw [hactions] at h
              have hlooks : a.isQueued = false := by simpa using h
              refine Same.of_eq fun w => ?_
              have hfirst := @result_flush_runOrSettle (s.forFile path) a hlooks w
              rw [flush_forFile] at hfirst
              simp only [List.isEmpty_cons, Bool.false_eq_true, if_false, runActions, bind_assoc]
              rw [← bind_assoc, result_bind, hfirst, ← result_bind]

/-- Two runs one after another are one run of all files, when the second one begins with a look at the
project model: in a state of any kind both end in the same way, with the sum of what the two runs did
or with the same error, and leave the same files, and with them the same roles, the same jobs, the same
context and the same prompter. The files of a map run in the order of their paths, so where all paths
of one map come before those of another the files of both are the one list behind the other. -/
theorem runAll_append
    {s : Setting}
    {front back : List (String × ActionFile)}
    (hfront : front ≠ [])
    (hback : back ≠ [])
    (hlooks : looksFirst back = true)
    (w : World) :
    (result (runAll s (front ++ back)) w).1 =
        (result (do
          let r ← runAll s front
          let r' ← runAll s back
          return r.add r') w).1 ∧
      Agrees (result (runAll s (front ++ back)) w).2
        (result (do
          let r ← runAll s front
          let r' ← runAll s back
          return r.add r') w).2 := by
  have hall : ∀ {files : List (String × ActionFile)}, files ≠ [] →
      runAll s files =
        (do
          modify fun w => { w with queue := [] }
          runFiles s .zero files) := by
    intro files hfiles
    cases files with
    | nil => exact absurd rfl hfiles
    | cons file rest => rfl
  have hsame : Same (runAll s (front ++ back)) (do
      let r ← runAll s front
      let r' ← runAll s back
      return r.add r') := by
    rw [hall (by simp [hfront]), hall hfront, hall hback, runFiles_append, runFiles_eq s _ front]
    simp only [bind_assoc, pure_bind]
    refine Same.bind _ fun _ => Same.bind _ fun r => ?_
    have hcount : runFiles s r back =
        (do
          let r' ← runFiles s .zero back
          return r.add r') := by
      rw [← map_eq_pure_bind, ← runFiles_add, Summary.add_zero]
    rw [← hcount]
    have hwritten := same_flush_runFiles s r hlooks
    intro w
    have hreset := @result_flush_bind Summary s
      (do modify fun w => { w with queue := [] }; runFiles s r back) (runFiles s r back)
      (fun w' hempty => by
        rw [result_bind, result_modify]
        obtain ⟨disk, jobs, context, queue, prompter, notes⟩ := w'
        obtain rfl : queue = [] := hempty
        rfl) w
    rw [hreset]
    exact ⟨(hwritten w).1.symm, (hwritten w).2.symm⟩
  exact ⟨(hsame w).1, Agrees.of_silent (hsame w).2⟩

/-- A file that queues an entry. -/
def queueingFile : ActionFile where
  artifact := none
  actions := [.entry .dependency "g:a:1.0"]

/-- A file for projects with the artifact `a`, which queues another entry. -/
def gatedFile : ActionFile where
  artifact := some "a"
  actions := [.entry .dependency "g:b:1.0"]

/-- The entry that the first file queues is written by the gate of the second one. -/
theorem runAll_append_small :
    [("deps.yaml", queueingFile)] ≠ [] ∧ [("gated.yaml", gatedFile)] ≠ [] ∧
      looksFirst [("gated.yaml", gatedFile)] = true ∧
      (result (runAll smallSetting [("deps.yaml", queueingFile), ("gated.yaml", gatedFile)])
          smallWorld).1 =
        (result (do
          let r ← runAll smallSetting [("deps.yaml", queueingFile)]
          let r' ← runAll smallSetting [("gated.yaml", gatedFile)]
          return r.add r') smallWorld).1 ∧
      Agrees
        (result (runAll smallSetting [("deps.yaml", queueingFile), ("gated.yaml", gatedFile)])
          smallWorld).2
        (result (do
          let r ← runAll smallSetting [("deps.yaml", queueingFile)]
          let r' ← runAll smallSetting [("gated.yaml", gatedFile)]
          return r.add r') smallWorld).2 := by
  have hfront : [("deps.yaml", queueingFile)] ≠ [] := by simp
  have hback : [("gated.yaml", gatedFile)] ≠ [] := by simp
  have hlooks : looksFirst [("gated.yaml", gatedFile)] = true := rfl
  exact ⟨hfront, hback, hlooks, runAll_append hfront hback hlooks smallWorld⟩

end Run
end Runbook
