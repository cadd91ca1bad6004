import Runbook.Proofs.Run.Truncation

/-!
# The moves of a run

A run of files is one row of moves: a file is let in by its gate, its actions are called one after
another, and at the end the queue is written. So what holds at a move follows from what every move
before it leaves, whatever files they belong to.

Main statements: `map_runFiles` and `holds_of_runMoves`.
-/

namespace Runbook
namespace Run

/-- What a run does at a time: it lets a file in, notes that a file does nothing, calls an action of
a file, or writes the queue at its end. -/
inductive Move where
  | gate (path template : String)
  | idle (path : String)
  | call (path : String) (a : Action)
  | ending
  deriving DecidableEq, Repr

namespace Move

/-- The moves of a file. -/
def ofFile
    (path : String)
    (f : ActionFile) :
    List Move :=
  f.artifact.toList.map (gate path) ++
    if f.actions.isEmpty then [idle path] else f.actions.map (call path)

/-- The moves of a run of files. -/
def ofFiles : List (String × ActionFile) → List Move
  | [] => [ending]
  | (path, f) :: rest => ofFile path f ++ ofFiles rest

/-- A move. -/
def run
    (s : Setting) :
    Move → Run Unit
  | gate path template => checkArtifact s (s.shown path) (some template)
  | idle path => say s!"'{s.shown path}' declares no actions."
  | call path a => do
      let _ ← a.runOrSettle (s.forFile path)
  | ending => do
      let _ ← flush s

end Move

/-- Moves one after another. -/
def runMoves
    (s : Setting) :
    List Move → Run Unit
  | [] => pure ()
  | m :: rest => do
      m.run s
      runMoves s rest

section Rows

variable {s : Setting}
variable {w w' left : World}

theorem runMoves_append
    (s : Setting)
    (front back : List Move) :
    runMoves s (front ++ back) = runMoves s front >>= fun _ => runMoves s back := by
  induction front with
  | nil => simp [runMoves]
  | cons m rest ih => simp only [List.cons_append, runMoves, ih, bind_assoc]

theorem runMoves_singleton
    (s : Setting)
    (m : Move) :
    runMoves s [m] = m.run s := by
  simp [runMoves]

/-- Behind moves that went well the others follow. -/
theorem result_runMoves_append
    {front : List Move}
    (h : result (runMoves s front) w = (.ok (), w'))
    (back : List Move) :
    result (runMoves s (front ++ back)) w = result (runMoves s back) w' := by
  rw [runMoves_append, result_bind, h]

/-- When moves went well, those in front of a place among them went well. -/
theorem exists_reached
    {front back : List Move}
    (h : result (runMoves s (front ++ back)) w = (.ok (), left)) :
    ∃ w', result (runMoves s front) w = (.ok (), w') ∧
      result (runMoves s back) w' = (.ok (), left) := by
  rw [runMoves_append, result_bind] at h
  cases hfront : result (runMoves s front) w with
  | mk o w' =>
      rw [hfront] at h
      cases o with
      | error e => cases h
      | ok u => exact ⟨w', rfl, h⟩

/-- What each move keeps that goes well, given all moves before it, holds behind all of them. -/
theorem holds_of_runMoves
    {holds : World → Prop}
    {front : List Move}
    (hfirst : holds w)
    (hstep : ∀ before m after reached next, front = before ++ m :: after →
      result (runMoves s before) w = (.ok (), reached) → holds reached →
      result (m.run s) reached = (.ok (), next) → holds next)
    (h : result (runMoves s front) w = (.ok (), left)) :
    holds left := by
  induction front using List.reverseRecOn generalizing left with
  | nil =>
      cases h
      exact hfirst
  | append_singleton front m ih =>
      obtain ⟨reached, hfront, hm⟩ := exists_reached h
      rw [runMoves_singleton] at hm
      have hreached : holds reached := by
        refine ih (fun before m' after w₁ w₂ hparts => ?_) hfront
        exact hstep before m' (after ++ [m]) w₁ w₂ (by simp [hparts])
      exact hstep front m [] reached left rfl hfront hreached hm

end Rows

/-! ## What a move does -/

/-- A step whose result does not matter goes well when the step does. -/
theorem exists_of_ignored
    {α : Type}
    {m : Run α}
    {w left : World}
    (h : result (do let _ ← m) w = (.ok (), left)) :
    ∃ a, result m w = (.ok a, left) := by
  rw [result_bind] at h
  rcases hm : result m w with ⟨e | a, w'⟩
  · rw [hm] at h
    cases h
  · rw [hm] at h
    cases h
    exact ⟨a, rfl⟩

section Moves

variable {s : Setting}
variable {w seen left : World}
variable {n : Nat}

/-- Behind the writing of the queue a gate looks at the model of the context, and leaves it all as it
is. -/
theorem result_gate
    (hflush : result (flush s) w = (.ok n, seen))
    (shown template : String) :
    (result (checkArtifact s shown (some template)) w).2.silent = seen.silent ∧
      ((result (checkArtifact s shown (some template)) w).1 = .ok () ↔
        ∃ artifact m, Template.render seen.context template = .ok artifact ∧
          modelIn? seen.context = some m ∧ m.hasDependency artifact = true) := by
  rw [checkArtifact, result_bind, hflush]
  dsimp only
  unfold render
  rw [result_bind, result_bind, result_get]
  cases hrender : Template.render seen.context template with
  | error fault => simp [hrender]
  | ok artifact =>
      simp only [hrender, result_lift_ok]
      rw [result_bind]
      obtain ⟨v, hmodel, hsilent⟩ := exists_result_contextModel? seen
      rw [hmodel]
      dsimp only
      cases hm : modelIn? seen.context with
      | none => exact ⟨hsilent, by simp⟩
      | some m =>
          cases hdep : m.hasDependency artifact with
          | true => exact ⟨by simpa [hdep] using hsilent, by simp [hdep]⟩
          | false => exact ⟨by simpa [hdep] using hsilent, by simp [hdep]⟩

/-- A gate that lets a file in has written the queue. -/
theorem exists_seen_of_gate
    {shown template : String}
    (h : result (checkArtifact s shown (some template)) w = (.ok (), left)) :
    ∃ n seen, result (flush s) w = (.ok n, seen) ∧ left.silent = seen.silent := by
  cases hflush : result (flush s) w with
  | mk o seen =>
      cases o with
      | error e =>
          rw [checkArtifact, result_bind, hflush] at h
          cases h
      | ok n =>
          have hleft := (result_gate hflush shown template).1
          rw [h] at hleft
          exact ⟨n, seen, rfl, hleft⟩

/-- An action that goes well is called where the queue has been written, unless it queues entries. -/
theorem exists_seen_of_call
    {a : Action}
    {outcome : Outcome}
    (h : result (a.runOrSettle s) w = (.ok outcome, left)) :
    (a.isQueued = true ∧ result (a.perform s) w = (.ok outcome, left)) ∨
      (a.isQueued = false ∧ ∃ n seen, result (flush s) w = (.ok n, seen) ∧
        result (a.perform s) seen = (.ok outcome, left)) := by
  have hrun : result (a.run s) w = (.ok outcome, left) := by
    rw [Action.runOrSettle, result_tryCatch] at h
    cases hrun : result (a.run s) w with
    | mk o w₁ =>
        rw [hrun] at h
        cases o with
        | ok outcome' => exact h
        | error e =>
            obtain ⟨w₂, hsettled, -⟩ := exists_settled Outcome s w₁ e
            rw [show result _ w₁ = _ from h] at hsettled
            cases hsettled
  unfold Action.run at hrun
  cases hqueued : a.isQueued with
  | true =>
      rw [hqueued] at hrun
      exact Or.inl ⟨rfl, hrun⟩
  | false =>
      rw [hqueued, Bool.not_false, if_pos rfl, result_bind] at hrun
      cases hflush : result (flush s) w with
      | mk o seen =>
          rw [hflush] at hrun
          cases o with
          | error e => cases hrun
          | ok n => exact Or.inr ⟨rfl, n, seen, rfl, hrun⟩

/-- Where the queue has been written, an action does what its kind does. -/
theorem result_run_of_flush
    {a : Action}
    (ha : a.isQueued = false)
    (hflush : result (flush s) w = (.ok n, seen)) :
    result (a.run s) w = result (a.perform s) seen := by
  unfold Action.run
  rw [ha, Bool.not_false, if_pos rfl, result_bind, hflush]

/-- Where the queue has been written, a call does what the kind of its action does. -/
theorem result_call_of_flush
    {a : Action}
    {path : String}
    {outcome : Outcome}
    (ha : a.isQueued = false)
    (hflush : result (flush s) w = (.ok n, seen))
    (h : result (a.perform (s.forFile path)) seen = (.ok outcome, left)) :
    result ((Move.call path a).run s) w = (.ok (), left) := by
  rw [← flush_forFile s path] at hflush
  rw [Move.run, result_bind, Action.runOrSettle, result_tryCatch, result_run_of_flush ha hflush, h]
  rfl

theorem result_call_of_queue_nil
    {a : Action}
    {path : String}
    {outcome : Outcome}
    (ha : a.isQueued = false)
    (hqueue : w.queue = [])
    (h : result (a.perform (s.forFile path)) w = (.ok outcome, left)) :
    result ((Move.call path a).run s) w = (.ok (), left) :=
  result_call_of_flush ha (result_flush_of_queue_nil hqueue s) h

end Moves

/-! ## Runs of files -/

/-- The actions of a file run as the calls of a row of moves. -/
theorem map_runActions
    (s : Setting)
    (path : String)
    (actions : List Action)
    (r : Summary) :
    (fun _ => ()) <$> runActions (s.forFile path) r actions =
      runMoves s (actions.map (Move.call path)) := by
  induction actions generalizing r with
  | nil => rfl
  | cons a rest ih =>
      simp only [runActions, List.map_cons, runMoves, Move.run, map_bind, bind_assoc, pure_bind, ih]

theorem map_runFile
    (s : Setting)
    (path : String)
    (f : ActionFile)
    (r : Summary) :
    (fun _ => ()) <$> runFile s r path f = runMoves s (Move.ofFile path f) := by
  have hgate : runMoves s (f.artifact.toList.map (Move.gate path)) =
      checkArtifact s (s.shown path) f.artifact := by
    cases f.artifact with
    | none => rfl
    | some template => exact runMoves_singleton s _
  unfold runFile
  dsimp only
  rw [Move.ofFile, runMoves_append, hgate, map_bind]
  congr 1
  funext _
  cases hactions : f.actions.isEmpty with
  | true =>
      rw [if_pos rfl, if_pos rfl, runMoves_singleton, Move.run, map_bind]
      rfl
  | false => exact map_runActions s path f.actions _

/-- A run of files does what its moves do, and ends as they end. -/
theorem map_runFiles
    (s : Setting)
    (files : List (String × ActionFile))
    (r : Summary) :
    (fun _ => ()) <$> runFiles s r files = runMoves s (Move.ofFiles files) := by
  induction files generalizing r with
  | nil =>
      rw [Move.ofFiles, runMoves_singleton, Move.run, runFiles, map_bind]
      rfl
  | cons file rest ih =>
      obtain ⟨path, f⟩ := file
      rw [Move.ofFiles, runMoves_append, ← map_runFile s path f r, runFiles, map_bind]
      simp only [ih, bind_map_left]

/-- A run of files begins with an empty queue. -/
theorem result_runAll
    {files : List (String × ActionFile)}
    (h : files ≠ [])
    (s : Setting)
    (w : World) :
    result (runAll s files) w = result (runFiles s .zero files) { w with queue := [] } := by
  cases files with
  | nil => exact absurd rfl h
  | cons file rest => rfl

/-- A run that goes well goes through all of its moves. -/
theorem result_moves_of_runAll
    {s : Setting}
    {w left : World}
    {files : List (String × ActionFile)}
    {r : Summary}
    (h : result (runAll s files) w = (.ok r, left)) :
    result (runMoves s (Move.ofFiles files)) { w with queue := [] } = (.ok (), left) := by
  have hfiles : files ≠ [] := by
    rintro rfl
    cases h
  rw [result_runAll hfiles] at h
  rw [← map_runFiles s files .zero, result_map, h]
  rfl

/-- What is called in a run is an action of a file. -/
theorem exists_of_call_mem
    {path : String}
    {a : Action}
    {files : List (String × ActionFile)}
    (h : Move.call path a ∈ Move.ofFiles files) :
    ∃ f, (path, f) ∈ files ∧ a ∈ f.actions := by
  induction files with
  | nil => simp [Move.ofFiles] at h
  | cons file rest ih =>
      obtain ⟨path', f⟩ := file
      rw [Move.ofFiles, List.mem_append] at h
      rcases h with hfile | hrest
      · have hactions : path' = path ∧ a ∈ f.actions := by
          unfold Move.ofFile at hfile
          split at hfile
          · simp at hfile
          · simpa [and_comm, eq_comm] using hfile
        obtain ⟨rfl, ha⟩ := hactions
        exact ⟨f, List.mem_cons_self, ha⟩
      · obtain ⟨f', hf', ha⟩ := ih hrest
        exact ⟨f', List.mem_cons_of_mem _ hf', ha⟩

/-- A run of files comes to a move, in a state. -/
def Reached
    (s : Setting)
    (w : World)
    (files : List (String × ActionFile))
    (m : Move)
    (before : World) :
    Prop :=
  ∃ front back, Move.ofFiles files = front ++ m :: back ∧
    result (runMoves s front) { w with queue := [] } = (.ok (), before)

theorem Reached.mem
    {s : Setting}
    {w before : World}
    {files : List (String × ActionFile)}
    {m : Move}
    (h : Reached s w files m before) :
    m ∈ Move.ofFiles files := by
  obtain ⟨front, back, hparts, -⟩ := h
  simp [hparts]

theorem exists_ofFiles_eq (files : List (String × ActionFile)) :
    ∃ front, Move.ofFiles files = front ++ [Move.ending] := by
  induction files with
  | nil => exact ⟨[], rfl⟩
  | cons file rest ih =>
      obtain ⟨front, hfront⟩ := ih
      exact ⟨Move.ofFile file.1 file.2 ++ front, by simp [Move.ofFiles, hfront]⟩

/-- A run that goes well comes to its end, and leaves what writing the queue leaves there. -/
theorem exists_reached_ending
    {s : Setting}
    {w left : World}
    {files : List (String × ActionFile)}
    {r : Summary}
    (h : result (runAll s files) w = (.ok r, left)) :
    ∃ before n, Reached s w files .ending before ∧ result (flush s) before = (.ok n, left) := by
  obtain ⟨front, hfront⟩ := exists_ofFiles_eq files
  have hmoves := result_moves_of_runAll h
  rw [hfront] at hmoves
  obtain ⟨before, hbefore, hend⟩ := exists_reached hmoves
  rw [runMoves_singleton] at hend
  obtain ⟨n, hflush⟩ := exists_of_ignored hend
  exact ⟨before, n, ⟨front, [], hfront, hbefore⟩, hflush⟩

theorem modelIn?_insert
    {m : Pom.Model}
    (h : Dict.Sorted m.properties)
    (c : Context) :
    modelIn? (Dict.insert c modelKey m.toJson) = some m := by
  rw [modelIn?, Dict.get?_insert_self, Option.bind_some, Pom.Model.ofJson?_toJson h]

/-- A model that is there is found without a note. -/
theorem result_contextModel?_of_modelIn?
    {w : World}
    {m : Pom.Model}
    (h : modelIn? w.context = some m) :
    result contextModel? w = (.ok (some m), w) := by
  unfold contextModel?
  rw [result_bind, result_get]
  dsimp only
  rw [h]
  split
  · rename_i hnone
    cases hnone
  · rfl

/-- The project model comes back from the context that it was entered into, whatever it holds. So a gate
asks this model for its artifact, and entries are queued by what this model declares. Every model that is
read from a text has its properties in order. -/
theorem decides_on_model
    {m : Pom.Model}
    (h : Dict.Sorted m.properties)
    (c : Context) :
    modelIn? (Dict.insert c modelKey m.toJson) = some m ∧
      ∀ (s : Setting) (w : World), w.context = Dict.insert c modelKey m.toJson →
        result contextModel? w = (.ok (some m), w) ∧
        (∀ before n shown template artifact, result (flush s) before = (.ok n, w) →
          Template.render w.context template = .ok artifact →
          result (checkArtifact s shown (some template)) before =
            (if m.hasDependency artifact then .ok () else .error (.unsatisfied shown artifact), w)) ∧
        ∀ kind text rendered entries, w.disk.isFile s.pomPath = true →
          Template.render w.context text = .ok rendered →
          Pom.Entry.parseAll kind rendered.toList = .ok entries →
          result (enqueue kind text s) w =
            result (do
              let queued ← enqueueAll kind (some m) entries
              return if 0 < queued then .applied else .skipped) w := by
  have hmodel := modelIn?_insert h c
  refine ⟨hmodel, fun s w hw => ?_⟩
  have hfound : result contextModel? w = (.ok (some m), w) :=
    result_contextModel?_of_modelIn? (hw ▸ hmodel)
  refine ⟨hfound, ?_, ?_⟩
  · intro before n shown template artifact hflush hrender
    rw [checkArtifact, result_bind, hflush]
    dsimp only
    rw [result_bind, result_render hrender]
    dsimp only
    rw [result_bind, hfound]
    cases hdep : m.hasDependency artifact <;> simp [hdep]
  · intro kind text rendered entries hfile hrender hparse
    rw [result_enqueue hfile, result_bind, result_render hrender]
    dsimp only
    rw [hparse, result_bind, result_lift_ok]
    dsimp only
    rw [result_bind, hfound]

/-- A model with fields of each kind, some of them empty. -/
def keptModel : Pom.Model where
  groupId := some "g\"\\"
  artifactId := none
  version := some ""
  packaging := "jar"
  name := none
  description := some "é\n"
  properties := [("a", "1"), ("java.version", "")]
  dependencies :=
    [⟨none, "", none, some "test", none, none⟩, ⟨some "g", "a", none, none, some "pom", none⟩]
  dependencyManagement := []
  repositories := [⟨none, none⟩, ⟨some "r", some "u"⟩]
  plugins := [⟨none, "p", some "1", none, none, some "c"⟩]

theorem decides_on_model_kept :
    Dict.Sorted keptModel.properties ∧
      modelIn? (Dict.insert [("a", .null)] modelKey keptModel.toJson) = some keptModel := by
  have hsorted : Dict.Sorted keptModel.properties := by
    unfold Dict.Sorted keptModel
    decide +kernel
  exact ⟨hsorted, (decides_on_model hsorted [("a", .null)]).1⟩

end Run
end Runbook
