import Runbook.Proofs.Pom.Merging
import Runbook.Proofs.Run.Writing

/-!
# Runs that stop

A run stops at the gate of a file, at an action, or at its end, where the queue cannot be written.
What it kept are the files it went through and, if it stopped at an action, the file of that action
with the actions before it. When a gate or an action that edits files refuses, the state left is
that of a run of what was kept alone: the queue is written there as at the end of a run, and what
refused has left no trace.

Main statement: `runAll_truncated`.
-/

namespace Runbook
namespace Run

/-- Where a run stops. -/
inductive Site where
  | gate
  | action (a : Action)
  | ending

/-- Whether a run stops at a gate or at an action that edits files. -/
def Site.isChecked : Site → Bool
  | .gate => true
  | .action a => editsFiles a
  | .ending => false

/-- A run of files stops: what it kept, where it stops, the state reached before, and the error. -/
inductive Stops (s : Setting) :
    Summary → World → List (String × ActionFile) →
      List (String × ActionFile) → Site → World → RunError → Prop where
  | gate
      {r : Summary}
      {w left : World}
      {path : String}
      {f : ActionFile}
      {rest : List (String × ActionFile)}
      {e : RunError}
      (fails : result (checkArtifact s (s.shown path) f.artifact) w = (.error e, left)) :
      Stops s r w ((path, f) :: rest) [] .gate w e
  | action
      {r r' : Summary}
      {w opened reached left : World}
      {path : String}
      {f : ActionFile}
      {rest : List (String × ActionFile)}
      {done later : List Action}
      {a : Action}
      {e : RunError}
      (parts : f.actions = done ++ a :: later)
      (opens : result (checkArtifact s (s.shown path) f.artifact) w = (.ok (), opened))
      (runs : result (runActions (s.forFile path) { r with files := r.files + 1 } done) opened =
        (.ok r', reached))
      (fails : result (a.runOrSettle (s.forFile path)) reached = (.error e, left)) :
      Stops s r w ((path, f) :: rest) [(path, { f with actions := done })] (.action a) reached e
  | later
      {r r' : Summary}
      {w w' reached : World}
      {path : String}
      {f : ActionFile}
      {rest kept : List (String × ActionFile)}
      {site : Site}
      {e : RunError}
      (runs : result (runFile s r path f) w = (.ok r', w'))
      (stops : Stops s r' w' rest kept site reached e) :
      Stops s r w ((path, f) :: rest) ((path, f) :: kept) site reached e
  | ending
      {r : Summary}
      {w left : World}
      {e : RunError}
      (fails : result (flush s) w = (.error e, left)) :
      Stops s r w [] [] .ending w e

/-! ## Every run that fails stops somewhere -/

/-- Actions that fail fail at one of them. -/
theorem exists_failing_action
    {s : Setting} :
    ∀ {actions : List Action} {r : Summary} {w left : World} {e : RunError},
      result (runActions s r actions) w = (.error e, left) →
      ∃ done a later r' reached, actions = done ++ a :: later ∧
        result (runActions s r done) w = (.ok r', reached) ∧
        result (a.runOrSettle s) reached = (.error e, left)
  | [], r, w, left, e, h => by cases h
  | a :: rest, r, w, left, e, h => by
      rw [runActions, result_bind] at h
      cases hfirst : result (a.runOrSettle s) w with
      | mk o w' =>
          rw [hfirst] at h
          cases o with
          | error e' =>
              cases h
              exact ⟨[], a, rest, r, w, rfl, rfl, hfirst⟩
          | ok outcome =>
              obtain ⟨done, b, later, r', reached, rfl, hruns, hfails⟩ := exists_failing_action h
              refine ⟨a :: done, b, later, r', reached, rfl, ?_, hfails⟩
              rw [runActions, result_bind, hfirst]
              exact hruns

/-- A file with actions is opened, and then its actions run. -/
theorem result_runFile
    {s : Setting}
    {r : Summary}
    {w opened : World}
    {path : String}
    {f : ActionFile}
    (opens : result (checkArtifact s (s.shown path) f.artifact) w = (.ok (), opened))
    (hactions : f.actions ≠ []) :
    result (runFile s r path f) w =
      result (runActions (s.forFile path) { r with files := r.files + 1 } f.actions) opened := by
  have hsome : f.actions.isEmpty = false := by simpa using hactions
  unfold runFile
  dsimp only
  rw [result_bind, opens, hsome]
  rfl

/-- Files that fail stop somewhere. -/
theorem exists_stops
    {s : Setting} :
    ∀ {files : List (String × ActionFile)} {r : Summary} {w left : World} {e : RunError},
      result (runFiles s r files) w = (.error e, left) →
      ∃ kept site reached, Stops s r w files kept site reached e
  | [], r, w, left, e, h => by
      rw [runFiles, result_bind] at h
      cases hflush : result (flush s) w with
      | mk o w' =>
          rw [hflush] at h
          cases o with
          | error e' =>
              cases h
              exact ⟨_, _, _, .ending hflush⟩
          | ok n => cases h
  | (path, f) :: rest, r, w, left, e, h => by
      rw [runFiles, result_bind] at h
      cases hopen : result (checkArtifact s (s.shown path) f.artifact) w with
      | mk o opened =>
          cases o with
          | error e' =>
              have hfile : result (runFile s r path f) w = (.error e', opened) := by
                unfold runFile
                dsimp only
                rw [result_bind, hopen]
              rw [hfile] at h
              cases h
              exact ⟨_, _, _, .gate hopen⟩
          | ok u =>
              cases hfile : result (runFile s r path f) w with
              | mk o' w' =>
                  rw [hfile] at h
                  cases o' with
                  | ok r' =>
                      obtain ⟨kept, site, reached, hstops⟩ := exists_stops h
                      exact ⟨_, _, _, .later hfile hstops⟩
                  | error e' =>
                      cases h
                      have hactions : f.actions ≠ [] := by
                        intro hnil
                        unfold runFile at hfile
                        dsimp only at hfile
                        rw [result_bind, hopen, hnil] at hfile
                        cases hfile
                      rw [result_runFile hopen hactions] at hfile
                      obtain ⟨done, a, later, r', reached, hparts, hruns, hfails⟩ :=
                        exists_failing_action hfile
                      exact ⟨_, _, _, .action hparts hopen hruns hfails⟩

/-! ## What a refusal leaves -/

/-- A gate that refuses leaves the queue written. -/
theorem silent_of_gate
    {s : Setting}
    {shown : String}
    {artifact : Option String}
    {w left : World}
    {e : RunError}
    (h : result (checkArtifact s shown artifact) w = (.error e, left))
    (he : e.isRefusal = true) :
    left.silent = (result (flush s) w).2.silent := by
  cases artifact with
  | none => cases h
  | some template =>
      have hrest :
          Keeps World.silent (do
            let artifact ← render template
            let model ← contextModel?
            if !(model.any fun m => m.hasDependency artifact) then
              throw (.unsatisfied shown artifact)) := by
        refine (keeps_render template).bind fun artifact => ?_
        refine keeps_contextModel?.bind fun model => ?_
        split
        · exact Keeps.throw _
        · exact Keeps.pure _
      rw [checkArtifact, result_bind] at h
      cases hflush : result (flush s) w with
      | mk o w' =>
          rw [hflush] at h
          cases o with
          | error e' =>
              cases h
              have hhard := hard_flush s w e (by rw [hflush])
              exact absurd he (by simp [hhard])
          | ok n =>
              have hkeep := hrest w'
              rw [show result _ w' = _ from h] at hkeep
              exact hkeep

/-- The queue is written in the same way for every file. -/
theorem flush_forFile
    (s : Setting)
    (path : String) :
    flush (s.forFile path) = flush s := by
  unfold flush writeEntries
  rfl

/-- Settling ends with the error and writes the queue as far as possible. -/
theorem exists_settled
    (α : Type)
    (s : Setting)
    (w : World)
    (e : RunError) :
    ∃ left, result (do
        tryCatch (do let _ ← flush s) fun f => warn (.unwritten f.message)
        throw e : Run α) w = (.error e, left) ∧
      left.silent = (result (flush s) w).2.silent := by
  rw [result_bind, result_tryCatch, result_bind]
  rcases result (flush s) w with ⟨f | n, w'⟩
  · exact ⟨_, rfl, rfl⟩
  · exact ⟨_, rfl, rfl⟩

/-- An action that edits files and refuses leaves the queue written as it was before. -/
theorem silent_of_action
    {s : Setting}
    {a : Action}
    {w left : World}
    {e : RunError}
    (h : result (a.runOrSettle s) w = (.error e, left))
    (ha : editsFiles a = true)
    (he : e.isRefusal = true) :
    left.silent = (result (flush s) w).2.silent := by
  rw [Action.runOrSettle, result_tryCatch] at h
  cases hrun : result (a.run s) w with
  | mk o w₁ =>
      rw [hrun] at h
      cases o with
      | ok outcome => cases h
      | error e₁ =>
          obtain ⟨left', hsettled, hleft⟩ := exists_settled Outcome s w₁ e₁
          rw [show result _ w₁ = _ from h] at hsettled
          cases hsettled
          rw [hleft]
          unfold Action.run at hrun
          cases hqueued : a.isQueued with
          | true =>
              -- Queueing entries does not write the queue first.
              rw [hqueued] at hrun
              have hsame := refuses_perform ha s w e (congrArg Prod.fst hrun) he
              rw [show result (a.perform s) w = _ from hrun] at hsame
              exact (blind_flush s w₁ w hsame).2
          | false =>
              rw [hqueued, Bool.not_false, if_pos rfl, result_bind] at hrun
              cases hflush : result (flush s) w with
              | mk o w₀ =>
                  rw [hflush] at hrun
                  cases o with
                  | error e₀ =>
                      cases hrun
                      have hhard := hard_flush s w e (by rw [hflush])
                      exact absurd he (by simp [hhard])
                  | ok n =>
                      have hsame := refuses_perform ha s w₀ e (congrArg Prod.fst hrun) he
                      rw [show result (a.perform s) w₀ = _ from hrun] at hsame
                      have hempty : w₁.queue = [] := by
                        have hnil := queue_flush s w
                        rw [hflush] at hnil
                        rw [(World.silent_eq_iff.mp hsame).2.2.2.1]
                        exact hnil
                      rw [silent_flush_of_queue_nil hempty s]
                      exact hsame

/-! ## The run of what was kept -/

/-- Actions run one after another. -/
theorem result_runActions_append
    {s : Setting}
    (rest : List Action) :
    ∀ {done : List Action} {r r' : Summary} {w reached : World},
      result (runActions s r done) w = (.ok r', reached) →
      result (runActions s r (done ++ rest)) w = result (runActions s r' rest) reached
  | [], r, r', w, reached, h => by
      cases h
      rfl
  | a :: done, r, r', w, reached, h => by
      rw [runActions, result_bind] at h
      rw [List.cons_append, runActions, result_bind]
      generalize result (a.runOrSettle s) w = first at h ⊢
      obtain ⟨e | outcome, w'⟩ := first
      · cases h
      · exact result_runActions_append rest h

/-- At the end of a run the queue is written. -/
theorem left_runFiles_nil
    (s : Setting)
    (r : Summary)
    (w : World) :
    (result (runFiles s r []) w).2 = (result (flush s) w).2 := by
  rw [runFiles, result_bind]
  rcases result (flush s) w with ⟨e | n, w'⟩ <;> rfl

/-- Files run one after another. -/
theorem result_runFiles_cons
    {s : Setting}
    {r r' : Summary}
    {w w' : World}
    {path : String}
    {f : ActionFile}
    (runs : result (runFile s r path f) w = (.ok r', w'))
    (rest : List (String × ActionFile)) :
    result (runFiles s r ((path, f) :: rest)) w = result (runFiles s r' rest) w' := by
  rw [runFiles, result_bind, runs]

namespace Stops

variable {s : Setting}
variable {r : Summary}
variable {w reached : World}
variable {files kept : List (String × ActionFile)}
variable {site : Site}
variable {e : RunError}

/-- A run that stops with a refusal leaves the state reached before, with the queue written. -/
theorem exists_left
    (h : Stops s r w files kept site reached e)
    (hsite : site.isChecked = true)
    (he : e.isRefusal = true) :
    ∃ left, result (runFiles s r files) w = (.error e, left) ∧
      left.silent = (result (flush s) reached).2.silent := by
  induction h with
  | @gate r w left path f rest e fails =>
      refine ⟨left, ?_, silent_of_gate fails he⟩
      have hfile : result (runFile s r path f) w = (.error e, left) := by
        unfold runFile
        dsimp only
        rw [result_bind, fails]
      rw [runFiles, result_bind, hfile]
  | @action r r' w opened reached left path f rest done later a e parts opens runs fails =>
      have hleft := silent_of_action fails hsite he
      rw [flush_forFile] at hleft
      refine ⟨left, ?_, hleft⟩
      have hfile : result (runFile s r path f) w = (.error e, left) := by
        rw [result_runFile opens (by simp [parts]), parts, result_runActions_append _ runs,
          runActions, result_bind, fails]
      rw [runFiles, result_bind, hfile]
  | later runs _ ih =>
      rw [result_runFiles_cons runs]
      exact ih hsite he
  | ending fails => cases hsite

/-- A run of what was kept leaves the state reached before, with the queue written. -/
theorem silent_kept
    (h : Stops s r w files kept site reached e)
    (hsite : site.isChecked = true) :
    (result (runFiles s r kept) w).2.silent = (result (flush s) reached).2.silent := by
  induction h with
  | gate fails => rw [left_runFiles_nil]
  | @action r r' w opened reached left path f rest done later a e parts opens runs fails =>
      by_cases hdone : done = []
      · -- A file without actions is noted, which does not matter for writing the queue.
        subst hdone
        cases runs
        obtain ⟨n, hfile⟩ : ∃ n, result (runFile s r path { f with actions := [] }) w =
            (.ok { r with files := r.files + 1 }, { opened with notes := n :: opened.notes }) := by
          unfold runFile
          dsimp only
          rw [result_bind, opens]
          exact ⟨_, rfl⟩
        rw [result_runFiles_cons hfile, left_runFiles_nil]
        exact (blind_flush s { opened with notes := n :: opened.notes } opened rfl).2
      · have hfile : result (runFile s r path { f with actions := done }) w = (.ok r', reached) := by
          have hrun := @result_runFile s r w opened path { f with actions := done } opens hdone
          rw [hrun, runs]
        rw [result_runFiles_cons hfile, left_runFiles_nil]
  | later runs _ ih =>
      rw [result_runFiles_cons runs]
      exact ih hsite
  | ending fails => cases hsite

end Stops

/-- Two states agree in everything but the queue and the notes: in the files, and with them in the
roles, in the jobs, in the context and in the prompter. -/
structure Agrees (w w' : World) : Prop where
  disk : w.disk = w'.disk
  jobs : w.jobs = w'.jobs
  context : w.context = w'.context
  prompter : w.prompter = w'.prompter

theorem Agrees.of_silent
    {w w' : World}
    (h : w.silent = w'.silent) :
    Agrees w w' := by
  obtain ⟨hdisk, hjobs, hcontext, -, hprompter⟩ := World.silent_eq_iff.mp h
  exact ⟨hdisk, hjobs, hcontext, hprompter⟩

/-- What a run has left is what a run of the kept files leaves, also when nothing was kept. -/
theorem agrees_runAll_kept
    {s : Setting}
    {w reached : World}
    {files kept : List (String × ActionFile)}
    {site : Site}
    {e : RunError}
    (h : Stops s .zero { w with queue := [] } files kept site reached e)
    (hsite : site.isChecked = true) :
    Agrees (result (flush s) reached).2 (result (runAll s kept) w).2 := by
  have hkept := h.silent_kept hsite
  cases kept with
  | nil =>
      rw [left_runFiles_nil, silent_flush_of_queue_nil rfl] at hkept
      have hagrees := Agrees.of_silent hkept.symm
      exact ⟨hagrees.disk, hagrees.jobs, hagrees.context, hagrees.prompter⟩
  | cons file rest =>
      have hrun : result (runAll s (file :: rest)) w =
          result (runFiles s .zero (file :: rest)) { w with queue := [] } := by
        unfold runAll
        rw [result_bind]
        rfl
      rw [hrun]
      exact Agrees.of_silent hkept.symm

/-- A run that fails stops somewhere. Where a gate or an action that edits files has refused, the
state left is that of a run of what was kept, and the entries queued before are in the file of the
project model if they can be merged into it. -/
theorem runAll_truncated
    {s : Setting}
    {files : List (String × ActionFile)}
    {w left : World}
    {e : RunError}
    (hfiles : files ≠ [])
    (h : result (runAll s files) w = (.error e, left)) :
    (∃ kept site reached, Stops s .zero { w with queue := [] } files kept site reached e) ∧
      ∀ kept site reached, Stops s .zero { w with queue := [] } files kept site reached e →
        site.isChecked = true → e.isRefusal = true →
          Agrees left (result (runAll s kept) w).2 ∧
          ∀ text merged, reached.disk.readText s.pomPath = .ok text →
            Pom.merge text.toList reached.queue = some merged →
            left.disk.readText s.pomPath = .ok (String.ofList merged) := by
  have hrun : result (runFiles s .zero files) { w with queue := [] } = (.error e, left) := by
    cases files with
    | nil => exact absurd rfl hfiles
    | cons file rest =>
        unfold runAll at h
        rw [result_bind] at h
        exact h
  refine ⟨exists_stops hrun, fun kept site reached hstops hsite he => ?_⟩
  obtain ⟨left', hrun', hleft⟩ := hstops.exists_left hsite he
  obtain rfl : left = left' := by
    rw [hrun] at hrun'
    exact congrArg Prod.snd hrun'
  have hflushed := Agrees.of_silent hleft
  have hkept := agrees_runAll_kept hstops hsite
  refine ⟨⟨hflushed.disk.trans hkept.disk, hflushed.jobs.trans hkept.jobs,
    hflushed.context.trans hkept.context, hflushed.prompter.trans hkept.prompter⟩, ?_⟩
  intro text merged hread hmerge
  rw [hflushed.disk]
  exact readText_flush hread hmerge

/-- Two entries of which the second one is none. -/
def smallFile : ActionFile where
  artifact := none
  actions := [.entry .dependency "g:a:1.0", .entry .dependency "g"]

/-- The state after the first of them. -/
def smallQueued : World :=
  { smallWorld with queue := [Pom.smallEntry] }

theorem stops_smallFile :
    Stops smallSetting .zero { smallWorld with queue := [] } [("deps.yaml", smallFile)]
      [("deps.yaml", { smallFile with actions := [.entry .dependency "g:a:1.0"] })]
      (.action (.entry .dependency "g")) smallQueued (.entry (.badCoordinate "g")) := by
  have hfile : smallWorld.disk.isFile (smallSetting.forFile "deps.yaml").pomPath = true :=
    isFile_projectWorld _
  have hfirst : result (Action.run (.entry .dependency "g:a:1.0")
      (smallSetting.forFile "deps.yaml")) smallWorld = (.ok .applied, smallQueued) := by
    have hrender : Template.render smallWorld.context "g:a:1.0" = .ok "g:a:1.0" := rfl
    have hmodel : result contextModel? smallWorld = (.ok none, smallWorld) := rfl
    have hqueue : result (enqueueAll .dependency none [Pom.smallEntry]) smallWorld =
        (.ok 1, smallQueued) := rfl
    show result (enqueue .dependency "g:a:1.0" (smallSetting.forFile "deps.yaml")) smallWorld = _
    rw [result_enqueue hfile]
    simp only [result_bind, render, result_get, hrender, result_lift_ok,
      Pom.parseAll_smallEntry, hmodel, hqueue]
    rfl
  have hsecond : result (Action.run (.entry .dependency "g") (smallSetting.forFile "deps.yaml"))
      smallQueued = (.error (.entry (.badCoordinate "g")), smallQueued) := by
    have hrender : Template.render smallQueued.context "g" = .ok "g" := rfl
    have hparse : Pom.Entry.parseAll .dependency "g".toList = .error (.badCoordinate "g") := rfl
    show result (enqueue .dependency "g" (smallSetting.forFile "deps.yaml")) smallQueued = _
    rw [result_enqueue (w := smallQueued) hfile]
    simp only [result_bind, render, result_get, hrender, result_lift_ok, hparse,
      result_lift_error]
  obtain ⟨left, hsettled, -⟩ :=
    exists_settled Outcome (smallSetting.forFile "deps.yaml") smallQueued
      (.entry (.badCoordinate "g"))
  have hruns : result (runActions (smallSetting.forFile "deps.yaml")
      { Summary.zero with files := 1 } [.entry .dependency "g:a:1.0"]) smallWorld =
        (.ok { Summary.zero with files := 1, executed := 1 }, smallQueued) := by
    rw [runActions, result_bind, Action.runOrSettle, result_tryCatch, hfirst]
    rfl
  have hfails : result (Action.runOrSettle (.entry .dependency "g")
      (smallSetting.forFile "deps.yaml")) smallQueued =
        (.error (.entry (.badCoordinate "g")), left) := by
    rw [Action.runOrSettle, result_tryCatch, hsecond]
    exact hsettled
  have hparts : smallFile.actions =
      [.entry .dependency "g:a:1.0"] ++ .entry .dependency "g" :: [] := rfl
  exact .action hparts rfl hruns hfails

theorem merge_smallEntry :
    Pom.merge "<project/>".toList [Pom.smallEntry] = some
      ("<project>\n    <dependencies>\n        <dependency>\n            " ++
        "<groupId>g</groupId>\n            <artifactId>a</artifactId>\n            " ++
        "<version>1.0</version>\n        </dependency>\n    </dependencies>\n</project>").toList := by
  decide +kernel

/-- The first entry is written, and the second one leaves no trace. -/
theorem runAll_truncated_small :
    ∃ left,
      result (runAll smallSetting [("deps.yaml", smallFile)]) smallWorld =
        (.error (.entry (.badCoordinate "g")), left) ∧
      Agrees left (result (runAll smallSetting
        [("deps.yaml", { smallFile with actions := [.entry .dependency "g:a:1.0"] })])
          smallWorld).2 ∧
      ∃ text, Pom.merge "<project/>".toList [Pom.smallEntry] = some text ∧
        left.disk.readText smallSetting.pomPath = .ok (String.ofList text) := by
  obtain ⟨left, hrun, -⟩ := stops_smallFile.exists_left rfl rfl
  have hall : result (runAll smallSetting [("deps.yaml", smallFile)]) smallWorld =
      (.error (.entry (.badCoordinate "g")), left) := by
    unfold runAll
    rw [result_bind]
    exact hrun
  obtain ⟨hagrees, hread⟩ :=
    (runAll_truncated (by simp) hall).2 _ _ _ stops_smallFile rfl rfl
  exact ⟨left, hall, hagrees, _, merge_smallEntry,
    hread _ _ (readText_projectWorld _) merge_smallEntry⟩

end Run
end Runbook
