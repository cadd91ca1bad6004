import Runbook.Proofs.Run.Facts
import Runbook.Proofs.Run.Keeping
import Runbook.Proofs.Run.Writing

/-!
# Questions are asked once

An action keeps its answers in the store of a role. A context that is built on this store has them under
the names of the questions, so the same action in that context takes each answer out of the store, and
whoever answers questions is left alone.

Main statement: `run_eq_runStored`.
-/

namespace Runbook
namespace Vars

open Run

/-! ## The end of an action -/

/-- The role whose variables an action keeps: what its template gives, or else the default role. -/
def roleIn
    (v : Vars)
    (c : Context) :
    Except TemplateError String :=
  match v.role with
  | none => .ok ""
  | some template => Template.render c template

/-- Why a question is refused. -/
def refusal (q : Question) : RunError :=
  .questionType q.name (if q.multiple then q.kind ++ " (multiple)" else q.kind)

section Ending

variable {v : Vars}
variable {w : World}

theorem result_checkQuestions
    (questions : List Question)
    (w : World) :
    result (checkQuestions questions) w =
      match questions.find? fun q => !isAskable q with
      | some q => (.error (refusal q), w)
      | none => (.ok (), w) := by
  induction questions with
  | nil => rfl
  | cons q rest ih =>
      rw [checkQuestions, List.find?_cons]
      cases isAskable q with
      | true => exact ih
      | false => rfl

/-- An action refuses its first question that cannot be asked, and fails if its role cannot be rendered.
Otherwise its steps are kept for the role. -/
theorem result_runBy
    (answer : Question → Run String)
    (s : Setting) :
    result (v.runBy answer s) w =
      match v.questions.find? fun q => !isAskable q with
      | some q => (.error (refusal q), w)
      | none =>
          match v.roleIn w.context with
          | .error e => (.error (.template e), w)
          | .ok role =>
              result (do
                keepEach s role (v.stepsBy answer)
                v.conclude role) w := by
  rw [runBy, result_bind, result_checkQuestions]
  cases v.questions.find? fun q => !isAskable q with
  | some q => rfl
  | none =>
      dsimp only
      rw [result_bind, roleIn]
      cases v.role with
      | none => rfl
      | some template =>
          rw [render?, render, result_bind, result_bind, result_get]
          dsimp only
          cases Template.render w.context template with
          | error e => rfl
          | ok role => rfl

/-- Showing what has been kept changes neither the disk nor the context. -/
theorem exists_of_conclude
    {m : Run Unit}
    {role : String}
    {left : World}
    {exit : Except RunError Outcome}
    (h : result (do
      m
      v.conclude role) w = (exit, left)) :
    ∃ done next, result m w = (done, next) ∧ left.disk = next.disk ∧ left.context = next.context ∧
      ∀ outcome, exit = .ok outcome → done = .ok () := by
  rw [result_bind] at h
  rcases hm : result m w with ⟨e | ⟨⟩, next⟩
  · rw [hm] at h
    cases h
    exact ⟨_, _, rfl, rfl, rfl, fun outcome hok => by cases hok⟩
  · rw [hm] at h
    have hshown : Keeps (fun w => (w.disk, w.context)) (v.conclude role) :=
      keeps_conclude (fun _ _ => rfl) v role
    have hkept := hshown next
    dsimp only at h
    rw [h] at hkept
    obtain ⟨hdisk, hcontext⟩ := Prod.mk.inj hkept
    exact ⟨_, _, rfl, hdisk, hcontext, fun _ _ => rfl⟩

end Ending

/-! ## What is kept -/

/-- The names and values that are kept, step by step. -/
def kept
    (s : Setting)
    (role : String) :
    List (String × Run String) → World → List (String × String)
  | [], _ => []
  | (key, step) :: rest, w =>
      match result step w with
      | (.error _, _) => []
      | (.ok value, w') =>
          (key, value) :: kept s role rest (result (keep s role key value) w').2

section Kept

variable {s : Setting}
variable {role key value : String}
variable {step : Run String}
variable {steps rest : List (String × Run String)}
variable {w left : World}
variable {vars : Dict String}

theorem result_keep
    (s : Setting)
    (role key value : String)
    (w : World) :
    result (keep s role key value) w =
      match s.store.update w.disk role key value with
      | (d, .ok ()) =>
          (.ok (), { w with disk := d, context := Dict.insert w.context key (.string value) })
      | (d, .error e) => (.error (.store e), { w with disk := d }) := by
  unfold keep onDisk setValue
  simp only [result_bind, result_get, result_modify]
  rcases s.store.update w.disk role key value with ⟨d, e | ⟨⟩⟩ <;> rfl

/-- Steps go well when the first one does, its value is written, and the others go well. -/
theorem exists_of_keepEach_cons
    (h : result (keepEach s role ((key, step) :: rest)) w = (.ok (), left)) :
    ∃ value w' next, result step w = (.ok value, w') ∧
      s.store.update w'.disk role key value = (next.disk, .ok ()) ∧
      result (keepEach s role rest) next = (.ok (), left) ∧
      kept s role ((key, step) :: rest) w = (key, value) :: kept s role rest next := by
  obtain ⟨value, w', hvalue, hbehind⟩ := exists_of_bind h
  obtain ⟨⟨⟩, next, hkeep, hrest⟩ := exists_of_bind hbehind
  refine ⟨value, w', next, hvalue, ?_, hrest, ?_⟩
  · rw [result_keep] at hkeep
    split at hkeep
    · rename_i d hupdate
      cases hkeep
      exact hupdate
    · cases hkeep
  · rw [kept, hvalue]
    simp only [hkeep]

/-- When all steps go well, a value is kept for each of them. -/
theorem names_kept
    (h : result (keepEach s role steps) w = (.ok (), left)) :
    (kept s role steps w).map Prod.fst = steps.map Prod.fst := by
  induction steps generalizing w with
  | nil => rfl
  | cons e rest ih =>
      obtain ⟨value, w', next, -, -, hrest, hkept⟩ := exists_of_keepEach_cons h
      rw [hkept, List.map_cons, List.map_cons, ih hrest]

theorem exists_load_of_keepEach
    (hsteps : ∀ e ∈ steps, Keeps World.disk e.2)
    (hne : steps ≠ [])
    (h : result (keepEach s role steps) w = (.ok (), left)) :
    ∃ vars, s.store.load w.disk role = .ok vars := by
  cases steps with
  | nil => exact absurd rfl hne
  | cons e rest =>
      obtain ⟨value, w', next, hvalue, hupdate, -, -⟩ := exists_of_keepEach_cons h
      have hdisk := hsteps e List.mem_cons_self w
      rw [hvalue] at hdisk
      obtain ⟨path, vars, made, -, hload, -, -⟩ := RoleStore.exists_of_update hupdate
      exact ⟨vars, hdisk ▸ hload⟩

theorem isDevice_keepEach
    (hsteps : ∀ e ∈ steps, Keeps World.disk e.2)
    (hdevice : s.store.IsDevice w.disk role)
    (h : result (keepEach s role steps) w = (.ok (), left)) :
    s.store.IsDevice left.disk role := by
  induction steps generalizing w with
  | nil =>
      cases h
      exact hdevice
  | cons e rest ih =>
      obtain ⟨value, w', next, hvalue, hupdate, hrest, -⟩ := exists_of_keepEach_cons h
      have hdisk := hsteps e List.mem_cons_self w
      rw [hvalue] at hdisk
      rw [← hdisk] at hdevice
      exact ih (fun e he => hsteps e (List.mem_cons_of_mem _ he)) (hdevice.update hupdate) hrest

/-- What is kept can be read afterwards, unless the file of the role is a device. The induction is on the
steps: each of them reads again what the ones before have written. -/
theorem load_keepEach
    (hsteps : ∀ e ∈ steps, Keeps World.disk e.2)
    (noDevice : ¬ s.store.IsDevice left.disk role)
    (hload : s.store.load w.disk role = .ok vars)
    (hround : ∀ before, before <+: kept s role steps w → before ≠ [] →
      RoleStore.RoundTrips (Dict.insertAll vars before))
    (h : result (keepEach s role steps) w = (.ok (), left)) :
    s.store.load left.disk role = .ok (Dict.insertAll vars (kept s role steps w)) := by
  induction steps generalizing w vars with
  | nil =>
      cases h
      exact hload
  | cons e rest ih =>
      obtain ⟨value, w', next, hvalue, hupdate, hrest, hkept⟩ := exists_of_keepEach_cons h
      have hbehind : ∀ e ∈ rest, Keeps World.disk e.2 :=
        fun e he => hsteps e (List.mem_cons_of_mem _ he)
      have hdisk := hsteps e List.mem_cons_self w
      rw [hvalue] at hdisk
      rw [← hdisk] at hload
      rw [hkept] at hround ⊢
      have hfirst : RoleStore.RoundTrips (Dict.insert vars e.1 value) :=
        hround [(e.1, value)] (by simp) (List.cons_ne_nil _ _)
      have hnext : s.store.load next.disk role = .ok (Dict.insert vars e.1 value) :=
        RoleStore.load_update hupdate (fun hdevice => noDevice (isDevice_keepEach hbehind hdevice hrest))
          hload hfirst
      refine ih hbehind hnext (fun before hinit _ => ?_) hrest
      exact hround ((e.1, value) :: before)
        (List.cons_prefix_cons.mpr ⟨rfl, hinit⟩) (List.cons_ne_nil _ _)

end Kept

/-- Asking and rendering leave the disk and the context. -/
theorem keeps_both_stepsBy (v : Vars) :
    ∀ e ∈ v.stepsBy answerOf, Keeps (fun w => (w.disk, w.context)) e.2 :=
  keeps_stepsBy (fun _ _ => rfl)
    (fun _ => Keeps.get.bind fun _ => Keeps.bind (fun _ => rfl) fun _ => Keeps.lift _ _) v

theorem keeps_disk_stepsBy (v : Vars) :
    ∀ e ∈ v.stepsBy answerOf, Keeps World.disk e.2 :=
  fun e he w => congrArg Prod.fst (keeps_both_stepsBy v e he w)

/-! ## Answers that the context knows -/

/-- The value that variables have for a name. -/
def stored
    (vars : Dict String)
    (name : String) :
    String :=
  (Dict.get? vars name).getD ""

/-- The answer to a question that variables have under its name. -/
def answerFrom
    (vars : Dict String)
    (q : Question) :
    Run String :=
  judge q (stored vars q.name)

/-- An action that takes all answers out of variables. It has no question for anybody. -/
def runStored
    (v : Vars)
    (vars : Dict String)
    (s : Setting) :
    Run Outcome :=
  v.runBy (answerFrom vars) s

/-- A context has the values of variables under the names of questions. -/
def Knows
    (c : Context)
    (vars : Dict String)
    (questions : List Question) : Prop :=
  ∀ q ∈ questions, Dict.get? c q.name = some (.string (stored vars q.name))

section Knows

variable {s : Setting}
variable {w : World}
variable {vars : Dict String}
variable {questions all : List Question}

/-- The context stays such when a value of the variables is set. -/
theorem Knows.insert
    {c : Context}
    (h : Knows c vars questions)
    (key : String) :
    Knows (Dict.insert c key (.string (stored vars key))) vars questions := by
  intro q hq
  by_cases hname : q.name = key
  · rw [hname, Dict.get?_insert_self]
  · rw [Dict.get?_insert_of_ne _ _ hname]
    exact h q hq

/-- A question whose answer the context has is not asked. -/
theorem result_answerOf
    (h : Knows w.context vars questions)
    {q : Question}
    (hq : q ∈ questions) :
    result (answerOf q) w = result (answerFrom vars q) w := by
  have hknown : knownAnswer? w.context q.name = some (stored vars q.name) := by
    unfold knownAnswer?
    rw [h q hq]
    rfl
  unfold answerOf
  rw [result_bind, result_get]
  simp only [hknown, pure_bind]
  rfl

/-- Weighing an answer gives it, and leaves all but the notes. -/
theorem exists_result_judge
    (q : Question)
    (answer : String)
    (w : World) :
    ∃ notes, result (judge q answer) w = (.ok answer, { w with notes := notes }) := by
  unfold judge
  dsimp only
  split
  · exact ⟨_, rfl⟩
  · exact ⟨w.notes, rfl⟩

/-- Questions whose answers the context has are not asked. What one of them keeps is what the context has
already, so the next one finds the same. -/
theorem result_keepEach_answers
    (role : String)
    (h : Knows w.context vars all)
    (hall : ∀ q ∈ questions, q ∈ all)
    (rest : List (String × Run String)) :
    result (keepEach s role (questions.map (fun q => (q.name, answerOf q)) ++ rest)) w =
      result (keepEach s role (questions.map (fun q => (q.name, answerFrom vars q)) ++ rest)) w := by
  induction questions generalizing w with
  | nil => rfl
  | cons q later ih =>
      obtain ⟨notes, hanswer⟩ := exists_result_judge q (stored vars q.name) w
      rw [List.map_cons, List.map_cons, List.cons_append, List.cons_append, keepEach, keepEach,
        result_bind, result_bind, result_answerOf h (hall q List.mem_cons_self), answerFrom, hanswer]
      dsimp only
      rw [result_bind, result_bind, result_keep]
      rcases s.store.update w.disk role q.name (stored vars q.name) with ⟨d, e | ⟨⟩⟩
      · rfl
      · exact ih (h.insert q.name) fun q' hq' => hall q' (List.mem_cons_of_mem _ hq')

/-- An action takes its answers out of variables that the context has. -/
theorem result_run_of_knows
    {v : Vars}
    (s : Setting)
    (h : Knows w.context vars v.questions) :
    result (v.run s) w = result (v.runStored vars s) w := by
  rw [run_eq_runBy, runStored, runBy, runBy]
  refine Keeps.result_bind_congr (keeps_checkQuestions _) fun _ => ?_
  refine Keeps.result_bind_congr (keeps_render? _) fun role => ?_
  rw [result_bind, result_bind, stepsBy, result_keepEach_answers _ h fun _ hq => hq, ← stepsBy]

end Knows

/-! ## Steps that ask nobody -/

/-- A step does the same whoever answers questions, and leaves him alone. -/
def Unprompted {α : Type} (m : Run α) : Prop :=
  ∀ w p, result m { w with prompter := p } =
    ((result m w).1, { (result m w).2 with prompter := p })

namespace Unprompted

variable {α β : Type}

theorem pure (a : α) :
    Unprompted (Pure.pure a : Run α) :=
  fun _ _ => rfl

theorem throw (e : RunError) :
    Unprompted (MonadExcept.throw e : Run α) :=
  fun _ _ => rfl

theorem lift
    {ε : Type}
    (wrap : ε → RunError)
    (r : Except ε α) :
    Unprompted (Run.lift wrap r) := by
  intro w p
  cases r <;> rfl

theorem note (n : Note) :
    Unprompted (Run.note n) :=
  fun _ _ => rfl

theorem bind
    {m : Run α}
    {f : α → Run β}
    (hm : Unprompted m)
    (hf : ∀ a, Unprompted (f a)) :
    Unprompted (m >>= f) := by
  intro w p
  have hfirst := hm w p
  rw [result_bind, result_bind, hfirst]
  rcases result m w with ⟨e | a, w'⟩
  · rfl
  · exact hf a w' p

theorem render (template : String) :
    Unprompted (Run.render template) := by
  intro w p
  exact lift .template (Template.render w.context template) w p

theorem render? (template : Option String) :
    Unprompted (Run.render? template) := by
  cases template with
  | none => exact pure _
  | some template => exact (render template).bind fun _ => pure _

theorem keep
    (s : Setting)
    (role key value : String) :
    Unprompted (Vars.keep s role key value) := by
  intro w p
  rw [result_keep, result_keep]
  rcases s.store.update w.disk role key value with ⟨d, e | ⟨⟩⟩ <;> rfl

theorem checkQuestions (questions : List Question) :
    Unprompted (Vars.checkQuestions questions) := by
  induction questions with
  | nil => exact pure _
  | cons q rest ih =>
      unfold Vars.checkQuestions
      split
      · exact ih
      · exact throw _

theorem keepEach
    {s : Setting}
    {role : String}
    {steps : List (String × Run String)}
    (h : ∀ e ∈ steps, Unprompted e.2) :
    Unprompted (Vars.keepEach s role steps) := by
  induction steps with
  | nil => exact pure _
  | cons e rest ih =>
      refine (h e List.mem_cons_self).bind fun value => ?_
      exact (keep s role e.1 value).bind fun _ => ih fun e he => h e (List.mem_cons_of_mem _ he)

/-- An action that takes its answers out of variables asks nobody. -/
theorem runStored
    (v : Vars)
    (vars : Dict String)
    (s : Setting) :
    Unprompted (v.runStored vars s) := by
  have hsteps : ∀ e ∈ v.stepsBy (answerFrom vars), Unprompted e.2 := by
    intro e he
    rcases List.mem_append.mp he with hquestion | hdata
    · obtain ⟨q, -, rfl⟩ := List.mem_map.mp hquestion
      unfold answerFrom judge
      dsimp only
      split
      · exact (note _).bind fun _ => pure _
      · exact pure _
    · obtain ⟨p, -, rfl⟩ := List.mem_map.mp hdata
      exact render _
  unfold Vars.runStored runBy conclude
  refine (checkQuestions _).bind fun _ => (render? _).bind fun role => ?_
  refine (keepEach hsteps).bind fun _ => ?_
  dsimp only
  split
  · exact pure _
  · exact (note _).bind fun _ => pure _

end Unprompted

/-! ## The same action in a later context -/

/-- What an action keeps under the name of each question and of each fixed value, as it answers the
questions with what the context knows and asks for the rest. -/
def keptDefault
    (v : Vars)
    (s : Setting)
    (w : World) :
    List (String × String) :=
  kept s "" (v.stepsBy answerOf) w

/-- An action for the default role goes well when its steps do. -/
theorem exists_of_run
    {v : Vars}
    {s : Setting}
    {w left : World}
    {outcome : Outcome}
    (h : result (v.run s) w = (.ok outcome, left))
    (hrole : ∀ template, v.role = some template → Template.render w.context template = .ok "") :
    ∃ next, result (keepEach s "" (v.stepsBy answerOf)) w = (.ok (), next) ∧
      next.disk = left.disk := by
  have hdefault : v.roleIn w.context = .ok "" := by
    unfold roleIn
    cases hv : v.role with
    | none => rfl
    | some template => exact hrole template hv
  rw [run_eq_runBy, result_runBy] at h
  split at h
  · cases h
  · rw [hdefault] at h
    obtain ⟨done, next, hsteps, hdisk, -, hdone⟩ := exists_of_conclude h
    rw [hdone outcome rfl] at hsteps
    exact ⟨next, hsteps, hdisk.symm⟩

/-- An action for the default role goes well, all that it writes is read back as it was written, and the
file of the role is no device. A later context is built on the store as the action has left it, with the
variables of the role last. Then the store has a value for each question, one that the action has kept,
and in the later context the same action takes its answers out of the store: it does what the action
without anybody to ask does, and does the same whoever answers questions, who is left alone. -/
theorem run_eq_runStored
    {v : Vars}
    {s₁ : Setting}
    {w₁ left : World}
    {outcome : Outcome}
    (hrun : result (v.run s₁) w₁ = (.ok outcome, left))
    (hrole : ∀ template, v.role = some template → Template.render w₁.context template = .ok "")
    (hround : ∀ vars before, s₁.store.load w₁.disk "" = .ok vars →
      before <+: v.keptDefault s₁ w₁ → before ≠ [] →
        RoleStore.RoundTrips (Dict.insertAll vars before))
    (noDevice : ¬ s₁.store.IsDevice left.disk "")
    {host : Host}
    {s₂ : Setting}
    {d : Disk}
    {values : Dict String}
    {sources : List FactSource}
    {c : Context}
    (hstore : s₂.store.load d "" = s₁.store.load left.disk "")
    (hbuilt : (buildContext host s₂ d values (sources ++ [.roleVariables])).2 = .ok c) :
    ∃ vars, s₂.store.load d "" = .ok vars ∧
      (∀ q ∈ v.questions, ∃ value, Dict.get? vars q.name = some value ∧
        (q.name, value) ∈ v.keptDefault s₁ w₁) ∧
      ∀ w₂ : World, w₂.context = c →
        result (v.run s₂) w₂ = result (v.runStored vars s₂) w₂ ∧
        ∀ p, result (v.run s₂) { w₂ with prompter := p } =
          ((result (v.run s₂) w₂).1, { (result (v.run s₂) w₂).2 with prompter := p }) := by
  obtain ⟨next, hsteps, hdisk⟩ := exists_of_run hrun hrole
  obtain ⟨vars, hload, hcontext⟩ := get?_of_buildContext hbuilt
  have hstored : ∀ q ∈ v.questions, ∃ value, Dict.get? vars q.name = some value ∧
      (q.name, value) ∈ v.keptDefault s₁ w₁ := by
    intro q hq
    have hname : (q.name, answerOf q) ∈ v.stepsBy answerOf :=
      List.mem_append_left _ (List.mem_map_of_mem hq)
    obtain ⟨before, hbefore⟩ := exists_load_of_keepEach (keeps_disk_stepsBy v)
      (List.ne_nil_of_mem hname) hsteps
    rw [← hdisk] at noDevice hstore
    have hafter := load_keepEach (keeps_disk_stepsBy v) noDevice hbefore
      (fun front => hround before front hbefore) hsteps
    obtain rfl : vars = _ := Except.ok.inj (hload.symm.trans (hstore.trans hafter))
    refine Dict.exists_mem_of_insertAll ?_ before
    rw [names_kept hsteps]
    exact List.mem_map_of_mem hname
  refine ⟨vars, hload, hstored, fun w₂ hw₂ => ?_⟩
  have hknows : Knows w₂.context vars v.questions := by
    intro q hq
    obtain ⟨value, hvalue, -⟩ := hstored q hq
    rw [hw₂, stored, hvalue]
    exact hcontext q.name value hvalue
  have hsame := result_run_of_knows s₂ hknows
  refine ⟨hsame, fun p => ?_⟩
  have hother : result (v.run s₂) { w₂ with prompter := p } =
      result (v.runStored vars s₂) { w₂ with prompter := p } :=
    result_run_of_knows s₂ hknows
  rw [hother, hsame]
  exact Unprompted.runStored v vars s₂ w₂ p

/-! ## One question -/

/-- A question without choices, and an action that asks it. -/
def language : Question where
  name := "language"
  label := none
  kind := "input"
  choices := []
  multiple := false
  default := none

def askLanguage : Vars where
  questions := [language]
  data := []
  role := none

/-- A disk, a context, and somebody with one answer. -/
def answering
    (d : Disk)
    (c : Context)
    (answer : String) :
    World where
  disk := d
  jobs := .none
  context := c
  queue := []
  prompter := .scripted [answer] []
  notes := []

theorem find?_askLanguage :
    askLanguage.questions.find? (fun q => !isAskable q) = none := by
  rfl

theorem roleIn_askLanguage (c : Context) :
    askLanguage.roleIn c = .ok "" := by
  rfl

section Language

variable {s : Setting}
variable {d d' : Disk}
variable {c : Context}

theorem result_answerOf_language
    (hc : Dict.get? c "language" = none)
    (d : Disk)
    (answer : String) :
    result (answerOf language) (answering d c answer) =
      (.ok answer, { answering d c answer with prompter := .scripted [] ["language"] }) := by
  have hkebab : Text.kebabCase "language" = "language" := by decide +kernel
  have hknown : knownAnswer? c "language" = none := by
    unfold knownAnswer?
    rw [hkebab, hc]
  unfold answerOf
  rw [result_bind, result_get]
  simp only [answering, language, hknown]
  rfl

/-- What the context does not know is asked for, and kept. -/
theorem exists_result_askLanguage
    (hc : Dict.get? c "language" = none)
    {answer : String}
    (hupdate : s.store.update d "" "language" answer = (d', .ok ())) :
    ∃ notes, result (askLanguage.run s) (answering d c answer) =
      (.ok .applied,
        { answering d' (Dict.insert c "language" (.string answer)) answer with
          prompter := .scripted [] ["language"]
          notes := notes }) := by
  have hsteps : askLanguage.stepsBy answerOf = [("language", answerOf language)] := rfl
  have hkept : result (keepEach s "" (askLanguage.stepsBy answerOf)) (answering d c answer) =
      (.ok (),
        { answering d' (Dict.insert c "language" (.string answer)) answer with
          prompter := .scripted [] ["language"] }) := by
    rw [hsteps, keepEach, result_bind, result_answerOf_language hc]
    simp only [result_bind, result_keep, answering, hupdate]
    rfl
  have hshown (w : World) : ∃ notes,
      result (askLanguage.conclude "") w = (.ok .applied, { w with notes := notes }) :=
    ⟨_, rfl⟩
  rw [run_eq_runBy, result_runBy, find?_askLanguage, roleIn_askLanguage]
  dsimp only
  rw [result_bind, hkept]
  exact hshown _

theorem keptDefault_askLanguage
    (hc : Dict.get? c "language" = none)
    (s : Setting)
    (d : Disk)
    (answer : String) :
    askLanguage.keptDefault s (answering d c answer) = [("language", answer)] := by
  have hsteps : askLanguage.stepsBy answerOf = [("language", answerOf language)] := rfl
  rw [keptDefault, hsteps, kept, result_answerOf_language hc]
  rfl

end Language

/-- Below an empty root the language is asked for once. Later it is not asked for, although an option
has given another one. -/
theorem run_eq_runStored_root :
    ∃ left c, result (askLanguage.run smallSetting) (answering (.directory []) [] "java") =
        (.ok .applied, left) ∧
      (buildContext ⟨"linux", "x86_64"⟩ smallSetting left.disk [("Language", "kotlin")]
        [.roleVariables]).2 = .ok c ∧
      ∀ w : World, w.context = c →
        result (askLanguage.run smallSetting) w =
          result (askLanguage.runStored [("language", "java")] smallSetting) w := by
  have hstore : smallSetting.store = RoleStore.rootStore := rfl
  obtain ⟨hupdate, hmirrors⟩ := RoleStore.update_root
  have hload := hmirrors.load_eq RoleStore.isRole_default
  rw [← hstore] at hupdate hload
  obtain ⟨notes, hrun⟩ := exists_result_askLanguage (c := []) rfl hupdate
  have hbuilt : (buildContext ⟨"linux", "x86_64"⟩ smallSetting RoleStore.rootKept
      [("Language", "kotlin")] ([] ++ [.roleVariables])).2 = .ok [("language", .string "java")] := by
    have hname : Text.kebabCase "Language" = "language" := by decide +kernel
    have hfacts : optionFacts [("Language", "kotlin")] = [("language", .string "kotlin")] := by
      simp only [optionFacts, List.map_singleton, hname]
      rfl
    simp only [buildContext, List.nil_append, askSources, FactSource.facts, hload, hfacts]
    rfl
  refine ⟨_, _, hrun, hbuilt, ?_⟩
  have hround : ∀ vars before, smallSetting.store.load (.directory []) "" = .ok vars →
      before <+: askLanguage.keptDefault smallSetting (answering (.directory []) [] "java") →
        before ≠ [] → RoleStore.RoundTrips (Dict.insertAll vars before) := by
    intro vars before hbefore hinit hne
    obtain rfl : vars = [] :=
      Except.ok.inj (hbefore.symm.trans (RoleStore.vacant_root.load_eq RoleStore.isRole_default))
    rw [keptDefault_askLanguage rfl] at hinit
    obtain ⟨rest, rfl, hrest⟩ := (List.prefix_cons_iff.mp hinit).resolve_left hne
    obtain rfl := List.prefix_nil.mp hrest
    exact RoleStore.roundTrips_root
  have noDevice := hmirrors.not_isDevice RoleStore.isRole_default (List.cons_ne_nil _ _)
  obtain ⟨vars, hvars, -, hlater⟩ := run_eq_runStored hrun (by simp [askLanguage]) hround noDevice rfl
    hbuilt
  obtain rfl : vars = [("language", "java")] := Except.ok.inj (hvars.symm.trans hload)
  exact fun w hw => (hlater w hw).1

/-! ## A role whose file is a device -/

/-- A disk on which the file of the default role is a device. -/
def voidDisk : Disk :=
  .directory [("roles", .directory [("vars.yaml", .device .null)])]

theorem locate_voidDisk :
    voidDisk.locate "roles/vars.yaml" = .ok (.found ["roles", "vars.yaml"] (.device .null)) := by
  have hparts : Text.splitOn '/' "roles/vars.yaml".toList =
      ["roles".toList, "vars.yaml".toList] := rfl
  have hroot : voidDisk.get? [] = some voidDisk := rfl
  have hname : Disk.IsNamed "vars.yaml".toList := Disk.isNamed_of_short (by decide) (by decide)
  rw [Disk.locate, Disk.locateFrom_eq ⟨by decide, by decide⟩ (by decide), hparts,
    Disk.follow_down hroot RoleStore.isNamed_roles rfl rfl, Disk.follow_down rfl hname rfl rfl,
    Disk.follow_nil rfl]
  rfl

theorem load_voidDisk :
    smallSetting.store.load voidDisk "" = .ok [] := by
  have hexists : voidDisk.exists? "roles/vars.yaml" = true :=
    Disk.exists?_iff.mpr ⟨_, _, locate_voidDisk⟩
  have hread : voidDisk.readText "roles/vars.yaml" = .ok "" := by
    unfold Disk.readText Disk.read Disk.tree?
    rw [locate_voidDisk]
  have hparse : Yaml.parseDict? "" = some [] := by decide +kernel
  have hload : smallSetting.store.load voidDisk "" =
      RoleStore.readFile voidDisk "roles/vars.yaml" := rfl
  rw [hload, RoleStore.readFile, hexists, if_pos rfl, hread]
  simp only [hparse]

theorem update_voidDisk (answer : String) :
    smallSetting.store.update voidDisk "" "language" answer = (voidDisk, .ok ()) := by
  have hinto : voidDisk.LeadsInto "roles" ["roles"] :=
    ⟨Disk.maxLinks, .down rfl RoleStore.isNamed_roles (.done rfl)⟩
  obtain ⟨left, hwalk⟩ := hinto
  have hready : voidDisk.provideDirectory "roles" = (voidDisk, .ok ()) :=
    Disk.provideDirectory_of_enters ⟨by decide, by decide⟩ hwalk
  have hslash : Disk.isSlashed "roles/vars.yaml" = false := by decide
  have hwrite (c : Content) : voidDisk.overwrite "roles/vars.yaml" c = (voidDisk, .ok ()) := by
    unfold Disk.overwrite
    rw [hslash, if_neg Bool.false_ne_true, locate_voidDisk]
    rfl
  have hread : RoleStore.readFile voidDisk "roles/vars.yaml" = .ok [] := load_voidDisk
  have hfile : smallSetting.store.file "" = .ok "roles/vars.yaml" := rfl
  have hdirectory : smallSetting.store.directory = "roles" := rfl
  simp only [RoleStore.update, hfile, hread, RoleStore.writeFile, hdirectory, hready, hwrite]

/-- A device keeps no answer: the same action asks again in a context that is built afterwards. -/
theorem exists_asked_again :
    ∃ left c again, result (askLanguage.run smallSetting) (answering voidDisk [] "java") =
        (.ok .applied, left) ∧
      RoleStore.RoundTrips [("language", "java")] ∧
      (buildContext ⟨"linux", "x86_64"⟩ smallSetting left.disk [] [.roleVariables]).2 = .ok c ∧
      result (askLanguage.run smallSetting) (answering left.disk c "kotlin") =
        (.ok .applied, again) ∧
      again.prompter = .scripted [] ["language"] := by
  obtain ⟨notes, hfirst⟩ := exists_result_askLanguage (c := []) rfl (update_voidDisk "java")
  obtain ⟨notes', hagain⟩ := exists_result_askLanguage (c := []) rfl (update_voidDisk "kotlin")
  have hbuilt : (buildContext ⟨"linux", "x86_64"⟩ smallSetting voidDisk [] [.roleVariables]).2 =
      .ok [] := by
    simp only [buildContext, askSources, FactSource.facts, load_voidDisk]
    rfl
  exact ⟨_, [], _, hfirst, RoleStore.roundTrips_root, hbuilt, hagain, rfl⟩

end Vars
end Runbook
