import Runbook.Proofs.Run.Refusals

/-!
# What actions keep

Writing and changing a file touches neither the context nor the queue. Running a command line and
keeping values set values of certain names in the context, and leave the queue. Queueing entries
touches neither the files nor the context, and what is queued afterwards was queued or is asked for.

Main statements: `Vars.run_eq_runBy`, `keeps_perform` and `mem_queue_enqueue`.
-/

namespace Runbook

/-- The names under which the context has what came of a command line. -/
def Exec.keys : List String :=
  ["exit-value", "stdout", "stderr", "stdout-json-path"]

/-- The names under which an action keeps values. -/
def Vars.keys (v : Vars) : List String :=
  v.questions.map Question.name ++ v.data.map Prod.fst

/-- The names of the values that an action sets in the context. -/
def Action.keys : Action → List String
  | .exec _ => Exec.keys
  | .vars v => v.keys
  | _ => []

/-!
## Values that are kept one after another

An action that asks questions keeps an answer for each of them, and then its fixed values: steps that give
a value, each of which is kept under its name.
-/

namespace Vars

open Run

/-- Warns of an answer that is none of the choices. -/
def judge
    (q : Question)
    (answer : String) :
    Run String := do
  if !q.choices.isEmpty && !Dict.has q.choices answer then
    warn (.foreignAnswer answer q.name)
  return answer

/-- The answer to a question: the one that the context knows, or one that is asked for. -/
def answerOf (q : Question) : Run String := do
  let answer ← match knownAnswer? (← get).context q.name with
    | some a => pure a
    | none => ask q
  judge q answer

/-- Keeps what steps give, each under its name. -/
def keepEach
    (s : Setting)
    (role : String) :
    List (String × Run String) → Run Unit
  | [] => pure ()
  | (key, step) :: rest => do
      let value ← step
      keep s role key value
      keepEach s role rest

/-- What an action keeps when questions are answered in a certain way. -/
def stepsBy
    (v : Vars)
    (answer : Question → Run String) :
    List (String × Run String) :=
  v.questions.map (fun q => (q.name, answer q)) ++ v.data.map fun e => (e.1, render e.2)

theorem names_stepsBy
    (v : Vars)
    (answer : Question → Run String) :
    (v.stepsBy answer).map Prod.fst = v.keys := by
  rw [stepsBy, List.map_append, List.map_map, List.map_map]
  rfl

/-- Shows what has been kept. -/
def conclude
    (v : Vars)
    (role : String) :
    Run Outcome := do
  if v.keys.isEmpty then
    return .skipped
  let scope := if role.isEmpty then "default role" else role
  let shown := Text.joinStrings ", " v.keys
  announce "vars" s!"{shown} ({scope})"
  return .applied

/-- An action whose questions are answered in a certain way. -/
def runBy
    (v : Vars)
    (answer : Question → Run String)
    (s : Setting) :
    Run Outcome := do
  checkQuestions v.questions
  let role := (← render? v.role).getD ""
  keepEach s role (v.stepsBy answer)
  v.conclude role

section Equations

variable (s : Setting)
variable (role : String)

theorem answerAll_eq (questions : List Question) :
    answerAll s role questions =
      keepEach s role (questions.map fun q => (q.name, answerOf q)) := by
  induction questions with
  | nil => rfl
  | cons q rest ih =>
      have hjudge (answer : String) :
          (judge q answer >>= fun value => do
            keep s role q.name value
            keepEach s role (rest.map fun q => (q.name, answerOf q))) = (do
              if !q.choices.isEmpty && !Dict.has q.choices answer then
                warn (.foreignAnswer answer q.name)
              keep s role q.name answer
              answerAll s role rest) := by
        rw [ih, judge]
        dsimp only
        split
        · rw [bind_assoc]
          rfl
        · rw [pure_bind]
      rw [answerAll, List.map_cons, keepEach, answerOf, bind_assoc]
      refine bind_congr fun w => ?_
      cases knownAnswer? w.context q.name with
      | some answer => exact (hjudge answer).symm
      | none =>
          refine Eq.trans ?_ (bind_assoc _ _ _).symm
          exact bind_congr fun answer => (hjudge answer).symm

theorem keepAll_eq (data : Dict String) :
    keepAll s role data = keepEach s role (data.map fun e => (e.1, render e.2)) := by
  induction data with
  | nil => rfl
  | cons e rest ih =>
      rw [keepAll, List.map_cons, keepEach, ih]

theorem keepEach_append (front back : List (String × Run String)) :
    keepEach s role (front ++ back) = (do
      keepEach s role front
      keepEach s role back) := by
  induction front with
  | nil => simp [keepEach]
  | cons e rest ih =>
      rw [List.cons_append, keepEach, keepEach, ih]
      simp only [bind_assoc]

/-- An action answers each question with what the context knows, or asks for it. -/
theorem run_eq_runBy (v : Vars) :
    v.run s = v.runBy answerOf s := by
  unfold run runBy stepsBy conclude keys
  simp only [answerAll_eq, keepAll_eq, keepEach_append, bind_assoc]

end Equations

end Vars

namespace Run

/-- A part of the state that the context and the queue decide. -/
def Inner
    {γ : Type}
    (part : World → γ) :
    Prop :=
  ∀ w disk jobs prompter notes,
    part { w with disk := disk, jobs := jobs, prompter := prompter, notes := notes } = part w

namespace Inner

variable {γ : Type}
variable {part : World → γ}

theorem keeps_modify
    (h : Inner part)
    {f : World → World}
    (hcontext : ∀ w, (f w).context = w.context)
    (hqueue : ∀ w, (f w).queue = w.queue) :
    Keeps part (modify f : Run Unit) := by
  intro w
  have hsame := h w (f w).disk (f w).jobs (f w).prompter (f w).notes
  rw [← hcontext w, ← hqueue w] at hsame
  exact hsame

theorem keeps_note
    (h : Inner part)
    (n : Note) :
    Keeps part (note n) :=
  h.keeps_modify (fun _ => rfl) fun _ => rfl

theorem keeps_onDisk
    (h : Inner part)
    {ε α : Type}
    (wrap : ε → RunError)
    (edit : Disk → Disk × Except ε α) :
    Keeps part (onDisk wrap edit) := by
  refine Keeps.get.bind fun w => ?_
  exact Keeps.bind (h.keeps_modify (fun _ => rfl) fun _ => rfl) fun _ => Keeps.lift _ _

theorem keeps_execute
    (h : Inner part)
    (system : System)
    (request : ExecRequest) :
    Keeps part (execute system request) := by
  intro w
  have hend (r : Except ExecError ExecOutcome) : Keeps part (lift .execution r) := Keeps.lift _ _
  unfold execute
  simp only [result_bind, result_get, result_set]
  exact (hend _ _).trans (h w _ _ w.prompter w.notes)

theorem keeps_prompt
    (h : Inner part)
    (answer : Prompter → Prompter × Except PromptError String) :
    Keeps part (Vars.prompt answer) := by
  refine Keeps.get.bind fun w => ?_
  exact Keeps.bind (h.keeps_modify (fun _ => rfl) fun _ => rfl) fun _ => Keeps.lift _ _

end Inner

section Actions

variable {γ : Type}
variable {part : World → γ}

theorem keeps_resolve?
    (s : Setting)
    (template : Option String) :
    Keeps part (resolve? s template) := by
  cases template with
  | none => exact Keeps.pure _
  | some template => exact (keeps_resolve s template).bind fun _ => Keeps.pure _

/-! ## Writing and changing files -/

theorem keeps_generate
    (h : Inner part)
    (g : Generate)
    (s : Setting) :
    Keeps part (g.run s) := by
  unfold Generate.run
  refine (keeps_resolve s g.target).bind fun target => Keeps.get.bind fun w => ?_
  split
  · exact (h.keeps_note _).bind fun _ => Keeps.pure _
  · refine (keeps_source g s).bind fun template => (keeps_render template).bind fun content => ?_
    exact (h.keeps_onDisk _ _).bind fun _ => (h.keeps_note _).bind fun _ => Keeps.pure _

theorem keeps_inject
    (h : Inner part)
    (i : Inject)
    (s : Setting) :
    Keeps part (i.run s) := by
  have hskip (text : String) : Keeps part (do remark text; return Outcome.skipped : Run Outcome) :=
    (h.keeps_note _).bind fun _ => Keeps.pure _
  have hput (target text : String) : Keeps part (do
      replaceFile target text
      announce "inject" (s.shown target)
      return Outcome.applied : Run Outcome) :=
    (h.keeps_onDisk _ _).bind fun _ => (h.keeps_note _).bind fun _ => Keeps.pure _
  unfold Inject.run
  refine (keeps_resolve s i.target).bind fun target => Keeps.get.bind fun w => ?_
  split
  · exact hskip _
  · refine (keeps_anchor i).bind fun anchor => (keeps_readText target).bind fun content => ?_
    refine (keeps_render i.text).bind fun text => (keeps_render? i.skip).bind fun skip => ?_
    dsimp only
    split
    · split
      · exact hskip _
      · split
        · exact hskip _
        · split
          · exact hskip _
          · exact hput _ _
    · split
      · exact hskip _
      · split
        · exact hskip _
        · exact hput _ _

/-! ## Running command lines -/

theorem keeps_commandLine
    (x : Exec)
    (s : Setting) :
    Keeps part (x.commandLine s) := by
  unfold Exec.commandLine
  split
  · exact keeps_render _
  · refine (keeps_render _).bind fun file => (keeps_readText _).bind fun content => ?_
    split
    · exact keeps_render _
    · exact Keeps.throw _
  · exact Keeps.throw _

theorem keeps_exec
    (h : Inner part)
    (hkeys : ∀ key ∈ Exec.keys, ∀ value, Keeps part (setValue key value))
    (x : Exec)
    (s : Setting) :
    Keeps part (x.run s) := by
  have hstream (key : String) (text : Option String) (hkey : key ∈ Exec.keys) :
      Keeps part (Exec.keepStream key text) := by
    cases text with
    | none => exact Keeps.pure _
    | some text => exact hkeys key hkey _
  have hfound (line path output : String) : Keeps part (Exec.keepFound line path output) := by
    unfold Exec.keepFound
    refine (keeps_render path).bind fun rendered => (Keeps.lift _ _).bind fun query => ?_
    split
    · exact hkeys _ (by decide) _
    · exact h.keeps_note _
  have hend (outcome : ExecOutcome) (line : String) : Keeps part (do
      if !outcome.success then
        remark s!"'{line}' exited with code {outcome.exit}."
      return Outcome.applied : Run Outcome) := by
    dsimp only
    split
    · exact (h.keeps_note _).bind fun _ => Keeps.pure _
    · exact Keeps.pure _
  unfold Exec.run
  refine (keeps_commandLine x s).bind fun line => ?_
  refine (keeps_resolve? s x.directory).bind fun directory => ?_
  refine (keeps_resolve? s x.output).bind fun output => ?_
  refine (keeps_resolve? s x.errors).bind fun errors => ?_
  refine (h.keeps_note _).bind fun _ => (h.keeps_execute _ _).bind fun outcome => ?_
  refine (hkeys _ (by decide) _).bind fun _ => ?_
  refine (hstream _ _ (by decide)).bind fun _ => (hstream _ _ (by decide)).bind fun _ => ?_
  dsimp only
  split
  · split
    · exact (hfound _ _ _).bind fun _ => hend outcome line
    · exact hend outcome line
  · exact hend outcome line

/-! ## Asking for values -/

theorem keeps_checkQuestions (questions : List Question) :
    Keeps part (Vars.checkQuestions questions) := by
  induction questions with
  | nil => exact Keeps.pure _
  | cons q rest ih =>
      unfold Vars.checkQuestions
      split
      · exact ih
      · exact Keeps.throw _

theorem keeps_ask
    (hprompter : ∀ answer, Keeps part (Vars.prompt answer))
    (q : Question) :
    Keeps part (Vars.ask q) := by
  unfold Vars.ask
  have hprompt (label : String) : Keeps part (do
      let default ← render? q.default
      if q.kind = "dropdown" then
        Vars.prompt fun p => p.select label q.choices default
      else
        Vars.prompt fun p => p.input label default) := by
    refine (keeps_render? q.default).bind fun default => ?_
    split
    · exact hprompter _
    · exact hprompter _
  cases q.label with
  | some template => exact (keeps_render template).bind hprompt
  | none => exact (Keeps.pure q.name).bind hprompt

theorem keeps_judge
    (hnote : ∀ n, Keeps part (note n))
    (q : Question)
    (answer : String) :
    Keeps part (Vars.judge q answer) := by
  unfold Vars.judge
  dsimp only
  split
  · exact (hnote _).bind fun _ => Keeps.pure _
  · exact Keeps.pure _

/-- Finding out what is kept keeps all that noting and asking keep. -/
theorem keeps_stepsBy
    (hnote : ∀ n, Keeps part (note n))
    (hprompter : ∀ answer, Keeps part (Vars.prompt answer))
    (v : Vars) :
    ∀ e ∈ v.stepsBy Vars.answerOf, Keeps part e.2 := by
  intro e he
  rcases List.mem_append.mp he with hquestion | hdata
  · obtain ⟨q, -, rfl⟩ := List.mem_map.mp hquestion
    unfold Vars.answerOf
    refine Keeps.get.bind fun w => ?_
    split
    · exact (Keeps.pure _).bind (keeps_judge hnote q)
    · exact (keeps_ask hprompter q).bind (keeps_judge hnote q)
  · obtain ⟨p, -, rfl⟩ := List.mem_map.mp hdata
    exact keeps_render _

theorem keeps_keepEach
    (h : Inner part)
    (s : Setting)
    (role : String)
    {steps : List (String × Run String)}
    (hsteps : ∀ e ∈ steps, Keeps part e.2)
    (hkeys : ∀ e ∈ steps, ∀ value, Keeps part (setValue e.1 value)) :
    Keeps part (Vars.keepEach s role steps) := by
  induction steps with
  | nil => exact Keeps.pure _
  | cons e rest ih =>
      have hrest := ih (fun e he => hsteps e (List.mem_cons_of_mem _ he))
        fun e he => hkeys e (List.mem_cons_of_mem _ he)
      refine (hsteps e List.mem_cons_self).bind fun value => ?_
      exact Keeps.bind ((h.keeps_onDisk _ _).bind fun _ => hkeys e List.mem_cons_self _)
        fun _ => hrest

theorem keeps_conclude
    (hnote : ∀ n, Keeps part (note n))
    (v : Vars)
    (role : String) :
    Keeps part (v.conclude role) := by
  unfold Vars.conclude
  split
  · exact Keeps.pure _
  · exact (hnote _).bind fun _ => Keeps.pure _

theorem keeps_vars
    (h : Inner part)
    {v : Vars}
    (hkeys : ∀ key ∈ v.keys, ∀ value, Keeps part (setValue key value))
    (s : Setting) :
    Keeps part (v.run s) := by
  have hnames : ∀ e ∈ v.stepsBy Vars.answerOf, ∀ value, Keeps part (setValue e.1 value) :=
    fun e he => hkeys e.1 (v.names_stepsBy Vars.answerOf ▸ List.mem_map_of_mem he)
  rw [Vars.run_eq_runBy]
  unfold Vars.runBy
  refine (keeps_checkQuestions _).bind fun _ => (keeps_render? v.role).bind fun role => ?_
  refine Keeps.bind ?_ fun _ => keeps_conclude h.keeps_note v _
  exact keeps_keepEach h s _ (keeps_stepsBy h.keeps_note h.keeps_prompt v) hnames

/-! ## All actions -/

/-- An action that queues no entry keeps all that its own values do not decide. -/
theorem keeps_perform
    (h : Inner part)
    {a : Action}
    (ha : a.isQueued = false)
    (hkeys : ∀ key ∈ a.keys, ∀ value, Keeps part (setValue key value))
    (s : Setting) :
    Keeps part (a.perform s) := by
  cases a with
  | generate g => exact keeps_generate h g s
  | inject i => exact keeps_inject h i s
  | entry kind text => cases ha
  | exec x => exact keeps_exec h hkeys x s
  | vars v => exact keeps_vars h hkeys s

end Actions

/-! ## Queueing entries -/

theorem keeps_enqueueAll
    {γ : Type}
    {part : World → γ}
    (h : ∀ w queue notes, part { w with queue := queue, notes := notes } = part w)
    (kind : Pom.EntryKind)
    (model : Option Pom.Model)
    (entries : List Pom.Entry) :
    Keeps part (enqueueAll kind model entries) := by
  induction entries with
  | nil => exact Keeps.pure _
  | cons e rest ih =>
      unfold enqueueAll
      refine Keeps.get.bind fun w => ?_
      split
      · exact Keeps.bind (fun w' => h w' w'.queue _) fun _ => ih
      · exact Keeps.bind (fun w' => h w' _ w'.notes) fun _ => ih.bind fun _ => Keeps.pure _

/-- Queueing entries keeps all that the queue does not decide. -/
theorem keeps_enqueue
    {γ : Type}
    {part : World → γ}
    (h : ∀ w queue notes, part { w with queue := queue, notes := notes } = part w)
    (kind : Pom.EntryKind)
    (text : String)
    (s : Setting) :
    Keeps part (enqueue kind text s) := by
  have hnote (n : Note) : Keeps part (note n) := fun w => h w w.queue _
  unfold enqueue
  refine Keeps.get.bind fun w => ?_
  split
  · exact (hnote _).bind fun _ => Keeps.pure _
  · refine (keeps_render text).bind fun rendered => (Keeps.lift _ _).bind fun entries => ?_
    have hmodel : Keeps part contextModel? := by
      unfold contextModel?
      refine Keeps.get.bind fun w => ?_
      dsimp only
      split
      · exact (hnote _).bind fun _ => Keeps.get.bind fun _ => Keeps.pure _
      · exact Keeps.get.bind fun _ => Keeps.pure _
    refine hmodel.bind fun model => ?_
    exact (keeps_enqueueAll h kind model entries).bind fun _ => Keeps.pure _

theorem isQueued_append
    {queue : List Pom.Entry}
    {e : Pom.Entry}
    (h : isQueued queue e = true)
    (more : List Pom.Entry) :
    isQueued (queue ++ more) e = true := by
  rw [isQueued, List.any_append, ← isQueued, h, Bool.true_or]

/-- What is queued stands behind what was, and is not declared. In the end each entry is declared or
queued. -/
theorem exists_queue_enqueueAll
    (kind : Pom.EntryKind)
    (model : Option Pom.Model)
    (entries : List Pom.Entry)
    (w : World) :
    ∃ more, (result (enqueueAll kind model entries) w).2.queue = w.queue ++ more ∧
      (∀ e ∈ more, e ∈ entries ∧ model.any e.isDeclaredIn = false) ∧
      ∀ e ∈ entries, model.any e.isDeclaredIn = true ∨ isQueued (w.queue ++ more) e = true := by
  induction entries generalizing w with
  | nil => exact ⟨[], (List.append_nil _).symm, by simp, by simp⟩
  | cons x rest ih =>
      unfold enqueueAll
      rw [result_bind, result_get]
      dsimp only
      split
      · rename_i hknown
        obtain ⟨more, hqueue, hmore, hall⟩ := ih { w with notes := _ :: w.notes }
        refine ⟨more, ?_, fun e he => ?_, fun e he => ?_⟩
        · rw [result_bind]
          exact hqueue
        · exact ⟨List.mem_cons_of_mem _ (hmore e he).1, (hmore e he).2⟩
        · rcases List.mem_cons.mp he with rfl | hrest
          · rw [Bool.or_eq_true] at hknown
            exact hknown.imp_right fun hq => isQueued_append hq more
          · exact hall e hrest
      · rename_i hnew
        rw [Bool.or_eq_true, not_or, Bool.not_eq_true] at hnew
        obtain ⟨more, hqueue, hmore, hall⟩ := ih { w with queue := w.queue ++ [x] }
        have happend : w.queue ++ x :: more = w.queue ++ [x] ++ more := by simp
        refine ⟨x :: more, ?_, fun e he => ?_, fun e he => ?_⟩
        · rw [happend, ← hqueue, result_bind, result_modify]
          dsimp only
          rw [result_bind]
          generalize result (enqueueAll kind model rest) { w with queue := w.queue ++ [x] } = r
          obtain ⟨o | n, left⟩ := r <;> rfl
        · rcases List.mem_cons.mp he with rfl | hrest
          · exact ⟨List.mem_cons_self, hnew.1⟩
          · exact ⟨List.mem_cons_of_mem _ (hmore e hrest).1, (hmore e hrest).2⟩
        · rw [happend]
          rcases List.mem_cons.mp he with rfl | hrest
          · right
            refine isQueued_append ?_ more
            simp [isQueued]
          · exact hall e hrest

/-- What is queued after entries have been asked for where there is a project model. -/
theorem exists_queue_enqueue
    {kind : Pom.EntryKind}
    {text rendered : String}
    {s : Setting}
    {w : World}
    {entries : List Pom.Entry}
    (hfile : w.disk.isFile s.pomPath = true)
    (hrender : Template.render w.context text = .ok rendered)
    (hparse : Pom.Entry.parseAll kind rendered.toList = .ok entries) :
    ∃ more, (result (enqueue kind text s) w).2.queue = w.queue ++ more ∧
      (∀ e ∈ more, e ∈ entries ∧ (modelIn? w.context).any e.isDeclaredIn = false) ∧
      ∀ e ∈ entries, (modelIn? w.context).any e.isDeclaredIn = true ∨
        isQueued (w.queue ++ more) e = true := by
  obtain ⟨w', hmodel, hsilent⟩ := exists_result_contextModel? w
  obtain ⟨more, hqueue, hmore⟩ := exists_queue_enqueueAll kind (modelIn? w.context) entries w'
  have hkept : w'.queue = w.queue := (World.silent_eq_iff.mp hsilent).2.2.2.1
  rw [hkept] at hqueue hmore
  refine ⟨more, ?_, hmore⟩
  rw [result_enqueue hfile, result_bind]
  unfold render
  rw [result_bind, result_get]
  simp only [hrender, hparse, result_lift_ok]
  rw [result_bind, result_lift_ok]
  dsimp only
  rw [result_bind, hmodel]
  dsimp only
  rw [result_bind]
  generalize result (enqueueAll kind (modelIn? w.context) entries) w' = r at hqueue ⊢
  obtain ⟨o | n, left⟩ := r <;> exact hqueue

/-- What is queued after entries have been asked for was queued, or is among them and not declared. -/
theorem mem_queue_enqueue
    {kind : Pom.EntryKind}
    {text : String}
    {s : Setting}
    {w : World}
    {e : Pom.Entry}
    (h : e ∈ (result (enqueue kind text s) w).2.queue) :
    e ∈ w.queue ∨ ∃ rendered entries, w.disk.isFile s.pomPath = true ∧
      Template.render w.context text = .ok rendered ∧
      Pom.Entry.parseAll kind rendered.toList = .ok entries ∧ e ∈ entries ∧
      (modelIn? w.context).any e.isDeclaredIn = false := by
  cases hfile : w.disk.isFile s.pomPath with
  | false =>
      unfold enqueue at h
      rw [result_bind, result_get] at h
      simp only [hfile] at h
      exact Or.inl h
  | true =>
      cases hrender : Template.render w.context text with
      | error fault =>
          rw [result_enqueue hfile, result_bind] at h
          unfold render at h
          rw [result_bind, result_get] at h
          simp only [hrender] at h
          exact Or.inl h
      | ok rendered =>
          cases hparse : Pom.Entry.parseAll kind rendered.toList with
          | error fault =>
              rw [result_enqueue hfile, result_bind] at h
              unfold render at h
              rw [result_bind, result_get] at h
              simp only [hrender, hparse, result_lift_ok] at h
              exact Or.inl h
          | ok entries =>
              obtain ⟨more, hqueue, hmore, -⟩ := exists_queue_enqueue hfile hrender hparse
              rw [hqueue, List.mem_append] at h
              exact h.imp_right fun hmem =>
                ⟨rendered, entries, rfl, rfl, hparse, hmore e hmem⟩

end Run
end Runbook
