import Runbook.Proofs.Run.Keeping

/-!
# What has been noted does not matter

A run looks at the files, the jobs, the context, the queue and the prompter, and never at the notes that
were taken before. So two states that differ in their notes alone end in the same way, and what they
leave differs in the notes alone.

Main statement: `blind_runFiles`.
-/

namespace Runbook
namespace Run

/-! ## What is rendered, read and changed -/

theorem blind_render (template : String) :
    Blind (render template) :=
  Blind.get_bind (fun w w' h => by rw [(World.silent_eq_iff.mp h).2.2.1]) fun _ => Blind.lift _ _

theorem blind_render? (template : Option String) :
    Blind (render? template) := by
  cases template with
  | none => exact Blind.pure _
  | some template => exact (blind_render template).bind fun _ => Blind.pure _

theorem blind_resolve
    (s : Setting)
    (template : String) :
    Blind (resolve s template) :=
  (blind_render template).bind fun _ => Blind.lift _ _

theorem blind_resolve?
    (s : Setting)
    (template : Option String) :
    Blind (resolve? s template) := by
  cases template with
  | none => exact Blind.pure _
  | some template => exact (blind_resolve s template).bind fun _ => Blind.pure _

theorem Blind.throw
    {α : Type}
    (e : RunError) :
    Blind (MonadExcept.throw e : Run α) :=
  fun _ _ h => ⟨rfl, h⟩

theorem Blind.tryCatch
    {α : Type}
    {m : Run α}
    {f : RunError → Run α}
    (hm : Blind m)
    (hf : ∀ e, Blind (f e)) :
    Blind (MonadExcept.tryCatch m f) := by
  intro w w' h
  obtain ⟨hend, hleft⟩ := hm w w' h
  rw [result_tryCatch, result_tryCatch]
  generalize result m w = r at hend hleft ⊢
  generalize result m w' = r' at hend hleft ⊢
  obtain ⟨o, v⟩ := r
  obtain ⟨o', v'⟩ := r'
  obtain rfl : o = o' := hend
  cases o with
  | error e => exact hf e v v' hleft
  | ok a => exact ⟨rfl, hleft⟩

/-! ## Actions -/

theorem blind_source
    (g : Generate)
    (s : Setting) :
    Blind (g.source s) := by
  unfold Generate.source
  split
  · exact Blind.pure _
  · exact (blind_render _).bind fun _ => blind_readText _
  · exact Blind.throw _

theorem blind_generate
    (g : Generate)
    (s : Setting) :
    Blind (g.run s) := by
  unfold Generate.run
  refine (blind_resolve s g.target).bind fun target => ?_
  refine Blind.get_bind (fun w w' h => by rw [(World.silent_eq_iff.mp h).1]) fun w => ?_
  split
  · exact (Blind.note _).bind fun _ => Blind.pure _
  · refine (blind_source g s).bind fun template => ?_
    refine (blind_render template).bind fun content => ?_
    exact (blind_onDisk _ _).bind fun _ => (Blind.note _).bind fun _ => Blind.pure _

theorem blind_anchor (i : Inject) :
    Blind i.anchor := by
  unfold Inject.anchor
  split
  · exact Blind.throw _
  · exact (blind_render _).bind fun _ => Blind.pure _
  · exact (blind_render _).bind fun _ => Blind.pure _
  · exact Blind.pure _

theorem blind_inject
    (i : Inject)
    (s : Setting) :
    Blind (i.run s) := by
  have hskip (text : String) : Blind (do remark text; return Outcome.skipped : Run Outcome) :=
    (Blind.note _).bind fun _ => Blind.pure _
  have hput (target text : String) : Blind (do
      replaceFile target text
      announce "inject" (s.shown target)
      return Outcome.applied : Run Outcome) :=
    (blind_onDisk _ _).bind fun _ => (Blind.note _).bind fun _ => Blind.pure _
  unfold Inject.run
  refine (blind_resolve s i.target).bind fun target => ?_
  refine Blind.get_bind (fun w w' h => by rw [(World.silent_eq_iff.mp h).1]) fun w => ?_
  split
  · exact hskip _
  · refine (blind_anchor i).bind fun anchor => ?_
    refine (blind_readText target).bind fun content => ?_
    refine (blind_render i.text).bind fun text => ?_
    refine (blind_render? i.skip).bind fun skip => ?_
    dsimp only
    split
    · split
      · exact hskip _
      · split
        · exact hskip _
        · split
          · exact hskip _
          · exact hput _ _
    · split
      · exact hskip _
      · split
        · exact hskip _
        · exact hput _ _

theorem blind_contextModel? :
    Blind contextModel? := by
  unfold contextModel?
  refine Blind.get_bind (fun w w' h => by rw [(World.silent_eq_iff.mp h).2.2.1]) fun w => ?_
  dsimp only
  split
  · exact (Blind.note _).bind fun _ => Blind.pure _
  · exact Blind.pure _

theorem blind_enqueueAll
    (kind : Pom.EntryKind)
    (model : Option Pom.Model)
    (entries : List Pom.Entry) :
    Blind (enqueueAll kind model entries) := by
  induction entries with
  | nil => exact Blind.pure _
  | cons e rest ih =>
      unfold enqueueAll
      refine Blind.get_bind (fun w w' h => by rw [(World.silent_eq_iff.mp h).2.2.2.1]) fun w => ?_
      split
      · exact (Blind.note _).bind fun _ => ih
      · refine Blind.bind (Blind.change fun v v' h => ?_) fun _ => ih.bind fun _ => Blind.pure _
        obtain ⟨hdisk, hjobs, hcontext, hqueue, hprompter⟩ := World.silent_eq_iff.mp h
        exact World.silent_eq_iff.mpr ⟨hdisk, hjobs, hcontext, by rw [hqueue], hprompter⟩

theorem blind_enqueue
    (kind : Pom.EntryKind)
    (text : String)
    (s : Setting) :
    Blind (enqueue kind text s) := by
  unfold enqueue
  refine Blind.get_bind (fun w w' h => by rw [(World.silent_eq_iff.mp h).1]) fun w => ?_
  split
  · exact (Blind.note _).bind fun _ => Blind.pure _
  · refine (blind_render text).bind fun rendered => ?_
    refine (Blind.lift _ _).bind fun entries => ?_
    refine blind_contextModel?.bind fun model => ?_
    exact (blind_enqueueAll kind model entries).bind fun _ => Blind.pure _

/-- What a command line does depends on the files and the jobs. -/
theorem blind_execute
    (system : System)
    (request : ExecRequest) :
    Blind (execute system request) := by
  intro w w' h
  obtain ⟨hdisk, hjobs, hcontext, hqueue, hprompter⟩ := World.silent_eq_iff.mp h
  have hleft : World.silent
      { w with
        disk := (request.execute system w.disk w.jobs).disk
        jobs := (request.execute system w.disk w.jobs).jobs } =
      World.silent
        { w' with
          disk := (request.execute system w'.disk w'.jobs).disk
          jobs := (request.execute system w'.disk w'.jobs).jobs } := by
    rw [hdisk, hjobs]
    exact World.silent_eq_iff.mpr ⟨rfl, rfl, hcontext, hqueue, hprompter⟩
  unfold execute
  simp only [result_bind, result_get, result_set]
  rw [hdisk, hjobs] at hleft ⊢
  exact Blind.lift _ _ _ _ hleft

theorem blind_commandLine
    (x : Exec)
    (s : Setting) :
    Blind (x.commandLine s) := by
  unfold Exec.commandLine
  split
  · exact blind_render _
  · refine (blind_render _).bind fun file => ?_
    refine (blind_readText _).bind fun content => ?_
    split
    · exact blind_render _
    · exact Blind.throw _
  · exact Blind.throw _

theorem blind_keepStream
    (key : String)
    (text : Option String) :
    Blind (Exec.keepStream key text) := by
  cases text with
  | none => exact Blind.pure _
  | some text => exact blind_setValue _ _

theorem blind_keepFound (line path output : String) :
    Blind (Exec.keepFound line path output) := by
  unfold Exec.keepFound
  refine (blind_render path).bind fun rendered => ?_
  refine (Blind.lift _ _).bind fun query => ?_
  split
  · exact blind_setValue _ _
  · exact Blind.note _

theorem blind_exec
    (x : Exec)
    (s : Setting) :
    Blind (x.run s) := by
  have hend (outcome : ExecOutcome) (line : String) : Blind (do
      if !outcome.success then
        remark s!"'{line}' exited with code {outcome.exit}."
      return Outcome.applied : Run Outcome) := by
    dsimp only
    split
    · exact (Blind.note _).bind fun _ => Blind.pure _
    · exact Blind.pure _
  unfold Exec.run
  refine (blind_commandLine x s).bind fun line => ?_
  refine (blind_resolve? s x.directory).bind fun directory => ?_
  refine (blind_resolve? s x.output).bind fun output => ?_
  refine (blind_resolve? s x.errors).bind fun errors => ?_
  refine (Blind.note _).bind fun _ => ?_
  refine (blind_execute _ _).bind fun outcome => ?_
  refine (blind_setValue _ _).bind fun _ => ?_
  refine (blind_keepStream _ _).bind fun _ => ?_
  refine (blind_keepStream _ _).bind fun _ => ?_
  dsimp only
  split
  · split
    · exact (blind_keepFound _ _ _).bind fun _ => hend outcome line
    · exact hend outcome line
  · exact hend outcome line

theorem blind_prompt (answer : Prompter → Prompter × Except PromptError String) :
    Blind (Vars.prompt answer) := by
  refine Blind.get_bind (fun w w' h => by rw [(World.silent_eq_iff.mp h).2.2.2.2]) fun w => ?_
  refine Blind.bind (Blind.change fun v v' h => ?_) fun _ => Blind.lift _ _
  obtain ⟨hdisk, hjobs, hcontext, hqueue, -⟩ := World.silent_eq_iff.mp h
  exact World.silent_eq_iff.mpr ⟨hdisk, hjobs, hcontext, hqueue, rfl⟩

theorem blind_checkQuestions (questions : List Question) :
    Blind (Vars.checkQuestions questions) := by
  induction questions with
  | nil => exact Blind.pure _
  | cons q rest ih =>
      unfold Vars.checkQuestions
      split
      · exact ih
      · exact Blind.throw _

theorem blind_ask (q : Question) :
    Blind (Vars.ask q) := by
  unfold Vars.ask
  have hprompt (label : String) : Blind (do
      let default ← render? q.default
      if q.kind = "dropdown" then
        Vars.prompt fun p => p.select label q.choices default
      else
        Vars.prompt fun p => p.input label default) := by
    refine (blind_render? q.default).bind fun default => ?_
    split
    · exact blind_prompt _
    · exact blind_prompt _
  cases q.label with
  | some template => exact (blind_render template).bind hprompt
  | none => exact (Blind.pure q.name).bind hprompt

theorem blind_keep
    (s : Setting)
    (role key value : String) :
    Blind (Vars.keep s role key value) :=
  (blind_onDisk _ _).bind fun _ => blind_setValue _ _

theorem blind_answerOf (q : Question) :
    Blind (Vars.answerOf q) := by
  have hjudge (answer : String) : Blind (Vars.judge q answer) := by
    unfold Vars.judge
    dsimp only
    split
    · exact (Blind.note _).bind fun _ => Blind.pure _
    · exact Blind.pure _
  unfold Vars.answerOf
  refine Blind.get_bind (fun w w' h => by rw [(World.silent_eq_iff.mp h).2.2.1]) fun w => ?_
  split
  · exact (Blind.pure _).bind hjudge
  · exact (blind_ask q).bind hjudge

theorem blind_keepEach
    (s : Setting)
    (role : String)
    {steps : List (String × Run String)}
    (h : ∀ e ∈ steps, Blind e.2) :
    Blind (Vars.keepEach s role steps) := by
  induction steps with
  | nil => exact Blind.pure _
  | cons e rest ih =>
      refine (h e List.mem_cons_self).bind fun value => ?_
      exact (blind_keep s role e.1 value).bind fun _ => ih fun e he => h e (List.mem_cons_of_mem _ he)

theorem blind_vars
    (v : Vars)
    (s : Setting) :
    Blind (v.run s) := by
  have hsteps : ∀ e ∈ v.stepsBy Vars.answerOf, Blind e.2 := by
    intro e he
    rcases List.mem_append.mp he with hquestion | hdata
    · obtain ⟨q, -, rfl⟩ := List.mem_map.mp hquestion
      exact blind_answerOf q
    · obtain ⟨p, -, rfl⟩ := List.mem_map.mp hdata
      exact blind_render _
  rw [Vars.run_eq_runBy]
  unfold Vars.runBy Vars.conclude
  refine (blind_checkQuestions _).bind fun _ => ?_
  refine (blind_render? v.role).bind fun role => ?_
  refine (blind_keepEach s _ hsteps).bind fun _ => ?_
  dsimp only
  split
  · exact Blind.pure _
  · exact (Blind.note _).bind fun _ => Blind.pure _

/-! ## Runs -/

theorem blind_perform
    (a : Action)
    (s : Setting) :
    Blind (a.perform s) := by
  cases a with
  | generate g => exact blind_generate g s
  | inject i => exact blind_inject i s
  | entry kind text => exact blind_enqueue kind text s
  | exec x => exact blind_exec x s
  | vars v => exact blind_vars v s

theorem blind_runOrSettle
    (a : Action)
    (s : Setting) :
    Blind (a.runOrSettle s) := by
  have hflush : Blind (do let _ ← flush s : Run Unit) := (blind_flush s).bind fun _ => Blind.pure _
  refine Blind.tryCatch ?_ fun e => ?_
  · unfold Action.run
    dsimp only
    split
    · exact (blind_flush s).bind fun _ => blind_perform a s
    · exact blind_perform a s
  · exact (Blind.tryCatch hflush fun f => Blind.note _).bind fun _ => Blind.throw e

theorem blind_runActions
    (s : Setting)
    (r : Summary)
    (actions : List Action) :
    Blind (runActions s r actions) := by
  induction actions generalizing r with
  | nil => exact Blind.pure _
  | cons a rest ih =>
      unfold runActions
      exact (blind_runOrSettle a s).bind fun outcome => ih _

theorem blind_checkArtifact
    (s : Setting)
    (shown : String)
    (artifact : Option String) :
    Blind (checkArtifact s shown artifact) := by
  cases artifact with
  | none => exact Blind.pure _
  | some template =>
      unfold checkArtifact
      refine (blind_flush s).bind fun _ => ?_
      refine (blind_render template).bind fun rendered => ?_
      refine blind_contextModel?.bind fun model => ?_
      split
      · exact Blind.throw _
      · exact Blind.pure _

theorem blind_runFile
    (s : Setting)
    (r : Summary)
    (path : String)
    (f : ActionFile) :
    Blind (runFile s r path f) := by
  unfold runFile
  refine (blind_checkArtifact s _ _).bind fun _ => ?_
  dsimp only
  split
  · exact (Blind.note _).bind fun _ => Blind.pure _
  · exact blind_runActions _ _ _

/-- For a run of files the notes do not matter. -/
theorem blind_runFiles
    (s : Setting)
    (r : Summary)
    (files : List (String × ActionFile)) :
    Blind (runFiles s r files) := by
  induction files generalizing r with
  | nil =>
      unfold runFiles
      exact (blind_flush s).bind fun _ => Blind.pure _
  | cons file rest ih =>
      unfold runFiles
      exact (blind_runFile s r file.1 file.2).bind fun next => ih next

end Run
end Runbook
