import Runbook.Proofs.Action.Reading
import Runbook.Proofs.Run.Injection
import Runbook.Proofs.Run.Truncation

/-!
# Actions that are read are fit to be run

An action that an action file declares has the shape that is asked for when it is run. However it
is run, it does not end with the complaint that its shape is wrong, except for one case that only shows
when it is run: the command line is to be read from a file that holds nothing but blanks.

Main statement: `exists_fit_records`.
-/

namespace Runbook

open Run

namespace Run

/-! ## Steps that find no fault with an action -/

/-- A step does not end with the complaint that an action is invalid. -/
def Accepts {α : Type} (m : Run α) : Prop :=
  ∀ w kind reason, (result m w).1 ≠ .error (.invalidAction kind reason)

namespace Accepts

variable {α β : Type}

theorem of_hard
    {m : Run α}
    (h : Hard m) :
    Accepts m := by
  intro w kind reason he
  have hrefusal := h w _ he
  cases hrefusal

theorem lift
    {ε : Type}
    {wrap : ε → RunError}
    (h : ∀ e kind reason, wrap e ≠ .invalidAction kind reason)
    (r : Except ε α) :
    Accepts (Run.lift wrap r) := by
  intro w kind reason he
  cases r with
  | ok a => cases he
  | error e => exact h e kind reason (Except.error.inj he)

variable {m : Run α}
variable {f : α → Run β}
variable {w : World}
variable {kind reason : String}

/-- Behind a step without a complaint, a complaint is one of what comes after it. -/
theorem exists_of_bind
    (hm : Accepts m)
    (h : (result (m >>= f) w).1 = .error (.invalidAction kind reason)) :
    ∃ a w₁, result m w = (.ok a, w₁) ∧
      (result (f a) w₁).1 = .error (.invalidAction kind reason) := by
  rw [result_bind] at h
  rcases hfirst : result m w with ⟨e | a, w₁⟩
  · rw [hfirst] at h
    cases h
    exact absurd (by rw [hfirst]) (hm w kind reason)
  · rw [hfirst] at h
    exact ⟨a, w₁, rfl, h⟩

/-- The same where the step leaves the state. -/
theorem exists_of_bind_keeps
    (hm : Accepts m)
    (hkeeps : Keeps id m)
    (h : (result (m >>= f) w).1 = .error (.invalidAction kind reason)) :
    ∃ a, result m w = (.ok a, w) ∧ (result (f a) w).1 = .error (.invalidAction kind reason) := by
  obtain ⟨a, w₁, ha, hrest⟩ := hm.exists_of_bind h
  have hkept := hkeeps w
  rw [ha] at hkept
  obtain rfl : w₁ = w := hkept
  exact ⟨a, ha, hrest⟩

theorem bind
    (hm : Accepts m)
    (hf : ∀ a, Accepts (f a)) :
    Accepts (m >>= f) := by
  intro w kind reason h
  obtain ⟨a, w₁, -, hrest⟩ := hm.exists_of_bind h
  exact hf a w₁ kind reason hrest

theorem pure (a : α) :
    Accepts (Pure.pure a : Run α) :=
  of_hard (Hard.pure a)

theorem get :
    Accepts (MonadState.get : Run World) :=
  of_hard Hard.get

theorem note (n : Note) :
    Accepts (Run.note n) :=
  of_hard (Hard.note n)

theorem render (template : String) :
    Accepts (Run.render template) :=
  get.bind fun _ => lift (by simp) _

theorem render? (template : Option String) :
    Accepts (Run.render? template) := by
  cases template with
  | none => exact pure _
  | some template => exact (render template).bind fun _ => pure _

theorem resolve
    (s : Setting)
    (template : String) :
    Accepts (Run.resolve s template) :=
  (render template).bind fun _ => lift (by simp) _

theorem resolve?
    (s : Setting)
    (template : Option String) :
    Accepts (Run.resolve? s template) := by
  cases template with
  | none => exact pure _
  | some template => exact (resolve s template).bind fun _ => pure _

theorem readText (path : String) :
    Accepts (Run.readText path) :=
  get.bind fun _ => lift (by simp) _

end Accepts

/-- A complaint of a step and what comes after it, which has none, is one of the step. -/
theorem bind_eq_invalidAction_iff
    {α β : Type}
    {m : Run α}
    {f : α → Run β}
    (hf : ∀ a, Accepts (f a))
    {w : World}
    {kind reason : String} :
    (result (m >>= f) w).1 = .error (.invalidAction kind reason) ↔
      (result m w).1 = .error (.invalidAction kind reason) := by
  rw [result_bind]
  rcases result m w with ⟨e | a, w₁⟩
  · simp
  · simpa using hf a w₁ kind reason

/-! ## What actions do -/

/-- A source is found for a file that is generated in the right shape. -/
theorem accepts_source
    {g : Generate}
    (hshaped : (Action.generate g).WellShaped)
    (s : Setting) :
    Accepts (g.source s) := by
  obtain ⟨text, template, target, overwrite⟩ := g
  unfold Generate.source
  split
  · exact Accepts.pure _
  · exact (Accepts.render _).bind fun _ => Accepts.readText _
  · simp_all [Action.WellShaped]

theorem accepts_generate
    {g : Generate}
    (hshaped : (Action.generate g).WellShaped)
    (s : Setting) :
    Accepts (g.run s) := by
  unfold Generate.run
  refine (Accepts.resolve s g.target).bind fun target => Accepts.get.bind fun w => ?_
  split
  · exact (Accepts.note _).bind fun _ => Accepts.pure _
  · refine (accepts_source hshaped s).bind fun template => ?_
    refine (Accepts.render template).bind fun content => ?_
    exact Accepts.of_hard
      ((hard_replaceFile target content).bind fun _ => (Hard.note _).bind fun _ => Hard.pure _)

theorem accepts_anchor
    {i : Inject}
    (hshaped : (Action.inject i).WellShaped) :
    Accepts i.anchor := by
  unfold Inject.anchor
  split
  · simp_all [Action.WellShaped]
  · exact (Accepts.render _).bind fun _ => Accepts.pure _
  · exact (Accepts.render _).bind fun _ => Accepts.pure _
  · exact Accepts.pure _

theorem accepts_inject
    {i : Inject}
    (hshaped : (Action.inject i).WellShaped)
    (s : Setting) :
    Accepts (i.run s) := by
  have hskip (text : String) : Accepts (do remark text; return Outcome.skipped : Run Outcome) :=
    (Accepts.note _).bind fun _ => Accepts.pure _
  have hput (target text : String) : Accepts (do
      replaceFile target text
      announce "inject" (s.shown target)
      return Outcome.applied : Run Outcome) :=
    (Accepts.of_hard (hard_replaceFile target text)).bind fun _ =>
      (Accepts.note _).bind fun _ => Accepts.pure _
  unfold Inject.run
  refine (Accepts.resolve s i.target).bind fun target => Accepts.get.bind fun w => ?_
  split
  · exact hskip _
  · refine (accepts_anchor hshaped).bind fun anchor => ?_
    refine (Accepts.readText target).bind fun content => ?_
    refine (Accepts.render i.text).bind fun text => ?_
    refine (Accepts.render? i.skip).bind fun skip => ?_
    dsimp only
    split
    · split
      · exact hskip _
      · split
        · exact hskip _
        · split
          · exact hskip _
          · exact hput _ _
    · split
      · exact hskip _
      · split
        · exact hskip _
        · exact hput _ _

theorem accepts_enqueue
    (kind : Pom.EntryKind)
    (text : String)
    (s : Setting) :
    Accepts (enqueue kind text s) := by
  unfold enqueue
  refine Accepts.get.bind fun w => ?_
  split
  · exact (Accepts.note _).bind fun _ => Accepts.pure _
  · refine (Accepts.render text).bind fun rendered => ?_
    refine (Accepts.lift (by simp) _).bind fun entries => ?_
    refine Accepts.bind ?_ fun model =>
      (Accepts.of_hard (hard_enqueueAll kind model entries)).bind fun _ => Accepts.pure _
    intro w' kind' reason he
    obtain ⟨w'', hresult, -⟩ := exists_result_contextModel? w'
    rw [hresult] at he
    cases he

/-! ### Asking for values -/

theorem accepts_keep
    (s : Setting)
    (role key value : String) :
    Accepts (Vars.keep s role key value) :=
  Accepts.of_hard ((Hard.onDisk (fun _ => rfl) _).bind fun _ => Hard.change _)

theorem accepts_ask (q : Question) :
    Accepts (Vars.ask q) := by
  have hprompt (answer : Prompter → Prompter × Except PromptError String) :
      Accepts (Vars.prompt answer) :=
    Accepts.of_hard (Hard.get.bind fun _ => (Hard.change _).bind fun _ => Hard.lift (fun _ => rfl) _)
  have hrest (label : String) : Accepts (do
      let default ← render? q.default
      if q.kind = "dropdown" then Vars.prompt fun p => p.select label q.choices default
      else Vars.prompt fun p => p.input label default) := by
    refine (Accepts.render? q.default).bind fun default => ?_
    split
    · exact hprompt _
    · exact hprompt _
  unfold Vars.ask
  dsimp only
  split
  · exact (Accepts.render _).bind hrest
  · exact (Accepts.pure _).bind hrest

theorem accepts_answerAll
    (s : Setting)
    (role : String)
    (questions : List Question) :
    Accepts (Vars.answerAll s role questions) := by
  induction questions with
  | nil => exact Accepts.pure _
  | cons q rest ih =>
      unfold Vars.answerAll
      refine Accepts.get.bind fun w => ?_
      have hkeep (answer : String) : Accepts (do
          Vars.keep s role q.name answer
          Vars.answerAll s role rest) :=
        (accepts_keep s role q.name answer).bind fun _ => ih
      have hrest (answer : String) : Accepts (do
          if !q.choices.isEmpty && !Dict.has q.choices answer then
            warn (.foreignAnswer answer q.name)
          Vars.keep s role q.name answer
          Vars.answerAll s role rest) := by
        dsimp only
        split
        · exact (Accepts.note _).bind fun _ => hkeep answer
        · exact hkeep answer
      dsimp only
      split
      · exact (Accepts.pure _).bind hrest
      · exact (accepts_ask q).bind hrest

theorem accepts_keepAll
    (s : Setting)
    (role : String)
    (data : Dict String) :
    Accepts (Vars.keepAll s role data) := by
  induction data with
  | nil => exact Accepts.pure _
  | cons p rest ih =>
      unfold Vars.keepAll
      exact (Accepts.render _).bind fun value => (accepts_keep s role p.1 value).bind fun _ => ih

theorem accepts_checkQuestions (questions : List Question) :
    Accepts (Vars.checkQuestions questions) := by
  induction questions with
  | nil => exact Accepts.pure _
  | cons q rest ih =>
      unfold Vars.checkQuestions
      split
      · exact ih
      · intro w kind reason he
        cases he

theorem accepts_vars
    (v : Vars)
    (s : Setting) :
    Accepts (v.run s) := by
  unfold Vars.run
  refine (accepts_checkQuestions _).bind fun _ => (Accepts.render? _).bind fun role => ?_
  refine (accepts_answerAll s _ _).bind fun _ => (accepts_keepAll s _ _).bind fun _ => ?_
  dsimp only
  split
  · exact Accepts.pure _
  · exact (Accepts.note _).bind fun _ => Accepts.pure _

/-! ### Running command lines -/

theorem firstCommand?_eq_none_iff
    {content : String} :
    Exec.firstCommand? content = none ↔
      ∀ line ∈ Text.lines content.toList, Text.allBlank line = true := by
  simp [Exec.firstCommand?, List.find?_eq_none, Text.trim_eq_nil_iff]

/-- The command line of an action is to be read from a file, and the file holds nothing but blanks. -/
def Commandless
    (x : Exec)
    (s : Setting)
    (w : World)
    (path : String) :
    Prop :=
  x.command = none ∧
    ∃ file name content, x.commandFile = some file ∧ Template.render w.context file = .ok name ∧
      path = Path.join s.actionDirectory name ∧ w.disk.readText path = .ok content ∧
      ∀ line ∈ Text.lines content.toList, Text.allBlank line = true

/-- Only a file without a command is a reason to complain. -/
theorem commandLine_eq_invalidAction_iff
    {x : Exec}
    (hshaped : (Action.exec x).WellShaped)
    {s : Setting}
    {w : World}
    {kind reason : String} :
    (result (x.commandLine s) w).1 = .error (.invalidAction kind reason) ↔
      ∃ path, Commandless x s w path ∧ kind = "exec" ∧
        reason = s!"'{path}' contains no command" := by
  unfold Exec.commandLine
  split
  · rename_i command hcommand
    constructor
    · exact fun h => absurd h (Accepts.render command w kind reason)
    · rintro ⟨path, ⟨hnone, -⟩, -⟩
      simp [hcommand] at hnone
  · rename_i file hcommand hfile
    constructor
    · intro h
      obtain ⟨name, hname, h⟩ := (Accepts.render file).exists_of_bind_keeps (keeps_render file) h
      obtain ⟨content, hcontent, h⟩ :=
        (Accepts.readText _).exists_of_bind_keeps (keeps_readText _) h
      split at h
      · exact absurd h (Accepts.render _ _ kind reason)
      · rename_i hnone
        cases h
        exact ⟨_, ⟨hcommand, file, name, content, hfile, render_of_result hname, rfl,
          readText_of_result hcontent, firstCommand?_eq_none_iff.mp hnone⟩, rfl, rfl⟩
    · rintro ⟨path, ⟨-, file', name, content, hsame, hname, rfl, hread, hblank⟩, rfl, rfl⟩
      obtain rfl : file = file' := Option.some.inj (hfile.symm.trans hsame)
      rw [result_bind, result_render hname]
      dsimp only
      rw [result_bind, result_readText hread]
      dsimp only
      rw [firstCommand?_eq_none_iff.mpr hblank]
      rfl
  · simp_all [Action.WellShaped]

theorem accepts_execute
    (system : System)
    (request : ExecRequest) :
    Accepts (execute system request) := by
  have hset (w : World) : Accepts (set w : Run Unit) := by
    intro w' kind reason h
    cases h
  exact Accepts.get.bind fun w => (hset _).bind fun _ => Accepts.lift (by simp) _

theorem accepts_keepFound (line path output : String) :
    Accepts (Exec.keepFound line path output) := by
  unfold Exec.keepFound
  refine (Accepts.render path).bind fun rendered => (Accepts.lift (by simp) _).bind fun query => ?_
  split
  · exact Accepts.of_hard (Hard.change _)
  · exact Accepts.note _

theorem accepts_keepStream
    (key : String)
    (text : Option String) :
    Accepts (Exec.keepStream key text) := by
  cases text with
  | none => exact Accepts.pure _
  | some text => exact Accepts.of_hard (Hard.change _)

/-- With its command line, an action is run without a complaint. -/
theorem exec_eq_invalidAction_iff
    {x : Exec}
    {s : Setting}
    {w : World}
    {kind reason : String} :
    (result (x.run s) w).1 = .error (.invalidAction kind reason) ↔
      (result (x.commandLine s) w).1 = .error (.invalidAction kind reason) := by
  refine bind_eq_invalidAction_iff fun line => ?_
  refine (Accepts.resolve? s _).bind fun directory => ?_
  refine (Accepts.resolve? s _).bind fun output => (Accepts.resolve? s _).bind fun errors => ?_
  refine (Accepts.note _).bind fun _ => (accepts_execute s.system _).bind fun outcome => ?_
  refine (Accepts.of_hard (Hard.change _)).bind fun _ => ?_
  refine (accepts_keepStream _ _).bind fun _ => (accepts_keepStream _ _).bind fun _ => ?_
  have hend : Accepts (do
      if !outcome.success then
        remark s!"'{line}' exited with code {outcome.exit}."
      return Outcome.applied : Run Outcome) := by
    dsimp only
    split
    · exact (Accepts.note _).bind fun _ => Accepts.pure _
    · exact Accepts.pure _
  dsimp only
  split
  · split
    · exact (accepts_keepFound _ _ _).bind fun _ => hend
    · exact hend
  · exact hend

/-! ## Actions of a file -/

/-- An action of the right shape is invalid only as one that finds no command. -/
theorem perform_eq_invalidAction_iff
    {a : Action}
    (hshaped : a.WellShaped)
    {s : Setting}
    {w : World}
    {kind reason : String} :
    (result (a.perform s) w).1 = .error (.invalidAction kind reason) ↔
      ∃ x path, a = .exec x ∧ Commandless x s w path ∧ kind = "exec" ∧
        reason = s!"'{path}' contains no command" := by
  have hnever (h : Accepts (a.perform s)) (hne : ∀ x, a ≠ .exec x) :
      (result (a.perform s) w).1 = .error (.invalidAction kind reason) ↔
        ∃ x path, a = .exec x ∧ Commandless x s w path ∧ kind = "exec" ∧
          reason = s!"'{path}' contains no command" := by
    constructor
    · exact fun he => absurd he (h w kind reason)
    · rintro ⟨x, -, ha, -⟩
      exact absurd ha (hne x)
  cases a with
  | generate g => exact hnever (accepts_generate hshaped s) (by simp)
  | inject i => exact hnever (accepts_inject hshaped s) (by simp)
  | entry kind text => exact hnever (accepts_enqueue kind text s) (by simp)
  | exec x =>
      have hrun : (result (x.run s) w).1 = .error (.invalidAction kind reason) ↔ _ :=
        exec_eq_invalidAction_iff.trans (commandLine_eq_invalidAction_iff hshaped)
      simpa [Action.perform] using hrun
  | vars v => exact hnever (accepts_vars v s) (by simp)

/-- An action is invalid when it is on the state that it finds, behind what was queued. -/
theorem run_eq_invalidAction_iff
    {a : Action}
    (hshaped : a.WellShaped)
    {s : Setting}
    {w : World}
    {kind reason : String} :
    (result (a.run s) w).1 = .error (.invalidAction kind reason) ↔
      ∃ x n w₁ path, a = .exec x ∧ result (flush s) w = (.ok n, w₁) ∧ Commandless x s w₁ path ∧
        kind = "exec" ∧ reason = s!"'{path}' contains no command" := by
  rw [Action.run]
  cases hqueued : a.isQueued with
  | true =>
      -- Queueing does not write the queue first, and has no complaint.
      rw [Bool.not_true, if_neg Bool.false_ne_true, perform_eq_invalidAction_iff hshaped]
      constructor
      · rintro ⟨x, -, rfl, -⟩
        cases hqueued
      · rintro ⟨x, -, -, -, rfl, -⟩
        cases hqueued
  | false =>
      rw [Bool.not_false, if_pos rfl]
      constructor
      · intro h
        obtain ⟨n, w₁, hflush, h⟩ := (Accepts.of_hard (hard_flush s)).exists_of_bind h
        obtain ⟨x, path, ha, hblank, htext⟩ := (perform_eq_invalidAction_iff hshaped).mp h
        exact ⟨x, n, w₁, path, ha, hflush, hblank, htext⟩
      · rintro ⟨x, n, w₁, path, ha, hflush, hblank, htext⟩
        rw [result_bind, hflush]
        exact (perform_eq_invalidAction_iff hshaped).mpr ⟨x, path, ha, hblank, htext⟩

/-- What is settled behind a failing action does not replace its error. -/
theorem fst_result_runOrSettle
    (a : Action)
    (s : Setting)
    (w : World) :
    (result (a.runOrSettle s) w).1 = (result (a.run s) w).1 := by
  rw [Action.runOrSettle, result_tryCatch]
  rcases result (a.run s) w with ⟨e | outcome, w₁⟩
  · obtain ⟨left, hsettled, -⟩ := exists_settled Outcome s w₁ e
    dsimp only
    rw [hsettled]
  · rfl

/-- The actions of a file come one by one from its records, and none of them is found invalid when it is
run, apart from one whose command file holds no command; and a file with a record that is misshapen
is none. -/
theorem exists_fit_records
    (v : Yaml.Value) :
    (∀ f, ActionFile.ofValue v = .ok f →
        ∃ items, ActionFile.Records v items ∧
          List.Forall₂ Action.ComesFrom items f.actions ∧
          ∀ a ∈ f.actions, ∀ s w,
            (result (a.runOrSettle s) w).1 = (result (a.run s) w).1 ∧
              ∀ kind reason,
                (result (a.run s) w).1 = .error (.invalidAction kind reason) ↔
                  ∃ x n w₁ path, a = .exec x ∧ result (flush s) w = (.ok n, w₁) ∧
                    Commandless x s w₁ path ∧ kind = "exec" ∧
                    reason = s!"'{path}' contains no command") ∧
      ∀ items, ActionFile.Records v items → ∀ item ∈ items, Action.Misshapen item →
        ∃ e, ActionFile.ofValue v = .error e := by
  constructor
  · intro f hf
    obtain ⟨items, hrecords, hrows⟩ := ActionFile.exists_records_of_ofValue hf
    refine ⟨items, hrecords, hrows, fun a ha s w => ⟨fst_result_runOrSettle a s w, ?_⟩⟩
    obtain ⟨item, -, hcomes⟩ := exists_of_mem_forall₂ hrows.flip ha
    exact fun kind reason => run_eq_invalidAction_iff hcomes.shaped
  · exact fun items hrecords item hitem hbad =>
      ActionFile.exists_error_of_misshapen hrecords hitem hbad

end Run
end Runbook
