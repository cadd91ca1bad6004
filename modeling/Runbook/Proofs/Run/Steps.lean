import Mathlib.Tactic
import Runbook.Run.World

/-!
# Steps of a run

A step takes a state to an end, which is a result or an error, and to the state that it leaves. Four
properties of steps carry over from the parts of a step to the whole: that it changes nothing but the
notes, that it changes nothing but the notes when it refuses, that it never refuses, and that the
notes do not matter for it. To refuse is to end with an error about what is asked for: a condition, a
template, an entry or an action. Every other error is about the machine.
-/

namespace Runbook

/-- Whether an error is about what is asked for. -/
def RunError.isRefusal : RunError → Bool
  | .unsatisfied _ _ => true
  | .template _ => true
  | .entry _ => true
  | .invalidAction _ _ => true
  | _ => false

/-- A state without its notes. -/
def World.silent (w : World) : World :=
  { w with notes := [] }

theorem World.silent_eq_iff
    {w w' : World} :
    w.silent = w'.silent ↔
      w.disk = w'.disk ∧ w.jobs = w'.jobs ∧ w.context = w'.context ∧ w.queue = w'.queue ∧
        w.prompter = w'.prompter := by
  simp [World.silent]

namespace Run

/-- How a step ends on a state, and the state that it leaves. -/
def result
    {α : Type}
    (m : Run α)
    (w : World) :
    Except RunError α × World :=
  m w

section Equations

variable {α β : Type}
variable (w : World)

@[simp] theorem result_pure (a : α) :
    result (pure a) w = (.ok a, w) := by
  rfl

@[simp] theorem result_throw (e : RunError) :
    result (throw e : Run α) w = (.error e, w) := by
  rfl

@[simp] theorem result_get :
    result get w = (.ok w, w) := by
  rfl

@[simp] theorem result_modify (f : World → World) :
    result (modify f : Run Unit) w = (.ok (), f w) := by
  rfl

@[simp] theorem result_set (w' : World) :
    result (set w' : Run Unit) w = (.ok (), w') := by
  rfl

theorem result_bind
    (m : Run α)
    (f : α → Run β) :
    result (m >>= f) w =
      match result m w with
      | (.ok a, w') => result (f a) w'
      | (.error e, w') => (.error e, w') := by
  have hstep : result (m >>= f) w = ExceptT.bindCont f (result m w).1 (result m w).2 := rfl
  rw [hstep]
  rcases result m w with ⟨e | a, w'⟩ <;> rfl

/-- When a step and what follows it go well, both of them go well. -/
theorem exists_of_bind
    {w w' : World}
    {m : Run α}
    {f : α → Run β}
    {b : β}
    (h : result (m >>= f) w = (.ok b, w')) :
    ∃ a w₁, result m w = (.ok a, w₁) ∧ result (f a) w₁ = (.ok b, w') := by
  rw [result_bind] at h
  rcases hm : result m w with ⟨e | a, w₁⟩
  · rw [hm] at h
    cases h
  · rw [hm] at h
    exact ⟨a, w₁, rfl, h⟩

@[simp] theorem result_map
    (f : α → β)
    (m : Run α) :
    result (f <$> m) w = ((result m w).1.map f, (result m w).2) := by
  rw [map_eq_pure_bind, result_bind]
  rcases result m w with ⟨e | a, w'⟩ <;> rfl

theorem result_tryCatch
    (m : Run α)
    (f : RunError → Run α) :
    result (tryCatch m f) w =
      match result m w with
      | (.ok a, w') => (.ok a, w')
      | (.error e, w') => result (f e) w' := by
  unfold result
  simp only [tryCatch, tryCatchThe, MonadExceptOf.tryCatch, ExceptT.tryCatch, ExceptT.mk, bind,
    StateT.bind]
  rcases m w with ⟨e | a, w'⟩ <;> rfl

@[simp] theorem result_note (n : Note) :
    result (note n) w = (.ok (), { w with notes := n :: w.notes }) := by
  rfl

@[simp] theorem result_lift_ok
    {ε : Type}
    (wrap : ε → RunError)
    (a : α) :
    result (lift wrap (.ok a)) w = (.ok a, w) := by
  rfl

@[simp] theorem result_lift_error
    {ε : Type}
    (wrap : ε → RunError)
    (e : ε) :
    result (lift wrap (.error e) : Run α) w = (.error (wrap e), w) := by
  rfl

end Equations

/-! ## What a step leaves as it was -/

/-- A step leaves a part of the state as it was, however it ends. -/
def Keeps
    {α β : Type}
    (part : World → β)
    (m : Run α) :
    Prop :=
  ∀ w, part (result m w).2 = part w

namespace Keeps

variable {α β γ : Type}
variable {part : World → γ}

theorem pure (a : α) :
    Keeps part (Pure.pure a : Run α) :=
  fun _ => rfl

theorem throw (e : RunError) :
    Keeps part (MonadExcept.throw e : Run α) :=
  fun _ => rfl

theorem get :
    Keeps part (MonadState.get : Run World) :=
  fun _ => rfl

theorem lift
    {ε : Type}
    (wrap : ε → RunError)
    (r : Except ε α) :
    Keeps part (Run.lift wrap r) := by
  intro w
  cases r <;> rfl

theorem bind
    {m : Run α}
    {f : α → Run β}
    (hm : Keeps part m)
    (hf : ∀ a, Keeps part (f a)) :
    Keeps part (m >>= f) := by
  intro w
  have hfirst := hm w
  rw [result_bind]
  generalize result m w = r at hfirst ⊢
  obtain ⟨e | a, w'⟩ := r
  · exact hfirst
  · exact (hf a w').trans hfirst

end Keeps

section Reading

variable {α β : Type}
variable {w w' : World}
variable {m : Run α}
variable {f : α → Run β}

/-- When a step that leaves the state goes well with what follows it, that follows on the same state. -/
theorem Keeps.exists_of_bind
    (hm : Keeps id m)
    {b : β}
    (h : result (m >>= f) w = (.ok b, w')) :
    ∃ a, result m w = (.ok a, w) ∧ result (f a) w = (.ok b, w') := by
  obtain ⟨a, w₁, ha, hb⟩ := Run.exists_of_bind h
  have hkept := hm w
  rw [ha] at hkept
  obtain rfl : w₁ = w := hkept
  exact ⟨a, ha, hb⟩

/-- What follows a step that leaves the state may be replaced by what does the same there. -/
theorem Keeps.result_bind_congr
    (hm : Keeps id m)
    {g : α → Run β}
    (h : ∀ a, result (f a) w = result (g a) w) :
    result (m >>= f) w = result (m >>= g) w := by
  have hkept := hm w
  rw [result_bind, result_bind]
  generalize result m w = r at hkept ⊢
  obtain ⟨e | a, w₁⟩ := r
  · rfl
  · obtain rfl : w₁ = w := hkept
    exact h a

/-- Behind a step that leaves the state, nothing changes if nothing changes behind it when it goes
well. -/
theorem Keeps.silent_of_bind
    (hm : Keeps id m)
    (hf : ∀ a, result m w = (.ok a, w) → (result (f a) w).2.silent = w.silent) :
    (result (m >>= f) w).2.silent = w.silent := by
  have hkept := hm w
  rw [result_bind]
  rcases hresult : result m w with ⟨e | a, w₁⟩
  · rw [hresult] at hkept
    exact congrArg World.silent hkept
  · rw [hresult] at hkept
    obtain rfl : w₁ = w := hkept
    exact hf a hresult

end Reading

/-! ## Steps that never refuse -/

/-- A step never refuses. -/
def Hard {α : Type} (m : Run α) : Prop :=
  ∀ w e, (result m w).1 = .error e → e.isRefusal = false

namespace Hard

variable {α β : Type}

theorem pure (a : α) :
    Hard (Pure.pure a : Run α) := by
  intro w e h
  cases h

theorem change (f : World → World) :
    Hard (modify f : Run Unit) := by
  intro w e h
  cases h

theorem note (n : Note) :
    Hard (Run.note n) := by
  intro w e h
  cases h

theorem get :
    Hard (MonadState.get : Run World) := by
  intro w e h
  cases h

theorem lift
    {ε : Type}
    {wrap : ε → RunError}
    (h : ∀ e, (wrap e).isRefusal = false)
    (r : Except ε α) :
    Hard (Run.lift wrap r) := by
  intro w e he
  cases r with
  | ok a => cases he
  | error e' =>
      cases he
      exact h e'

theorem bind
    {m : Run α}
    {f : α → Run β}
    (hm : Hard m)
    (hf : ∀ a, Hard (f a)) :
    Hard (m >>= f) := by
  intro w e h
  have hfirst := hm w
  rw [result_bind] at h
  generalize result m w = r at hfirst h
  obtain ⟨e' | a, w'⟩ := r
  · cases h
    exact hfirst e rfl
  · exact hf a w' e h

theorem onDisk
    {ε : Type}
    {wrap : ε → RunError}
    (h : ∀ e, (wrap e).isRefusal = false)
    (edit : Disk → Disk × Except ε α) :
    Hard (Run.onDisk wrap edit) :=
  get.bind fun _ => (change _).bind fun _ => lift h _

end Hard

/-! ## Steps that refuse before they do anything -/

/-- A step that refuses has changed nothing but the notes. -/
def Refuses {α : Type} (m : Run α) : Prop :=
  ∀ w e, (result m w).1 = .error e → e.isRefusal = true → (result m w).2.silent = w.silent

namespace Refuses

variable {α β : Type}

theorem of_hard
    {m : Run α}
    (h : Hard m) :
    Refuses m := by
  intro w e he hrefusal
  rw [h w e he] at hrefusal
  cases hrefusal

/-- What changes nothing may come before. -/
theorem bind
    {m : Run α}
    {f : α → Run β}
    (hm : Keeps World.silent m)
    (hf : ∀ a, Refuses (f a)) :
    Refuses (m >>= f) := by
  intro w e h hrefusal
  have hfirst := hm w
  rw [result_bind] at h ⊢
  generalize result m w = r at hfirst h ⊢
  obtain ⟨e' | a, w'⟩ := r
  · exact hfirst
  · exact (hf a w' e h hrefusal).trans hfirst

end Refuses

/-! ## Steps for which the notes do not matter -/

/-- A step does the same whatever has been noted. -/
def Blind {α : Type} (m : Run α) : Prop :=
  ∀ w w' : World, w.silent = w'.silent →
    (result m w).1 = (result m w').1 ∧ (result m w).2.silent = (result m w').2.silent

namespace Blind

variable {α β : Type}

theorem pure (a : α) :
    Blind (Pure.pure a : Run α) :=
  fun _ _ h => ⟨rfl, h⟩

theorem lift
    {ε : Type}
    (wrap : ε → RunError)
    (r : Except ε α) :
    Blind (Run.lift wrap r) := by
  intro w w' h
  cases r <;> exact ⟨rfl, h⟩

theorem note (n : Note) :
    Blind (Run.note n) :=
  fun _ _ h => ⟨rfl, h⟩

theorem change
    {f : World → World}
    (hf : ∀ w w' : World, w.silent = w'.silent → (f w).silent = (f w').silent) :
    Blind (modify f : Run Unit) :=
  fun w w' h => ⟨rfl, hf w w' h⟩

theorem bind
    {m : Run α}
    {f : α → Run β}
    (hm : Blind m)
    (hf : ∀ a, Blind (f a)) :
    Blind (m >>= f) := by
  intro w w' h
  obtain ⟨hend, hleft⟩ := hm w w' h
  rw [result_bind, result_bind]
  generalize result m w = r at hend hleft ⊢
  generalize result m w' = r' at hend hleft ⊢
  obtain ⟨o, v⟩ := r
  obtain ⟨o', v'⟩ := r'
  obtain rfl : o = o' := hend
  cases o with
  | error e => exact ⟨rfl, hleft⟩
  | ok a => exact hf a v v' hleft

/-- A step may look at the state, but not at the notes. -/
theorem get_bind
    {f : World → Run α}
    (hsame : ∀ w w' : World, w.silent = w'.silent → f w = f w')
    (hf : ∀ w, Blind (f w)) :
    Blind (MonadState.get >>= f) := by
  intro w w' h
  have hsee (v : World) : result (MonadState.get >>= f) v = result (f v) v := by
    rw [result_bind]
    rfl
  rw [hsee, hsee, hsame w w' h]
  exact hf w' w w' h

end Blind

end Run
end Runbook
