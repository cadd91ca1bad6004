import Runbook.Proofs.Run.Progress

/-!
# A text is put into a file once

An injection whose target is a text and whose templates render has one of two ends. It is skipped, and
changes nothing, if the file holds the text to skip for or the text to put in, or if no line has the
marker. Otherwise the text goes in where the anchor tells. Then the file holds it, so the same injection
is skipped from there on.

Main statements: `Inject.run_once`, `Inject.silent_run_of_spared` and `Inject.disk_ne_of_not_spared`.
-/

namespace Runbook

open Text Run

namespace Inject

/-! ## What is asked for -/

/-- The anchor of an injection that names one marker at most, with the marker rendered. -/
inductive AnchoredAt
    (i : Inject)
    (c : Context) :
    Option Anchor → Prop
  | atEnd
      (after : i.after = none)
      (before : i.before = none) :
      AnchoredAt i c none
  | after {template marker : String}
      (after : i.after = some template)
      (before : i.before = none)
      (rendered : Template.render c template = .ok marker) :
      AnchoredAt i c (some (.after marker))
  | before {template marker : String}
      (after : i.after = none)
      (before : i.before = some template)
      (rendered : Template.render c template = .ok marker) :
      AnchoredAt i c (some (.before marker))

/-- An injection into a file with a text, all templates of which render. -/
structure Ready
    (i : Inject)
    (s : Setting)
    (w : World)
    (target content text : String)
    (anchor : Option Anchor)
    (skip : Option String) : Prop where
  target_resolves : Resolves s w.context i.target target
  is_file : w.disk.isFile target = true
  readable : w.disk.readText target = .ok content
  anchored : i.AnchoredAt w.context anchor
  text_renders : Template.render w.context i.text = .ok text
  skip_renders : i.skip.mapM (Template.render w.context) = .ok skip

/-- What an injection is skipped for: the file holds the text that is named for it or the text to put in,
or no line of the file has the marker. -/
inductive Spared
    (content text : List Char)
    (anchor : Option Anchor)
    (skip : Option String) : Prop
  | named {guard : String}
      (given : skip = some guard)
      (nonempty : guard ≠ "")
      (held : guard.toList <:+: content)
  | held
      (visible : allBlank text = false)
      (held : trimRight text <:+: content)
  | unmarked
      (given : anchor ≠ none)
      (missing : ∀ line ∈ lineSegments content, ¬ (Anchor.marker anchor).toList <:+: line)

theorem insert_eq_none_iff
    {content text : List Char}
    {anchor : Option Anchor} :
    insert content text anchor = none ↔
      anchor ≠ none ∧ ∀ line ∈ lineSegments content, ¬ (Anchor.marker anchor).toList <:+: line := by
  rcases anchor with _ | marker | marker
  · simp [insert]
  · simp [insert, besideMarker_eq_none_iff, Anchor.marker]
  · simp [insert, besideMarker_eq_none_iff, Anchor.marker]

/-- The tests that an injection makes, in their order. -/
theorem spared_iff
    {content text : List Char}
    {anchor : Option Anchor}
    {skip : Option String} :
    Spared content text anchor skip ↔
      (∃ guard, skip = some guard ∧ guard ≠ "" ∧ guard.toList <:+: content) ∨
      (allBlank text = false ∧ trimRight text <:+: content) ∨
      insert content text anchor = none := by
  rw [insert_eq_none_iff]
  constructor
  · rintro (⟨hgiven, hne, hheld⟩ | ⟨hvisible, hheld⟩ | ⟨hgiven, hmissing⟩)
    · exact Or.inl ⟨_, hgiven, hne, hheld⟩
    · exact Or.inr (Or.inl ⟨hvisible, hheld⟩)
    · exact Or.inr (Or.inr ⟨hgiven, hmissing⟩)
  · rintro (⟨guard, hgiven, hne, hheld⟩ | ⟨hvisible, hheld⟩ | ⟨hgiven, hmissing⟩)
    · exact .named hgiven hne hheld
    · exact .held hvisible hheld
    · exact .unmarked hgiven hmissing

end Inject

/-! ## What the parts of a step give -/

namespace Run

section Parts

variable {s : Setting}
variable {w : World}

theorem result_render?
    {template text : Option String}
    (h : template.mapM (Template.render w.context) = .ok text) :
    result (render? template) w = (.ok text, w) := by
  cases template with
  | none =>
      cases h
      rfl
  | some t =>
      cases hrender : Template.render w.context t with
      | error e =>
          rw [Option.mapM_some, hrender] at h
          cases h
      | ok rendered =>
          rw [Option.mapM_some, hrender] at h
          have htext : some rendered = text := Except.ok.inj h
          rw [render?, result_bind, result_render hrender, ← htext]
          rfl

theorem result_resolve
    {template path : String}
    (h : Resolves s w.context template path) :
    result (resolve s template) w = (.ok path, w) := by
  obtain ⟨rendered, hrender, hpath⟩ := h
  rw [resolve, result_bind, result_render hrender]
  dsimp only
  rw [hpath, result_lift_ok]

theorem result_readText
    {path text : String}
    (h : w.disk.readText path = .ok text) :
    result (readText path) w = (.ok text, w) := by
  rw [readText, result_bind, result_get]
  dsimp only
  rw [h, result_lift_ok]

theorem result_anchor
    {i : Inject}
    {anchor : Option Anchor}
    (h : i.AnchoredAt w.context anchor) :
    result i.anchor w = (.ok anchor, w) := by
  cases h with
  | atEnd hafter hbefore =>
      rw [Inject.anchor, hafter, hbefore]
      rfl
  | after hafter hbefore hmarker =>
      rw [Inject.anchor, hafter, hbefore]
      simp [result_render hmarker, Except.map]
  | before hafter hbefore hmarker =>
      rw [Inject.anchor, hafter, hbefore]
      simp [result_render hmarker, Except.map]

theorem anchored_of_result
    {i : Inject}
    {anchor : Option Anchor}
    {w' : World}
    (h : result i.anchor w = (.ok anchor, w')) :
    i.AnchoredAt w.context anchor := by
  unfold Inject.anchor at h
  split at h
  · cases h
  · rename_i hafter hbefore
    obtain ⟨marker, hmarker, hend⟩ := (keeps_render _).exists_of_bind h
    cases hend
    exact .after hafter hbefore (render_of_result hmarker)
  · rename_i hafter hbefore
    obtain ⟨marker, hmarker, hend⟩ := (keeps_render _).exists_of_bind h
    cases hend
    exact .before hafter hbefore (render_of_result hmarker)
  · rename_i hafter hbefore
    cases h
    exact .atEnd hafter hbefore

theorem mapM_of_result
    {template text : Option String}
    {w' : World}
    (h : result (render? template) w = (.ok text, w')) :
    template.mapM (Template.render w.context) = .ok text := by
  cases template with
  | none =>
      cases h
      rfl
  | some t =>
      obtain ⟨rendered, hrender, hend⟩ := (keeps_render t).exists_of_bind h
      cases hend
      rw [Option.mapM_some, render_of_result hrender]
      rfl

end Parts

end Run

namespace Inject

/-! ## One injection -/

section One

variable {i : Inject}
variable {s : Setting}
variable {w : World}
variable {target content text : String}
variable {anchor : Option Anchor}
variable {skip : Option String}

/-- Replaces the target, which ends an injection that is not skipped. -/
def put
    (s : Setting)
    (target : String)
    (updated : List Char) :
    Run Outcome := do
  replaceFile target (String.ofList updated)
  announce "inject" (s.shown target)
  return .applied

/-- What is left of an injection when no text to skip for is found. -/
def putting
    (s : Setting)
    (target : String)
    (content text : List Char)
    (anchor : Option Anchor) :
    Run Outcome :=
  if !(trimRight text).isEmpty && occursIn (trimRight text) content then do
    remark s!"'{s.shown target}' already contains the text, skipping."
    return .skipped
  else
    match insert content text anchor with
    | none => do
        remark s!"Marker '{Anchor.marker anchor}' not found in '{s.shown target}', skipping."
        return .skipped
    | some updated => put s target updated

/-- What is left of an injection once everything is rendered. -/
def deciding
    (s : Setting)
    (target : String)
    (content text : List Char)
    (anchor : Option Anchor) :
    Option String → Run Outcome
  | none => putting s target content text anchor
  | some guard =>
      if !guard.isEmpty && occursIn guard.toList content then do
        remark s!"'{s.shown target}' already contains '{guard}', skipping."
        return .skipped
      else
        putting s target content text anchor

theorem result_run
    (h : i.Ready s w target content text anchor skip) :
    result (i.run s) w = result (deciding s target content.toList text.toList anchor skip) w := by
  unfold Inject.run
  rw [result_bind, result_resolve h.target_resolves]
  dsimp only
  rw [result_bind, result_get]
  dsimp only
  rw [h.is_file]
  simp only [Bool.not_true, Bool.false_eq_true, if_false]
  rw [result_bind, result_anchor h.anchored]
  dsimp only
  rw [result_bind, result_readText h.readable]
  dsimp only
  rw [result_bind, result_render h.text_renders]
  dsimp only
  rw [result_bind, result_render? h.skip_renders]
  cases skip <;> rfl

/-- A step is skipped in a case and changes nothing then, and else it puts the text in. -/
def Ends
    (s : Setting)
    (w : World)
    (target : String)
    (content text : List Char)
    (anchor : Option Anchor)
    (spared : Prop)
    (m : Run Outcome) : Prop :=
  (spared ∧ ∃ w', result m w = (.ok .skipped, w') ∧ w'.silent = w.silent) ∨
    (¬ spared ∧ ∃ updated, insert content text anchor = some updated ∧
      result m w = result (put s target updated) w)

theorem ends_putting
    (s : Setting)
    (w : World)
    (target : String)
    (content text : List Char)
    (anchor : Option Anchor) :
    Ends s w target content text anchor
      ((allBlank text = false ∧ trimRight text <:+: content) ∨ insert content text anchor = none)
      (putting s target content text anchor) := by
  have hneedle : (!(trimRight text).isEmpty && occursIn (trimRight text) content) = true ↔
      allBlank text = false ∧ trimRight text <:+: content := by
    rw [Bool.and_eq_true, occursIn_iff, ← Bool.not_eq_true, ← trimRight_eq_nil_iff]
    simp
  rw [Ends, putting, ← hneedle]
  by_cases hheld : (!(trimRight text).isEmpty && occursIn (trimRight text) content) = true
  · rw [if_pos hheld]
    exact Or.inl ⟨Or.inl hheld, _, rfl, rfl⟩
  · rw [if_neg hheld, or_iff_right hheld]
    cases hinsert : insert content text anchor with
    | none => exact Or.inl ⟨rfl, _, rfl, rfl⟩
    | some updated => exact Or.inr ⟨nofun, updated, rfl, rfl⟩

theorem ends_deciding
    (s : Setting)
    (w : World)
    (target : String)
    (content text : List Char)
    (anchor : Option Anchor)
    (skip : Option String) :
    Ends s w target content text anchor (Spared content text anchor skip)
      (deciding s target content text anchor skip) := by
  have hrest := ends_putting s w target content text anchor
  rw [spared_iff]
  cases skip with
  | none => simpa [deciding] using hrest
  | some guard =>
      have hguard : (!guard.isEmpty && occursIn guard.toList content) = true ↔
          ∃ g, some guard = some g ∧ g ≠ "" ∧ g.toList <:+: content := by
        rw [Bool.and_eq_true, occursIn_iff]
        simp
      rw [deciding, ← hguard]
      by_cases hheld : (!guard.isEmpty && occursIn guard.toList content) = true
      · rw [if_pos hheld]
        exact Or.inl ⟨Or.inl hheld, _, rfl, rfl⟩
      · rw [if_neg hheld, or_iff_right hheld]
        exact hrest

theorem ends_run
    (h : i.Ready s w target content text anchor skip) :
    Ends s w target content.toList text.toList anchor
      (Spared content.toList text.toList anchor skip) (i.run s) := by
  have hends := ends_deciding s w target content.toList text.toList anchor skip
  rwa [Ends, ← result_run h] at hends

theorem result_of_spared
    (h : i.Ready s w target content text anchor skip)
    (hspared : Spared content.toList text.toList anchor skip) :
    (result (i.run s) w).1 = .ok .skipped ∧ (result (i.run s) w).2.silent = w.silent := by
  rcases ends_run h with ⟨-, w', hresult, hsilent⟩ | ⟨hfree, -⟩
  · rw [hresult]
    exact ⟨rfl, hsilent⟩
  · exact absurd hspared hfree

/-- A replaced target holds the new text, and nothing else in the state is new. -/
theorem result_put
    {updated : List Char}
    {d' : Disk}
    (hread : w.disk.readText target = .ok content)
    (hreplace : w.disk.replace target (.text (String.ofList updated)) = (d', .ok ())) :
    (∃ w', result (put s target updated) w = (.ok .applied, w') ∧
      w'.silent = { w with disk := d' }.silent) ∧
    d'.isFile target = true ∧ d'.readText target = .ok (String.ofList updated) := by
  obtain ⟨entry, hentry, -⟩ := Disk.exists_entry_of_replace hread hreplace
  refine ⟨?_, Disk.isFile_iff.mpr ⟨entry, _, _, hentry⟩, Disk.readText_of_locate hentry⟩
  obtain ⟨notes, hresult⟩ : ∃ notes, result (put s target updated) w =
      (.ok .applied, { w with disk := d', notes := notes }) := by
    simp [put, replaceFile, onDisk, announce, say, result_bind, hreplace, Except.map]
  exact ⟨_, hresult, rfl⟩

/-- To replace a file is not to skip it. -/
theorem result_put_ne
    (s : Setting)
    (w : World)
    (target : String)
    (updated : List Char) :
    (result (put s target updated) w).1 ≠ .ok .skipped := by
  intro hskipped
  rw [put, result_bind] at hskipped
  rcases hreplace : result (replaceFile target (String.ofList updated)) w with ⟨e | u, w₁⟩
  · rw [hreplace] at hskipped
    cases hskipped
  · rw [hreplace] at hskipped
    cases hskipped

/-- The same injection is ready on the state that it leaves. -/
theorem Ready.of_silent
    {d' : Disk}
    {new : String}
    {w' : World}
    (h : i.Ready s w target content text anchor skip)
    (hfile : d'.isFile target = true)
    (hread : d'.readText target = .ok new)
    (hw' : w'.silent = { w with disk := d' }.silent) :
    i.Ready s w' target new text anchor skip := by
  obtain ⟨hdisk, -, hcontext, -, -⟩ := World.silent_eq_iff.mp hw'
  dsimp only at hdisk hcontext
  exact
    { target_resolves := hcontext ▸ h.target_resolves
      is_file := by rw [hdisk, hfile]
      readable := by rw [hdisk, hread]
      anchored := hcontext ▸ h.anchored
      text_renders := hcontext ▸ h.text_renders
      skip_renders := hcontext ▸ h.skip_renders }

/-- After a text that is not blank has been put in, or was there, the same injection is skipped. -/
theorem result_again
    (h : i.Ready s w target content text anchor skip)
    (hvisible : allBlank text.toList = false)
    {outcome : Outcome}
    {w' : World}
    (hrun : result (i.run s) w = (.ok outcome, w')) :
    (result (i.run s) w').1 = .ok .skipped ∧ (result (i.run s) w').2.silent = w'.silent := by
  rcases ends_run h with ⟨hspared, w₁, hresult, hsilent⟩ | ⟨-, updated, hinsert, hresult⟩
  · obtain ⟨-, rfl⟩ := Prod.mk.inj (hrun.symm.trans hresult)
    exact result_of_spared (h.of_silent h.is_file h.readable hsilent) hspared
  · rw [hresult] at hrun
    obtain ⟨_, w₁, hreplace, -⟩ := exists_of_bind hrun
    obtain ⟨⟨w₂, hput, hsilent⟩, hfile, hread⟩ := result_put h.readable (replace_of_result hreplace)
    obtain ⟨-, rfl⟩ := Prod.mk.inj (hrun.symm.trans hput)
    refine result_of_spared (h.of_silent hfile hread hsilent) (.held hvisible ?_)
    rw [String.toList_ofList, ← occursIn_iff]
    exact occursIn_insert_self hinsert

/-- An injection is skipped exactly when it is spared, and then it changes nothing. Else, if the target
can be written, its text is put in at one place, as complete lines behind complete lines, and nothing
else is changed. An injection of a text that is not blank that went well is skipped when it is run
again at once. -/
theorem run_once
    (h : i.Ready s w target content text anchor skip) :
    ((result (i.run s) w).1 = .ok .skipped ↔ Spared content.toList text.toList anchor skip) ∧
    (Spared content.toList text.toList anchor skip →
      (result (i.run s) w).2.silent = w.silent) ∧
    (¬ Spared content.toList text.toList anchor skip →
      ∃ u v new, CutAt content.toList anchor u v ∧
        new = String.ofList (u ++ gap u ++ completed text.toList ++ v) ∧
        ∀ d', w.disk.replace target (.text new) = (d', .ok ()) →
          (∃ w', result (i.run s) w = (.ok .applied, w') ∧
            w'.silent = { w with disk := d' }.silent) ∧
          d'.readText target = .ok new) ∧
    (allBlank text.toList = false → ∀ outcome w', result (i.run s) w = (.ok outcome, w') →
      (result (i.run s) w').1 = .ok .skipped ∧ (result (i.run s) w').2.silent = w'.silent) := by
  have hends := ends_run h
  refine ⟨⟨fun hskipped => ?_, fun hspared => ?_⟩, fun hspared => ?_, fun hfree => ?_, ?_⟩
  · rcases hends with ⟨hspared, -⟩ | ⟨-, updated, -, hresult⟩
    · exact hspared
    · rw [hresult] at hskipped
      exact absurd hskipped (result_put_ne s w target updated)
  · exact (result_of_spared h hspared).1
  · exact (result_of_spared h hspared).2
  · rcases hends with ⟨hspared, -⟩ | ⟨-, updated, hinsert, hresult⟩
    · exact absurd hspared hfree
    · obtain ⟨u, v, hcut, rfl⟩ := exists_cutAt_of_insert hinsert
      refine ⟨u, v, _, hcut, rfl, fun d' hreplace => ?_⟩
      obtain ⟨hput, -, hread⟩ := result_put h.readable hreplace
      rw [hresult]
      exact ⟨hput, hread⟩
  · exact fun hvisible outcome w' hrun => result_again h hvisible hrun

/-! ## Nothing left to do -/

/-- An injection that is skipped wherever it is ready changes nothing. -/
theorem silent_run_of_spared
    (h : ∀ target content text anchor skip, i.Ready s w target content text anchor skip →
      Spared content.toList text.toList anchor skip) :
    (result (i.run s) w).2.silent = w.silent := by
  by_cases hready : ∃ target content text anchor skip, i.Ready s w target content text anchor skip
  · obtain ⟨target, content, text, anchor, skip, hready⟩ := hready
    exact (result_of_spared hready (h target content text anchor skip hready)).2
  · unfold Inject.run
    refine (keeps_resolve s i.target).silent_of_bind fun target hresolve => ?_
    dsimp only
    rw [result_bind, result_get]
    dsimp only
    split
    · rfl
    · rename_i hmissing
      refine (keeps_anchor i).silent_of_bind fun anchor hanchor => ?_
      refine (keeps_readText target).silent_of_bind fun content hread => ?_
      refine (keeps_render i.text).silent_of_bind fun text hrender => ?_
      refine (keeps_render? i.skip).silent_of_bind fun skip hskip => ?_
      exact absurd ⟨target, content, text, anchor, skip, resolves_of_result hresolve,
        by simpa using hmissing, readText_of_result hread, anchored_of_result hanchor,
        render_of_result hrender, mapM_of_result hskip⟩ hready

/-- An injection that is ready and not skipped changes the disk if it goes well. -/
theorem disk_ne_of_not_spared
    (h : i.Ready s w target content text anchor skip)
    (hfree : ¬ Spared content.toList text.toList anchor skip)
    {outcome : Outcome}
    {w' : World}
    (hrun : result (i.run s) w = (.ok outcome, w')) :
    w'.disk ≠ w.disk := by
  rcases ends_run h with ⟨hspared, -⟩ | ⟨-, updated, hinsert, hresult⟩
  · exact absurd hspared hfree
  · rw [hresult] at hrun
    obtain ⟨_, w₁, hreplace, -⟩ := exists_of_bind hrun
    obtain ⟨⟨w₂, hput, hsilent⟩, -, hread⟩ := result_put h.readable (replace_of_result hreplace)
    obtain ⟨-, rfl⟩ := Prod.mk.inj (hrun.symm.trans hput)
    intro hsame
    rw [show w₁.disk = w'.disk from (World.silent_eq_iff.mp hsilent).1.symm, hsame, h.readable] at hread
    obtain rfl := Except.ok.inj hread
    -- What is put in is at least a line, so the text is longer than before.
    obtain ⟨u, rest, v, hparts, hnew, -⟩ := exists_of_insert hinsert
    rw [String.toList_ofList] at hparts
    have hlength := congrArg List.length (hparts.symm.trans hnew)
    have hblock := completed_ne_nil text.toList
    have hpos := List.length_pos_iff.mpr hblock
    simp only [List.length_append] at hlength
    omega

end One

end Inject

/-! ## A disk with one file -/

namespace Run

/-- A disk on which at most the file is. -/
def appDisk (text : Option String) : Disk :=
  .directory (text.toList.map fun text => ("app.txt", .file (.text text) .secluded))

/-- A state with a disk. -/
def worldOn (d : Disk) : World where
  disk := d
  jobs := .none
  context := []
  queue := []
  prompter := .refusing
  notes := []

section App

variable {content : Option String}

theorem isNamed_app :
    Disk.IsNamed "app.txt".toList :=
  Disk.isNamed_of_short (by decide) (by decide)

/-- What is below any other name is not there. -/
theorem locateFrom_appDisk_of_ne
    {path : String}
    {first : List Char}
    {rest : List (List Char)}
    (hfits : Disk.Fits path)
    (hparts : Text.splitOn '/' path.toList = first :: rest)
    (named : Disk.IsNamed first)
    (hother : String.ofList first ≠ "app.txt" ∨ content = none)
    (final : Bool) :
    (appDisk content).locateFrom [] final path =
      if rest.all List.isEmpty then .ok (.free [] (String.ofList first) (!rest.isEmpty))
      else .error .noEntry := by
  have hne : path.toList ≠ [] := by
    intro hnil
    rw [hnil] at hparts
    obtain ⟨rfl, -⟩ := List.cons_eq_cons.mp hparts
    exact named.ne_nil rfl
  have hroot : (appDisk content).get? [] = some (appDisk content) := FileTree.get?_nil _
  have hmissing : (appDisk content).get? ([] ++ [String.ofList first]) = none := by
    rw [List.nil_append, appDisk, FileTree.get?_directory_cons]
    rcases hother with hother | rfl
    · cases content with
      | none => rfl
      | some text => simp [Dict.get?, Ne.symm hother]
    · rfl
  rw [Disk.locateFrom_eq hfits hne, hparts, Disk.follow_missing hroot named hmissing]

theorem locateFrom_appDisk
    (text : String)
    (final : Bool) :
    (appDisk (some text)).locateFrom [] final "app.txt" =
      .ok (.found ["app.txt"] (.file (.text text) .secluded)) := by
  have hparts : Text.splitOn '/' "app.txt".toList = ["app.txt".toList] := by decide
  have hroot : (appDisk (some text)).get? [] = some (appDisk (some text)) := FileTree.get?_nil _
  have hfound : (appDisk (some text)).get? ([] ++ [String.ofList "app.txt".toList]) =
      some (.file (.text text) .secluded) := rfl
  rw [Disk.locateFrom_eq ⟨by decide, by decide⟩ (by decide), hparts,
    Disk.follow_down hroot isNamed_app hfound rfl, Disk.follow_nil hfound]
  rfl

theorem locateFrom_appDisk_none (final : Bool) :
    (appDisk none).locateFrom [] final "app.txt" = .ok (.free [] "app.txt" false) := by
  have hparts : Text.splitOn '/' "app.txt".toList = ["app.txt".toList] := by decide
  rw [locateFrom_appDisk_of_ne ⟨by decide, by decide⟩ hparts isNamed_app (Or.inr rfl)]
  rfl

/-- A file takes the place of the one that is there, if there is one. -/
theorem replace_appDisk (text : String) :
    (appDisk content).replace "app.txt" (.text text) = (appDisk (some text), .ok ()) := by
  have hparent : (Path.parent? "app.txt").getD "." = "" := by decide
  have hnamed : Disk.endsUnnamed "app.txt" = false := by decide
  have hslash : Disk.isSlashed "app.txt" = false := by decide
  have hbare : Disk.bare "app.txt" = "app.txt" := by decide
  have hmade : (appDisk content).provideDirectory "" = (appDisk content, .ok ()) := rfl
  have hmoved : (appDisk content).moveInto "app.txt" (.text text) = .ok (appDisk (some text)) := by
    unfold Disk.moveInto
    rw [hnamed, hslash, hbare, Disk.locateEntry]
    cases content with
    | none =>
        rw [locateFrom_appDisk_none]
        rfl
    | some old =>
        rw [locateFrom_appDisk]
        rfl
  unfold Disk.replace
  rw [hparent, hmade]
  simp only [hmoved]

theorem resolves_app (c : Context) :
    Resolves smallSetting c "app.txt" "app.txt" :=
  ⟨"app.txt", rfl, rfl⟩

end App

end Run

namespace Inject

/-- A text is to be put behind the line with a marker, unless another text is there. -/
def behindMarker : Inject where
  target := "app.txt"
  text := "x"
  after := some "y"
  before := none
  skip := some "z"

theorem ready_behindMarker :
    behindMarker.Ready smallSetting (worldOn (appDisk (some "y"))) "app.txt" "y" "x"
      (some (.after "y")) (some "z") where
  target_resolves := resolves_app _
  is_file := Disk.isFile_iff.mpr ⟨_, _, _, locateFrom_appDisk "y" true⟩
  readable := Disk.readText_of_locate (locateFrom_appDisk "y" true)
  anchored := .after rfl rfl rfl
  text_renders := rfl
  skip_renders := rfl

theorem not_spared_behindMarker :
    ¬ Spared "y".toList "x".toList (some (.after "y")) (some "z") := by
  rintro (⟨hgiven, -, hheld⟩ | ⟨-, hheld⟩ | ⟨-, hmissing⟩)
  · cases hgiven
    exact absurd (occursIn_iff.mpr hheld) (by decide)
  · exact absurd (occursIn_iff.mpr hheld) (by decide)
  · exact hmissing ['y'] (by decide) (List.infix_refl _)

/-- The line is completed, the text is put behind it, and the second run is skipped. -/
theorem run_once_small :
    behindMarker.Ready smallSetting (worldOn (appDisk (some "y"))) "app.txt" "y" "x"
      (some (.after "y")) (some "z") ∧
    ∃ w', result (behindMarker.run smallSetting) (worldOn (appDisk (some "y"))) =
        (.ok .applied, w') ∧
      w'.disk.readText "app.txt" = .ok "y\nx\n" ∧
      (result (behindMarker.run smallSetting) w').1 = .ok .skipped := by
  obtain ⟨-, -, hput, hagain⟩ := run_once ready_behindMarker
  obtain ⟨u, v, new, hcut, hnew, hwritten⟩ := hput not_spared_behindMarker
  obtain rfl : new = "y\nx\n" := by
    have hlines : lineSegments "y".toList = [['y']] := by decide
    cases hcut with
    | @after marker front rest line lines first here =>
        rw [hlines] at lines
        obtain ⟨rfl, rfl, rfl⟩ : front = [] ∧ line = ['y'] ∧ rest = [] := by
          cases front <;> simp_all
        rw [hnew]
        decide
  obtain ⟨⟨w', hresult, hsilent⟩, hread⟩ := hwritten _ (replace_appDisk "y\nx\n")
  obtain ⟨hdisk, -⟩ := World.silent_eq_iff.mp hsilent
  refine ⟨ready_behindMarker, w', hresult, ?_, (hagain (by decide) _ _ hresult).1⟩
  rw [hdisk]
  exact hread

end Inject

end Runbook
