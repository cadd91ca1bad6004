import Runbook.Proofs.Pom.Merging
import Runbook.Proofs.Pom.Stability
import Runbook.Proofs.Run.Writing

/-!
# Batches of entries

Entries that are merged into a document all at once leave the text that they leave when some are merged
first and the others into what comes of it. So a queue that is written at once leaves the project model
as it is when the queue is written part by part.

Main statement: `merge_batches`.
-/

namespace Runbook

namespace Pom

open Text Markup

/-- Nothing is merged into a document of another root. -/
theorem merge_eq_none
    {d : Document}
    (h : d.root.name? ≠ some "project")
    (es : List Entry) :
    merge d.write es = none := by
  obtain ⟨e, hroot, hrep⟩ := root?_represents d
  have hname : e.name ≠ "project" := fun heq => h (by rw [hrep.name?_eq, heq])
  simp [merge, project?, hroot, hname]

end Pom

namespace Run

/-- The state after entries have been queued and written. -/
def flushed
    (s : Setting)
    (w : World)
    (es : List Pom.Entry) :
    World :=
  (result (flush s) { w with queue := es }).2

/-- Two states with the same files and the same values. -/
structure Alike (w w' : World) : Prop where
  disk : w.disk = w'.disk
  context : w.context = w'.context

theorem Alike.trans
    {w w' w'' : World}
    (h : Alike w w')
    (h' : Alike w' w'') :
    Alike w w'' :=
  ⟨h.disk.trans h'.disk, h.context.trans h'.context⟩

section Flushed

variable {s : Setting}
variable {w : World}

/-- Without a text to merge into, entries leave nothing. -/
theorem flushed_of_unmerged
    {es : List Pom.Entry}
    (h : ∀ text, w.disk.readText s.pomPath = .ok text → Pom.merge text.toList es = none) :
    Alike (flushed s w es) w :=
  ⟨(flush_of_unmerged h).1, (flush_of_unmerged h).2⟩

theorem flushed_nil :
    Alike (flushed s w []) w := by
  unfold flushed
  rw [result_flush]
  exact ⟨rfl, rfl⟩

/-- What entries leave that can be merged, where the file can be replaced. -/
theorem flushed_of_merged
    {es : List Pom.Entry}
    {text : String}
    {merged : List Char}
    {after : Content → Disk}
    (hread : w.disk.readText s.pomPath = .ok text)
    (hreplace : ∀ c, w.disk.replace s.pomPath c = (after c, .ok ()))
    (hmerge : Pom.merge text.toList es = some merged) :
    (flushed s w es).disk =
        (if merged = text.toList then w.disk else after (.text (String.ofList merged))) ∧
      (flushed s w es).context =
        if merged = text.toList then w.context else modelled w.context merged := by
  by_cases hsame : merged = text.toList
  · rw [if_pos hsame, if_pos hsame]
    exact flush_of_merged_eq hread (hsame ▸ hmerge)
  · have hes : es ≠ [] := by
      rintro rfl
      exact hsame (eq_of_merge_nil hmerge)
    rw [if_neg hsame, if_neg hsame]
    exact flush_of_merged_ne hread hmerge hsame hes (hreplace _)

end Flushed

/-- Of two models of a project the later one counts. -/
theorem modelled_modelled
    (c : Context)
    (d d' : Pom.ProjectDocument) :
    modelled (modelled c d.write) d'.write = modelled c d'.write := by
  simp only [modelled, d.parse?_write, d'.parse?_write, Dict.insert_insert]

section Parts

variable {s : Setting}
variable {w : World}
variable {text : String}
variable {d : Pom.ProjectDocument}

/-- Entries that are written after others leave what all of them leave at once. -/
theorem flushed_append
    (hread : w.disk.readText s.pomPath = .ok text)
    (htext : text.toList = d.write)
    (hsettled : d.Settled)
    {a b : List Pom.Entry}
    (ha : ∀ e ∈ a, e.IsElement)
    (hb : ∀ e ∈ b, e.IsElement) :
    Alike (flushed s (flushed s w a) b) (flushed s w (a ++ b)) := by
  obtain ⟨d₁, hfirst, hsettled₁, hmore₁, hboth⟩ := Pom.exists_merge_append d hsettled ha b
  obtain ⟨d₂, hsecond, -, hmore₂, -⟩ := Pom.exists_merge_append d₁ hsettled₁ hb []
  rw [hsecond] at hboth
  obtain ⟨place, hreplace, hback⟩ := exists_pom_place hread
  have hone := flushed_of_merged hread hreplace (htext ▸ hfirst)
  have hall := flushed_of_merged hread hreplace (htext ▸ hboth)
  rw [htext] at hone hall
  by_cases hsame₁ : d₁.write = d.write
  · -- Nothing is written the first time, so the second time finds what was there.
    rw [if_pos hsame₁, if_pos hsame₁] at hone
    have hread₁ : (flushed s w a).disk.readText s.pomPath = .ok text := by rw [hone.1, hread]
    have hreplace₁ : ∀ c, (flushed s w a).disk.replace s.pomPath c =
        (w.disk.put place (.file c .secluded), .ok ()) := by
      rw [hone.1]
      exact hreplace
    have htwo := flushed_of_merged hread₁ hreplace₁ ((htext.trans hsame₁.symm) ▸ hsecond)
    rw [hone.1, hone.2, htext] at htwo
    exact ⟨htwo.1.trans hall.1.symm, htwo.2.trans hall.2.symm⟩
  · rw [if_neg hsame₁, if_neg hsame₁] at hone
    -- Sections only grow, so the text is not the first one again in the end.
    have hsame₂ : d₂.write ≠ d.write := by
      intro heq
      have hsizes := Pom.sectionSizes_congr heq
      have hless := hmore₁.resolve_left fun h => hsame₁ (h ▸ rfl)
      rcases hmore₂ with rfl | hmore₂
      · exact hless.ne hsizes.symm
      · exact (hless.trans hmore₂).ne hsizes.symm
    rw [if_neg hsame₂, if_neg hsame₂] at hall
    obtain ⟨hread₁, hreplace₁⟩ := hback (String.ofList d₁.write)
    rw [← hone.1] at hread₁ hreplace₁
    have hmerge₁ : Pom.merge (String.ofList d₁.write).toList b = some d₂.write := by
      rw [String.toList_ofList, hsecond]
    have htwo := flushed_of_merged hread₁ hreplace₁ hmerge₁
    rw [String.toList_ofList] at htwo
    by_cases hlater : d₂.write = d₁.write
    · rw [if_pos hlater, if_pos hlater, hone.1, hone.2, ← hlater] at htwo
      exact ⟨htwo.1.trans hall.1.symm, htwo.2.trans hall.2.symm⟩
    · rw [if_neg hlater, if_neg hlater, hone.2, modelled_modelled] at htwo
      exact ⟨htwo.1.trans hall.1.symm, htwo.2.trans hall.2.symm⟩

/-- Entries that are written part by part leave what all of them leave at once. -/
theorem flushed_parts
    (hread : w.disk.readText s.pomPath = .ok text)
    (htext : text.toList = d.write)
    (hsettled : d.Settled)
    (parts : List (List Pom.Entry))
    (hparts : ∀ part ∈ parts, ∀ e ∈ part, e.IsElement) :
    Alike (parts.foldl (flushed s) w) (flushed s w parts.flatten) := by
  induction parts generalizing w text d with
  | nil => exact ⟨flushed_nil.disk.symm, flushed_nil.context.symm⟩
  | cons part rest ih =>
      have hpart := hparts part List.mem_cons_self
      have hrest : ∀ p ∈ rest, ∀ e ∈ p, e.IsElement := fun p hp =>
        hparts p (List.mem_cons_of_mem _ hp)
      have hflat : ∀ e ∈ rest.flatten, e.IsElement := by
        intro e he
        obtain ⟨p, hp, hmem⟩ := List.mem_flatten.mp he
        exact hrest p hp e hmem
      obtain ⟨d₁, hfirst, hsettled₁, -, -⟩ := Pom.exists_merge_append d hsettled hpart []
      have hread₁ : (flushed s w part).disk.readText s.pomPath = .ok (String.ofList d₁.write) :=
        readText_flush (w := { w with queue := part }) hread (by rw [htext]; exact hfirst)
      have hlater := ih hread₁ String.toList_ofList hsettled₁ hrest
      exact hlater.trans (flushed_append hread htext hsettled hpart hflat)

/-- Where nothing can be merged, entries leave nothing, part by part as well. -/
theorem flushed_parts_of_unmerged
    (h : ∀ text es, w.disk.readText s.pomPath = .ok text → Pom.merge text.toList es = none)
    (parts : List (List Pom.Entry)) :
    Alike (parts.foldl (flushed s) w) w := by
  induction parts generalizing w with
  | nil => exact ⟨rfl, rfl⟩
  | cons part rest ih =>
      have hfirst := flushed_of_unmerged fun text hread => h text part hread
      refine (ih fun text es hread => h text es ?_).trans hfirst
      rwa [hfirst.disk] at hread

end Parts

end Run

namespace Pom

open Text Markup

/-- In a document in which a line feed stands behind every carriage return, entries that are elements
are merged all at once as they are merged one part after another: the same text comes of it, or none
does. So whenever the file of the project model holds the document, or cannot be read, a queue that is
written at once leaves the files and the context as it does when it is written part by part. -/
theorem merge_batches
    (d : Document)
    (hpaired : Paired d.write) :
    (∀ a b : List Entry, (∀ e ∈ a ++ b, e.IsElement) →
      merge d.write (a ++ b) = (merge d.write a).bind fun next => merge next b) ∧
    ∀ (s : Setting) (w : World) (parts : List (List Entry)),
      (∀ text, w.disk.readText s.pomPath = .ok text → text.toList = d.write) →
      (∀ part ∈ parts, ∀ e ∈ part, e.IsElement) →
      Run.Alike (parts.foldl (Run.flushed s) w) (Run.flushed s w parts.flatten) := by
  by_cases hname : d.root.name? = some "project"
  · obtain ⟨p, rfl⟩ : ∃ p : ProjectDocument, p.toDocument = d := ⟨⟨d, hname⟩, rfl⟩
    have hsettled := ProjectDocument.settled_of_paired hpaired
    refine ⟨fun a b hes => ?_, fun s w parts htext hparts => ?_⟩
    · have ha : ∀ e ∈ a, e.IsElement := fun e he => hes e (List.mem_append_left _ he)
      obtain ⟨d', hfirst, -, -, hboth⟩ := exists_merge_append p hsettled ha b
      rw [hboth, hfirst, Option.bind_some]
    · cases hread : w.disk.readText s.pomPath with
      | ok text => exact Run.flushed_parts hread (htext text hread) hsettled parts hparts
      | error e =>
          have hnone : ∀ text es, w.disk.readText s.pomPath = .ok text →
              merge text.toList es = none := fun text es h => by simp [hread] at h
          have hall := Run.flushed_of_unmerged fun text h => hnone text parts.flatten h
          exact (Run.flushed_parts_of_unmerged hnone parts).trans
            ⟨hall.disk.symm, hall.context.symm⟩
  · have hnone := merge_eq_none hname
    refine ⟨fun a b _ => by simp [hnone], fun s w parts htext _ => ?_⟩
    have hunmerged : ∀ text es, w.disk.readText s.pomPath = .ok text →
        merge text.toList es = none := fun text es h => by rw [htext text h, hnone]
    have hall := Run.flushed_of_unmerged fun text h => hunmerged text parts.flatten h
    exact (Run.flushed_parts_of_unmerged hunmerged parts).trans
      ⟨hall.disk.symm, hall.context.symm⟩

/-- A project without children that has a line break in it. -/
def brokenProject : Document where
  before := []
  root :=
    .element (.ofString "project" isName_project) .none
      [.piece (.text ['\r', '\n'] (by decide))] .none
  after := []
  before_plain := elements_nil
  root_element := rfl
  after_plain := elements_nil

/-- The small entry as a managed one. -/
def managedEntry : Entry :=
  { smallEntry with kind := .managed }

theorem merge_batches_small :
    Paired brokenProject.write ∧
      merge brokenProject.write ([smallEntry] ++ [managedEntry]) =
        (merge brokenProject.write [smallEntry]).bind (fun next => merge next [managedEntry]) ∧
      Run.Alike
        ([[smallEntry], [managedEntry]].foldl (Run.flushed Run.smallSetting)
          (Run.projectWorld "<project>\r\n</project>"))
        (Run.flushed Run.smallSetting (Run.projectWorld "<project>\r\n</project>")
          [smallEntry, managedEntry]) := by
  have hsmall : smallEntry.IsElement := proper_smallEntry.written.isElement
  have hmanaged : managedEntry.IsElement := hsmall
  have hpaired : Paired brokenProject.write := by decide
  obtain ⟨htexts, hfiles⟩ := merge_batches brokenProject hpaired
  refine ⟨hpaired, htexts _ _ (by simp [hsmall, hmanaged]),
    hfiles _ _ [[smallEntry], [managedEntry]] (fun text hread => ?_) (by simp [hsmall, hmanaged])⟩
  rw [Run.readText_projectWorld] at hread
  cases hread
  decide

end Pom
end Runbook
