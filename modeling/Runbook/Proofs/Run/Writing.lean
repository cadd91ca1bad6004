import Runbook.Proofs.Files.Replacing
import Runbook.Proofs.Pom.JsonForm
import Runbook.Proofs.Run.Refusals

/-!
# What writing the queue leaves

Writing the queue into a project model that cannot be read or has no project changes nothing but the
queue. Otherwise the merged text is in the file afterwards, in a place that stays the same however
often the queue is written, and the context has the model of a text that is new.

Main statements: `exists_pom_place`, `flush_cases` and `readText_flush`.
-/

namespace Runbook
namespace Run

/-- The context after a text of the project model has been written. -/
def modelled
    (c : Context)
    (text : List Char) :
    Context :=
  match Pom.Model.parse? text with
  | some model => Dict.insert c modelKey model.toJson
  | none => c

theorem modelIn?_modelled
    {c : Context}
    {doc : List Char}
    {m : Pom.Model}
    (h : Pom.Model.parse? doc = some m) :
    modelIn? (modelled c doc) = some m := by
  simp only [modelled, h, modelIn?, Dict.get?_insert_self, Option.bind_some,
    Pom.Model.ofJson?_toJson (Pom.sorted_of_parse? h)]

/-- Without a text to merge into, nothing is written. -/
theorem flush_of_unmerged
    {s : Setting}
    {w : World}
    (h : ∀ text, w.disk.readText s.pomPath = .ok text → Pom.merge text.toList w.queue = none) :
    (result (flush s) w).2.disk = w.disk ∧ (result (flush s) w).2.context = w.context := by
  rw [result_flush]
  split
  · exact ⟨rfl, rfl⟩
  · unfold writeEntries readText patchedText
    cases hread : w.disk.readText s.pomPath with
    | error e => simp [result_bind, hread]
    | ok text => simp [result_bind, hread, h text hread]

/-- A text that is there already is not written. -/
theorem flush_of_merged_eq
    {s : Setting}
    {w : World}
    {text : String}
    (hread : w.disk.readText s.pomPath = .ok text)
    (hmerge : Pom.merge text.toList w.queue = some text.toList) :
    (result (flush s) w).2.disk = w.disk ∧ (result (flush s) w).2.context = w.context := by
  rw [result_flush]
  split
  · exact ⟨rfl, rfl⟩
  · unfold writeEntries readText patchedText
    simp [result_bind, hread, hmerge]

/-- A new text takes the place of the file. -/
theorem flush_of_merged_ne
    {s : Setting}
    {w : World}
    {text : String}
    {merged : List Char}
    {d : Disk}
    (hread : w.disk.readText s.pomPath = .ok text)
    (hmerge : Pom.merge text.toList w.queue = some merged)
    (hne : merged ≠ text.toList)
    (hqueue : w.queue ≠ [])
    (hreplace : w.disk.replace s.pomPath (.text (String.ofList merged)) = (d, .ok ())) :
    (result (flush s) w).2.disk = d ∧
      (result (flush s) w).2.context = modelled w.context merged := by
  have hdiffers : String.ofList merged ≠ text := by
    rintro rfl
    exact hne String.toList_ofList.symm
  have hsome : w.queue.isEmpty = false := by simpa using hqueue
  rw [result_flush, hsome, if_neg Bool.false_ne_true]
  unfold writeEntries readText patchedText replaceFile onDisk announce say setValue modelled
  cases hparse : Pom.Model.parse? merged with
  | none => simp [result_bind, hread, hmerge, hdiffers, hreplace, hparse]
  | some model => simp [result_bind, hread, hmerge, hdiffers, hreplace, hparse]

/-- The file of a project model that can be read keeps its place when it is written. -/
theorem exists_pom_place
    {s : Setting}
    {d : Disk}
    {text : String}
    (hread : d.readText s.pomPath = .ok text) :
    ∃ place,
      (∀ c, d.replace s.pomPath c = (d.put place (.file c .secluded), .ok ())) ∧
      ∀ new,
        Disk.readText (d.put place (.file (.text new) .secluded)) s.pomPath = .ok new ∧
        ∀ c, Disk.replace (d.put place (.file (.text new) .secluded)) s.pomPath c =
          (d.put place (.file c .secluded), .ok ()) :=
  Disk.exists_place_of_readText
    ⟨by decide, by decide, by decide, by rw [String.utf8ByteSize_ofList]; decide⟩ (by decide) hread

/-- Without entries nothing is merged. -/
theorem eq_of_merge_nil
    {doc merged : List Char}
    (h : Pom.merge doc [] = some merged) :
    merged = doc := by
  unfold Pom.merge at h
  cases hproject : Pom.project? doc with
  | none => simp [hproject] at h
  | some project => simpa [hproject, Pom.mergeAll, eq_comm] using h

/-- Writing the queue leaves the disk and the context, or replaces the project model by a text that is
new and enters the model of that text. -/
theorem flush_cases
    (s : Setting)
    (w : World) :
    ((result (flush s) w).2.disk = w.disk ∧ (result (flush s) w).2.context = w.context) ∨
      ∃ text merged, w.disk.readText s.pomPath = .ok text ∧
        Pom.merge text.toList w.queue = some merged ∧ merged ≠ text.toList ∧
        w.disk.replace s.pomPath (.text (String.ofList merged)) =
          ((result (flush s) w).2.disk, .ok ()) ∧
        (result (flush s) w).2.context = modelled w.context merged := by
  by_cases hnone : ∀ text, w.disk.readText s.pomPath = .ok text →
      Pom.merge text.toList w.queue = none
  · exact Or.inl (flush_of_unmerged hnone)
  · push Not at hnone
    obtain ⟨text, hread, hsome⟩ := hnone
    obtain ⟨merged, hmerge⟩ := Option.ne_none_iff_exists'.mp hsome
    by_cases hsame : merged = text.toList
    · exact Or.inl (flush_of_merged_eq hread (hsame ▸ hmerge))
    · obtain ⟨place, hreplace, -⟩ := exists_pom_place hread
      have hqueue : w.queue ≠ [] := by
        intro hnil
        rw [hnil] at hmerge
        exact hsame (eq_of_merge_nil hmerge)
      obtain ⟨hdisk, hcontext⟩ := flush_of_merged_ne hread hmerge hsame hqueue (hreplace _)
      exact Or.inr ⟨text, merged, hread, hmerge, hsame, by rw [hdisk, hreplace], hcontext⟩

/-- What can be merged is in the file after the queue has been written. -/
theorem readText_flush
    {s : Setting}
    {w : World}
    {text : String}
    {merged : List Char}
    (hread : w.disk.readText s.pomPath = .ok text)
    (hmerge : Pom.merge text.toList w.queue = some merged) :
    (result (flush s) w).2.disk.readText s.pomPath = .ok (String.ofList merged) := by
  by_cases hsame : merged = text.toList
  · subst hsame
    rw [(flush_of_merged_eq hread hmerge).1, hread, String.ofList_toList]
  · obtain ⟨place, hreplace, hback⟩ := exists_pom_place hread
    have hqueue : w.queue ≠ [] := by
      intro hnil
      rw [hnil] at hmerge
      exact hsame (eq_of_merge_nil hmerge)
    rw [(flush_of_merged_ne hread hmerge hsame hqueue (hreplace _)).1]
    exact (hback _).1

/-- A working directory at the root, and processes that cannot be started. -/
def smallSetting : Setting where
  workDirectory := ""
  actionDirectory := ""
  rolesDirectory := "roles"
  environment := []
  deadline := 0
  system := fun _ _ _ _ => .error .noEntry

theorem isNamed_pom :
    Disk.IsNamed "pom.xml".toList :=
  Disk.isNamed_of_short (by decide) (by decide)

/-- A disk with a project model. -/
def projectWorld (text : String) : World where
  disk := .directory [("pom.xml", .file (.text text) .plain)]
  jobs := .none
  context := []
  queue := []
  prompter := .refusing
  notes := []

theorem locate_projectWorld (text : String) :
    (projectWorld text).disk.locate smallSetting.pomPath =
      .ok (.found ["pom.xml"] (.file (.text text) .plain)) := by
  have hname : Disk.IsNamed "pom.xml".toList :=
    ⟨by decide, by decide, by decide, by rw [String.utf8ByteSize_ofList]; decide⟩
  have hsize : smallSetting.pomPath.utf8ByteSize = 7 := rfl
  have hroot : (projectWorld text).disk.get? [] =
      some (.directory [("pom.xml", .file (.text text) .plain)]) := rfl
  have hparts : Text.splitOn '/' smallSetting.pomPath.toList = ["pom.xml".toList] := rfl
  rw [Disk.locate, Disk.locateFrom_eq ⟨by decide, by rw [hsize]; decide⟩ (by decide), hparts,
    Disk.follow_down hroot hname rfl rfl, Disk.follow_nil rfl]
  rfl

theorem readText_projectWorld (text : String) :
    (projectWorld text).disk.readText smallSetting.pomPath = .ok text := by
  unfold Disk.readText Disk.read Disk.tree?
  rw [locate_projectWorld]

theorem isFile_projectWorld (text : String) :
    (projectWorld text).disk.isFile smallSetting.pomPath = true := by
  unfold Disk.isFile Disk.tree?
  rw [locate_projectWorld]
  rfl

/-- A disk with an empty project. -/
def smallWorld : World :=
  projectWorld "<project/>"

end Run
end Runbook
