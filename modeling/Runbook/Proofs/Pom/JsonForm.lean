import Runbook.Pom.Model
import Runbook.Proofs.Json.Dictionary

/-!
# Models in JSON

A project model is read back from its JSON form, whatever its texts are. What it takes is that its
properties are a dictionary, as those of every model are that is read from a text.

Main statements: `Model.ofJson?_toJson` and `sorted_of_parse?`.
-/

namespace Runbook
namespace Pom

@[simp] theorem readText?_ofString?
    (o : Option String) :
    readText? (some (Json.ofString? o)) = some o := by
  cases o <;> rfl

/-- The last field of a name among optional ones. -/
@[simp] theorem find?_reverse_optionalField
    (key name : String)
    (o : Option String) :
    (optionalField name o).reverse.find? (fun p => p.1 = key) =
      if name = key then o.map fun v => (name, Json.string v) else none := by
  cases o <;> simp [optionalField, List.find?_singleton]

@[simp] theorem readText?_map
    (name : String)
    (o : Option String) :
    readText? (o.map (Prod.snd ∘ fun v => (name, Json.string v))) = some o := by
  cases o <;> rfl

@[simp] theorem Artifact.ofJson?_toJson
    (a : Artifact) :
    Artifact.ofJson? a.toJson = some a := by
  simp [Artifact.ofJson?, Artifact.toJson, Json.ofFields, RecordForm.of?, RecordForm.get?,
    Dict.get?_ofList, readTextOr?]

@[simp] theorem Repository.ofJson?_toJson
    (r : Repository) :
    Repository.ofJson? r.toJson = some r := by
  simp [Repository.ofJson?, Repository.toJson, Json.ofFields, RecordForm.of?, RecordForm.get?,
    Dict.get?_ofList]

/-- What is written item by item is read back item by item. -/
theorem readList?_map
    {α : Type}
    {read? : Json → Option α}
    {write : α → Json}
    (h : ∀ a, read? (write a) = some a)
    (items : List α) :
    readList? read? (some (.array (items.map write))) = some items := by
  rw [readList?]
  induction items with
  | nil => rfl
  | cons a rest ih => simp [h, ih]

/-- A dictionary of texts is read back. -/
theorem readTexts?_ofFields
    {texts : Dict String}
    (h : Dict.Sorted texts) :
    readTexts? (some (Json.ofFields (texts.map fun p => (p.1, Json.string p.2)))) =
      some texts := by
  have hfields : Dict.ofList (texts.map fun p => (p.1, Json.string p.2)) =
      texts.map fun p => (p.1, Json.string p.2) := by
    have hmap := Dict.map_ofList Json.string texts
    rw [Dict.ofList_of_sorted h] at hmap
    exact hmap.symm
  rw [Json.ofFields, hfields, readTexts?]
  clear h hfields
  induction texts with
  | nil => rfl
  | cons p rest ih => simp [ih]

/-- A model is read back from its JSON form. -/
theorem Model.ofJson?_toJson
    {m : Model}
    (h : Dict.Sorted m.properties) :
    Model.ofJson? m.toJson = some m := by
  have hproperties := readTexts?_ofFields h
  rw [Model.toJson, Json.ofFields, Model.ofJson?]
  generalize Json.ofFields (m.properties.map fun p => (p.1, Json.string p.2)) = properties
    at hproperties ⊢
  simp [RecordForm.of?, RecordForm.get?, Dict.get?_ofList, readTextOr?, hproperties,
    readList?_map Artifact.ofJson?_toJson, readList?_map Repository.ofJson?_toJson]

/-- The properties of a model that is read from a text are a dictionary. -/
theorem sorted_of_parse?
    {doc : List Char}
    {m : Model}
    (h : Model.parse? doc = some m) :
    Dict.Sorted m.properties := by
  obtain ⟨project, -, rfl⟩ := Option.map_eq_some_iff.mp h
  unfold Model.ofProject
  dsimp only
  split
  · exact List.Pairwise.nil
  · exact Dict.sorted_ofList _

end Pom
end Runbook
