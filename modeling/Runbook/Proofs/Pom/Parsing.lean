import Runbook.Proofs.Markup.Entities
import Runbook.Proofs.Markup.Excerpts
import Runbook.Proofs.Pom.Steps

/-!
# Parsed entries

What parsing returns can be written: an entry that is read from markup is the element its text is
written from, whatever stands around it, and an entry that is read from coordinates is the element
that the coordinates stand for.

Main statements: `Entry.Proper.written` and `parseAll_xml_iff`.
-/

namespace Runbook
namespace Pom

open Text Markup

/-! ## Entries read from markup -/

/-- Each result of a search comes from one of the things searched. -/
theorem exists_of_mem_mapM
    {α β ε : Type}
    {f : α → Except ε β} :
    ∀ {xs : List α} {ys : List β} {y : β}, xs.mapM f = .ok ys → y ∈ ys →
      ∃ x ∈ xs, f x = .ok y
  | [], ys, y, h, hy => by
      cases h
      simp at hy
  | x :: xs, ys, y, h, hy => by
      rw [List.mapM_cons] at h
      cases hx : f x with
      | error err =>
          rw [hx] at h
          cases h
      | ok z =>
          rw [hx] at h
          cases hxs : xs.mapM f with
          | error err =>
              rw [hxs] at h
              cases h
          | ok zs =>
              rw [hxs] at h
              cases h
              rcases List.mem_cons.mp hy with rfl | hy
              · exact ⟨x, by simp, hx⟩
              · obtain ⟨w, hw, hfw⟩ := exists_of_mem_mapM hxs hy
                exact ⟨w, by simp [hw], hfw⟩

/-- Whether a text of entries holds coordinates, not markup. -/
def HoldsCoordinates
    (kind : EntryKind)
    (text : List Char) :
    Prop :=
  (kind.hasCoordinates && (trim text).head? ≠ some '<') = true

namespace Entry

variable {kind : EntryKind}
variable {text : List Char}
variable {es : List Entry}
variable {e : Entry}

/-- An entry from markup is complete and read off an element of its kind. -/
theorem exists_element_of_parseAll
    (h : parseAll kind text = .ok es)
    (hmarkup : ¬ HoldsCoordinates kind text)
    (he : e ∈ es) :
    ∃ el ∈ elementsIn (trim text) ⟨0, byteSize (trim text)⟩, el.name = kind.element ∧
      e = ofElement kind (trim text) el ∧ e.missing? = none := by
  unfold HoldsCoordinates at hmarkup
  unfold parseAll at h
  simp only [if_neg hmarkup] at h
  split at h
  · cases h
  · cases h
  · rename_i entries _ hentries
    cases h
    obtain ⟨el, hel, hof⟩ := exists_of_mem_mapM hentries he
    rw [List.mem_filter] at hel
    refine ⟨el, hel.1, by simpa using hel.2, ?_⟩
    unfold ofElement? at hof
    simp only at hof
    split at hof
    · cases hof
    · rename_i hcomplete
      cases hof
      exact ⟨rfl, hcomplete⟩

/-- An entry from coordinates is read off a line. -/
theorem exists_line_of_parseAll
    (h : parseAll kind text = .ok es)
    (hcoordinates : HoldsCoordinates kind text)
    (he : e ∈ es) :
    ∃ line, ofCoordinate? kind line = .ok e := by
  unfold HoldsCoordinates at hcoordinates
  unfold parseAll at h
  simp only [if_pos hcoordinates] at h
  obtain ⟨line, -, hline⟩ := exists_of_mem_mapM h he
  exact ⟨line, hline⟩

end Entry

/-! ## Entries read from coordinates -/

/-- A text with its entities decoded. -/
def decodeText (v : String) : String :=
  String.ofList (decodeEntities v.toList)

theorem decodeText_eq_self_iff
    (v : String) :
    decodeText v = v ↔ decodeEntities v.toList = v.toList := by
  rw [decodeText, ← String.toList_inj, String.toList_ofList]

theorem decodeText_ne_empty
    {v : String}
    (hv : v ≠ "") :
    decodeText v ≠ "" := by
  intro h
  rw [decodeText, ← String.toList_inj, String.toList_ofList] at h
  refine decodeEntities_ne_nil (fun hnil => hv ?_) h
  rw [← String.toList_inj, hnil]
  rfl

/-- The entry with the entities in its fields decoded. -/
def Entry.decoded (e : Entry) : Entry :=
  { e with
    groupId := e.groupId.map decodeText
    artifactId := e.artifactId.map decodeText
    version := e.version.map decodeText
    scope := e.scope.map decodeText
    packaging := e.packaging.map decodeText
    classifier := e.classifier.map decodeText
    id := e.id.map decodeText
    url := e.url.map decodeText }

theorem Entry.decoded_eq_self_iff
    (e : Entry) :
    e.decoded = e ↔ ∀ v ∈ e.texts, decodeEntities v.toList = v.toList := by
  have hfield : ∀ o : Option String, o.map decodeText = o ↔
      ∀ v, o = some v → decodeEntities v.toList = v.toList := by
    intro o
    cases o with
    | none => simp
    | some v => simp [decodeText_eq_self_iff]
  rw [Entry.decoded]
  obtain ⟨kind, groupId, artifactId, version, scope, packaging, classifier, id, url, xml⟩ := e
  simp only [Entry.mk.injEq, true_and, and_true, hfield, Entry.mem_texts, List.mem_cons,
    List.not_mem_nil, or_false]
  constructor
  · rintro ⟨h₁, h₂, h₃, h₄, h₅, h₆, h₇, h₈⟩ v (h | h | h | h | h | h | h | h)
    · exact h₁ v h.symm
    · exact h₂ v h.symm
    · exact h₃ v h.symm
    · exact h₄ v h.symm
    · exact h₅ v h.symm
    · exact h₆ v h.symm
    · exact h₇ v h.symm
    · exact h₈ v h.symm
  · intro h
    refine ⟨?_, ?_, ?_, ?_, ?_, ?_, ?_, ?_⟩ <;>
      · rintro v rfl
        exact h v (by simp)

/-- Decoding leaves the fields that an entry has and lacks. -/
theorem Entry.missing?_decoded
    (e : Entry) :
    e.decoded.missing? = e.missing? := by
  simp [Entry.missing?, Entry.decoded]

/-- A text that may stand between two tags. -/
def IsContent (v : String) : Prop :=
  ∃ row : List Node, writeRow row = v.toList

/-- A text that can be the field of coordinates: without blanks around it, and the content of an
element. -/
structure Part where
  text : String
  visible : text ≠ ""
  trimmed : trim text.toList = text.toList
  row : List Node
  written : writeRow row = text.toList

/-- The element that holds a field. -/
def leaf
    (tag : Name)
    (part : Part) :
    Node :=
  .element tag .none part.row .none

theorem leaf_text
    (tag : Name)
    (part : Part) :
    (leaf tag part).text = decodeText part.text := by
  simp [leaf, Node.text, Node.content, part.written, part.trimmed, decodeText]

theorem leaf_isNamed
    (tag : Name)
    (part : Part)
    (name : String) :
    (leaf tag part).isNamed name = decide (String.ofList tag.chars = name) := by
  simp [leaf, Node.isNamed, Node.name?]

/-- A row of fields, one to a line. -/
def leafRow (fields : List (Name × Part)) : List Node :=
  spread ['\n', ' ', ' ', ' ', ' '] (by decide) (fields.map fun f => leaf f.1 f.2) ++
    [blankNode ['\n'] (by decide)]

theorem elements_leafRow
    (fields : List (Name × Part)) :
    elements (leafRow fields) = fields.map fun f => leaf f.1 f.2 := by
  have hall : elements (fields.map fun f => leaf f.1 f.2) = fields.map fun f => leaf f.1 f.2 := by
    rw [elements, List.filter_eq_self]
    intro n hn
    obtain ⟨f, -, rfl⟩ := List.mem_map.mp hn
    rfl
  rw [leafRow, elements_append, elements_spread, hall]
  simp

/-- The field of a name is the first part of the name, decoded. -/
theorem field?_leafRow
    (fields : List (Name × Part))
    (name : String) :
    field? (leafRow fields) name =
      (fields.find? fun f => String.ofList f.1.chars = name).map fun f => decodeText f.2.text := by
  rw [field?, child?, elements_leafRow]
  induction fields with
  | nil => rfl
  | cons f fields ih =>
      by_cases hf : String.ofList f.1.chars = name
      · simp [leaf_isNamed, hf, leaf_text, decodeText_ne_empty f.2.visible]
      · simpa [leaf_isNamed, hf] using ih

/-- The element that coordinates stand for. -/
def coordinateNode (fields : List (Name × Part)) : Node :=
  .element (.ofString "dependency" (by decide)) .none (leafRow fields) .none

/-- The names of the fields that coordinates give. -/
def groupName : Name :=
  .ofString "groupId" (by decide)

def artifactName : Name :=
  .ofString "artifactId" (by decide)

def versionName : Name :=
  .ofString "version" (by decide)

def scopeName : Name :=
  .ofString "scope" (by decide)

/-- The fields that coordinates give. -/
def coordinateFields
    (group artifact : Part)
    (version scope : Option Part) :
    List (Name × Part) :=
  [(groupName, group), (artifactName, artifact)] ++
    (version.map fun v => (versionName, v)).toList ++ (scope.map fun s => (scopeName, s)).toList

/-- The text of coordinates is written from their element. -/
theorem toList_coordinateXml
    (group artifact : Part)
    (version scope : Option Part) :
    (Entry.coordinateXml group.text artifact.text (version.map Part.text)
        (scope.map Part.text)).toList =
      (coordinateNode (coordinateFields group artifact version scope)).write := by
  cases version <;> cases scope <;>
    simp [Entry.coordinateXml, coordinateNode, coordinateFields, leafRow, spread, leaf, openingTag,
      closingTag, Attributes.none, Name.ofString, groupName, artifactName, versionName, scopeName,
      Part.written]

/-- The element of coordinates has their entry, decoded. -/
theorem entryOf_coordinateNode
    (kind : EntryKind)
    (group artifact : Part)
    (version scope : Option Part) :
    entryOf kind (coordinateNode (coordinateFields group artifact version scope)) =
      (Entry.ofParts kind group.text artifact.text (version.map Part.text)
        (scope.map Part.text)).decoded := by
  have hvisible : ∀ o : Option Part, (o.map Part.text).filter (· ≠ "") = o.map Part.text := by
    intro o
    cases o with
    | none => rfl
    | some part => simp [part.visible]
  have hxml := toList_coordinateXml group artifact version scope
  have hfield : ∀ name,
      field? (coordinateNode (coordinateFields group artifact version scope)).content name =
        ((coordinateFields group artifact version scope).find?
          fun f => String.ofList f.1.chars = name).map fun f => decodeText f.2.text :=
    field?_leafRow _
  simp only [Entry.ofParts, Entry.decoded, entryOf, hvisible, hfield, ← hxml, String.ofList_toList,
    Entry.mk.injEq, true_and, and_true]
  cases version <;> cases scope <;>
    simp [coordinateFields, Name.ofString, groupName, artifactName, versionName, scopeName]

/-- A text without blanks around it. -/
def Trimmed (v : String) : Prop :=
  ∃ s, v = String.ofList (trim s)

/-- An entry from a line has trimmed parts, with a group and an artifact among them. -/
theorem Entry.exists_parts_of_ofCoordinate?
    {kind : EntryKind}
    {line : List Char}
    {e : Entry}
    (h : Entry.ofCoordinate? kind line = .ok e) :
    ∃ group artifact version scope, e = Entry.ofParts kind group artifact version scope ∧
      group ≠ "" ∧ artifact ≠ "" ∧ Trimmed group ∧ Trimmed artifact ∧
      (∀ v ∈ version, Trimmed v) ∧ ∀ v ∈ scope, Trimmed v := by
  have hparts : ∀ p ∈ (splitOn ':' line).map fun part => String.ofList (trim part), Trimmed p := by
    intro p hp
    obtain ⟨part, -, rfl⟩ := List.mem_map.mp hp
    exact ⟨part, rfl⟩
  have hmade : ∀ (group artifact : String) (version scope : Option String),
      (if group = "" || artifact = "" then
        (.error (.badCoordinate (String.ofList line)) : Except EntryError Entry)
      else .ok (Entry.ofParts kind group artifact version scope)) = .ok e →
      e = Entry.ofParts kind group artifact version scope ∧ group ≠ "" ∧ artifact ≠ "" := by
    intro group artifact version scope hok
    by_cases hempty : (group = "" || artifact = "") = true
    · rw [if_pos hempty] at hok
      cases hok
    · rw [if_neg hempty] at hok
      cases hok
      simpa using hempty
  unfold Entry.ofCoordinate? at h
  simp only at h
  split at h
  · rename_i g a heq
    rw [heq] at hparts
    obtain ⟨hentry, hg, ha⟩ := hmade g a none none h
    exact ⟨g, a, none, none, hentry, hg, ha, hparts g (by simp), hparts a (by simp), by simp,
      by simp⟩
  · rename_i g a v heq
    rw [heq] at hparts
    obtain ⟨hentry, hg, ha⟩ := hmade g a (some v) none h
    refine ⟨g, a, some v, none, hentry, hg, ha, hparts g (by simp), hparts a (by simp), ?_,
      by simp⟩
    intro w hw
    cases hw
    exact hparts v (by simp)
  · rename_i g a v s heq
    rw [heq] at hparts
    obtain ⟨hentry, hg, ha⟩ := hmade g a (some v) (some s) h
    refine ⟨g, a, some v, some s, hentry, hg, ha, hparts g (by simp), hparts a (by simp), ?_, ?_⟩
    · intro w hw
      cases hw
      exact hparts v (by simp)
    · intro w hw
      cases hw
      exact hparts s (by simp)
  · cases h

/-- A text without markup in it. -/
def Unmarked (v : String) : Prop :=
  ∀ c ∈ v.toList, c ∉ ['<', '>', '&']

theorem isContent_of_not_mem
    {v : String}
    (h : '<' ∉ v.toList) :
    IsContent v :=
  ⟨[.piece (.text v.toList h)], by simp [Piece.write]⟩

theorem exists_part
    {v : String}
    (hvisible : v ≠ "")
    (htrimmed : Trimmed v)
    (hcontent : IsContent v) :
    ∃ part : Part, part.text = v := by
  obtain ⟨row, hrow⟩ := hcontent
  refine ⟨⟨v, hvisible, ?_, row, hrow⟩, rfl⟩
  obtain ⟨s, rfl⟩ := htrimmed
  rw [String.toList_ofList]
  exact trim_of_tight (tight_trim s)

/-- An optional part of coordinates, where an empty one is none. -/
theorem exists_part?
    {o : Option String}
    (htrimmed : ∀ v ∈ o, Trimmed v)
    (hcontent : ∀ v, o.filter (· ≠ "") = some v → IsContent v) :
    ∃ part : Option Part, part.map Part.text = o.filter (· ≠ "") := by
  cases hfilter : o.filter (· ≠ "") with
  | none => exact ⟨none, rfl⟩
  | some v =>
      obtain ⟨ho, hvisible⟩ := Option.filter_eq_some_iff.mp hfilter
      obtain ⟨part, rfl⟩ :=
        exists_part (by simpa using hvisible) (htrimmed v ho) (hcontent v hfilter)
      exact ⟨some part, rfl⟩

theorem Entry.complete_of_ofCoordinate?
    {kind : EntryKind}
    {line : List Char}
    {e : Entry}
    (hkind : kind.element = "dependency")
    (h : Entry.ofCoordinate? kind line = .ok e) :
    e.missing? = none := by
  obtain ⟨g, a, version, scope, rfl, -⟩ := Entry.exists_parts_of_ofCoordinate? h
  cases kind with
  | dependency => rfl
  | managed => rfl
  | repository => simp [EntryKind.element] at hkind
  | plugin => simp [EntryKind.element] at hkind

/-- The text of an entry from coordinates is written from an element that has the entry, decoded, if its
parts may stand between two tags. -/
theorem Entry.exists_node_of_ofCoordinate?
    {kind : EntryKind}
    {line : List Char}
    {e : Entry}
    (hkind : kind.element = "dependency")
    (h : Entry.ofCoordinate? kind line = .ok e)
    (hcontent : ∀ v ∈ e.texts, IsContent v) :
    ∃ n : Node, n.isNamed kind.element = true ∧ e.xml.toList = n.write ∧
      entryOf kind n = e.decoded := by
  obtain ⟨g, a, version, scope, rfl, hg, ha, htg, hta, htv, hts⟩ :=
    Entry.exists_parts_of_ofCoordinate? h
  have htext : ∀ o v, o = some v →
      o ∈ [some g, some a, version.filter (· ≠ ""), scope.filter (· ≠ "")] → IsContent v := by
    intro o v ho hmem
    refine hcontent v (Entry.mem_texts.mpr ?_)
    subst ho
    simp only [Entry.ofParts, List.mem_cons] at hmem ⊢
    tauto
  obtain ⟨group, rfl⟩ := exists_part hg htg (htext _ _ rfl (by simp))
  obtain ⟨artifact, rfl⟩ := exists_part ha hta (htext _ _ rfl (by simp))
  obtain ⟨version', hversion⟩ :=
    exists_part? htv fun v hv => htext _ v hv (by simp)
  obtain ⟨scope', hscope⟩ :=
    exists_part? hts fun v hv => htext _ v hv (by simp)
  have hsame : Entry.ofParts kind group.text artifact.text version scope =
      Entry.ofParts kind group.text artifact.text (version'.map Part.text) (scope'.map Part.text) := by
    rw [hversion, hscope]
    simp [Entry.ofParts, Option.filter_filter]
  refine ⟨coordinateNode (coordinateFields group artifact version' scope'), ?_, ?_, ?_⟩
  · simp [hkind, coordinateNode, Node.isNamed, Node.name?, Name.ofString]
  · rw [← toList_coordinateXml, hversion, hscope]
    rfl
  · rw [hsame, entryOf_coordinateNode]

/-! ## What parsing returns -/

/-- An entry that parsing returns. -/
def Entry.Parsed (e : Entry) : Prop :=
  ∃ text es, Entry.parseAll e.kind text = .ok es ∧ e ∈ es

/-- Only kinds that are written as dependencies have coordinates. -/
theorem HoldsCoordinates.element_eq
    {kind : EntryKind}
    {text : List Char}
    (h : HoldsCoordinates kind text) :
    kind.element = "dependency" := by
  simp only [HoldsCoordinates, Bool.and_eq_true] at h
  have hhas := h.1
  cases kind with
  | dependency => rfl
  | managed => rfl
  | repository => simp [EntryKind.hasCoordinates] at hhas
  | plugin => simp [EntryKind.hasCoordinates] at hhas

namespace Entry.Parsed

variable {e : Entry}

/-- A parsed entry has the fields that its kind needs. -/
theorem complete
    (h : e.Parsed) :
    e.missing? = none := by
  obtain ⟨text, es, hparse, he⟩ := h
  by_cases hform : HoldsCoordinates e.kind text
  · obtain ⟨line, hline⟩ := Entry.exists_line_of_parseAll hparse hform he
    exact Entry.complete_of_ofCoordinate? hform.element_eq hline
  · obtain ⟨-, -, -, -, hcomplete⟩ := Entry.exists_element_of_parseAll hparse hform he
    exact hcomplete

/-- No field of a parsed entry is empty. -/
theorem ne_empty
    (h : e.Parsed)
    {v : String}
    (hv : v ∈ e.texts) :
    v ≠ "" := by
  obtain ⟨text, es, hparse, he⟩ := h
  have ho := Entry.mem_texts.mp hv
  by_cases hform : HoldsCoordinates e.kind text
  · obtain ⟨line, hline⟩ := Entry.exists_line_of_parseAll hparse hform he
    obtain ⟨g, a, version, scope, hentry, hg, ha, -⟩ := Entry.exists_parts_of_ofCoordinate? hline
    rw [hentry] at ho
    have hfilter : ∀ o : Option String, some v = o.filter (· ≠ "") → v ≠ "" := by
      intro o hsome
      simpa using (Option.filter_eq_some_iff.mp hsome.symm).2
    simp only [Entry.ofParts, List.mem_cons, Option.some.injEq, List.not_mem_nil, or_false,
      reduceCtorEq] at ho
    rcases ho with rfl | rfl | ho | ho
    · exact hg
    · exact ha
    · exact hfilter _ ho
    · exact hfilter _ ho
  · obtain ⟨el, -, -, hentry, -⟩ := Entry.exists_element_of_parseAll hparse hform he
    have hfield : ∀ name, some v = el.childText? (trim text) name → v ≠ "" := by
      intro name hsome
      simpa using (Option.filter_eq_some_iff.mp hsome.symm).2
    rw [hentry] at ho
    simp only [Entry.ofElement, List.mem_cons, List.not_mem_nil, or_false] at ho
    rcases ho with ho | ho | ho | ho | ho | ho | ho | ho <;> exact hfield _ ho

end Entry.Parsed

/-! ## Entries that can be written -/

/-- An entry that parsing returns and that can be written. From markup, its text is an element of
the trees considered here; from coordinates, its parts hold no markup. -/
structure Entry.Proper (e : Entry) : Prop where
  oneLine : e.OneLine
  parsed : ∃ text es, Entry.parseAll e.kind text = .ok es ∧ e ∈ es ∧
    (¬ HoldsCoordinates e.kind text → ∃ n : Node, n.isElement = true ∧ e.xml.toList = n.write) ∧
    (HoldsCoordinates e.kind text → ∀ v ∈ e.texts, Unmarked v)

theorem Entry.Proper.written
    {e : Entry}
    (h : e.Proper) :
    e.Written := by
  obtain ⟨text, es, hparse, he, hmarkup, hcoordinates⟩ := h.parsed
  by_cases hform : HoldsCoordinates e.kind text
  · obtain ⟨line, hline⟩ := Entry.exists_line_of_parseAll hparse hform he
    have hkind := hform.element_eq
    have hplain := hcoordinates hform
    obtain ⟨n, hn, -, hentry⟩ := Entry.exists_node_of_ofCoordinate? hkind hline fun v hv =>
      isContent_of_not_mem fun hlt => hplain v hv _ hlt (by decide)
    have hdecoded : e.decoded = e := e.decoded_eq_self_iff.mpr fun v hv =>
      decodeEntities_of_not_mem fun hamp => hplain v hv _ hamp (by decide)
    exact ⟨h.oneLine, Entry.complete_of_ofCoordinate? hkind hline, n, hn,
      (hentry.trans hdecoded).symm⟩
  · obtain ⟨n, hn, hxml⟩ := hmarkup hform
    obtain ⟨el, hel, hname, hentry, hcomplete⟩ := Entry.exists_element_of_parseAll hparse hform he
    -- The element of the node is not empty, so the slice it was read from was found.
    have hslice : slice? (trim text) el.outer = some n.write := by
      rw [hentry] at hxml
      simp only [Entry.ofElement, slice, String.toList_ofList] at hxml
      cases hs : slice? (trim text) el.outer with
      | none =>
          rw [hs] at hxml
          exact absurd hxml.symm (Node.write_ne_nil hn)
      | some x =>
          rw [hs] at hxml
          simpa using hxml
    have hrep := represents_of_slice? hn hel hslice
    refine ⟨h.oneLine, hcomplete, n, ?_, hentry.trans (ofElement_eq hrep e.kind)⟩
    rw [hrep.isNamed_eq, hname]
    simp

/-! ## Coordinates and markup -/

/-- An element written on its own is read as its entry. -/
theorem parseAll_write
    {kind : EntryKind}
    {n : Node}
    (hn : n.isNamed kind.element = true)
    (hcomplete : (entryOf kind n).missing? = none) :
    Entry.parseAll kind n.write = .ok [entryOf kind n] := by
  have helement := Node.isElement_of_isNamed hn
  obtain ⟨hhead, hlast⟩ := Node.write_bracketed (Node.isText_of_isElement helement)
  have htrim : trim n.write = n.write := by
    refine trim_of_tight ⟨fun c hc => ?_, fun c hc => ?_⟩
    · rw [hhead] at hc
      cases hc
      decide
    · rw [hlast] at hc
      cases hc
      decide
  obtain ⟨el, hel⟩ := Node.exists_element helement 0
  have hwhole : StandsAt n.write 0 (writeRow [n]) := by
    simpa using StandsAt.whole n.write
  have hrep : Represents n.write el n := ⟨0, StandsAt.whole n.write, hel⟩
  -- The row of the element alone has this element and no other.
  have helements : elementsIn n.write ⟨0, byteSize n.write⟩ = [el] := by
    have hrow := elementsIn_row hwhole
    simpa [rowElements, hel] using hrow
  have hname : el.name = kind.element := by
    simpa [hrep.isNamed_eq] using hn
  have hentry : Entry.ofElement? kind n.write el = .ok (entryOf kind n) := by
    simp only [Entry.ofElement?, ofElement_eq hrep, hcomplete]
  have hmarkup : ¬ (kind.hasCoordinates && n.write.head? ≠ some '<') = true := by
    simp [hhead]
  simp only [Entry.parseAll, htrim, if_neg hmarkup, helements]
  simp [hname, hentry]

/-- Coordinates and markup agree: the element that coordinates are written as is read as the entry
they stand for, with the entities in its fields decoded. So the same entry is read exactly when no
field has an entity in it. -/
theorem parseAll_xml_iff
    {kind : EntryKind}
    {text : List Char}
    {es : List Entry}
    (hform : HoldsCoordinates kind text)
    (hparse : Entry.parseAll kind text = .ok es)
    {e : Entry}
    (he : e ∈ es)
    (hcontent : ∀ v ∈ e.texts, IsContent v) :
    Entry.parseAll kind e.xml.toList = .ok [e.decoded] ∧
      (Entry.parseAll kind e.xml.toList = .ok [e] ↔
        ∀ v ∈ e.texts, ∀ p ∈ entities, ¬ p.1.toList <:+: v.toList) := by
  obtain ⟨line, hline⟩ := Entry.exists_line_of_parseAll hparse hform he
  obtain ⟨n, hn, hxml, hentry⟩ :=
    Entry.exists_node_of_ofCoordinate? hform.element_eq hline hcontent
  have hcomplete : (entryOf kind n).missing? = none := by
    rw [hentry, Entry.missing?_decoded]
    exact Entry.complete_of_ofCoordinate? hform.element_eq hline
  have hread : Entry.parseAll kind e.xml.toList = .ok [e.decoded] := by
    rw [hxml, parseAll_write hn hcomplete, hentry]
  refine ⟨hread, ?_⟩
  rw [hread, Except.ok.injEq, List.cons.injEq, and_iff_left rfl, Entry.decoded_eq_self_iff]
  exact forall₂_congr fun v _ => decodeEntities_eq_self_iff v.toList

/-- The entry of the coordinates `g:a&amp;b:1.0`. -/
def ampersandEntry : Entry :=
  Entry.ofParts .dependency "g" "a&amp;b" (some "1.0") none

theorem parseAll_xml_iff_ampersand :
    Entry.parseAll .dependency "g:a&amp;b:1.0".toList = .ok [ampersandEntry] ∧
      Entry.parseAll .dependency ampersandEntry.xml.toList = .ok [ampersandEntry.decoded] ∧
      Entry.parseAll .dependency ampersandEntry.xml.toList ≠ .ok [ampersandEntry] := by
  have hform : HoldsCoordinates .dependency "g:a&amp;b:1.0".toList := by rfl
  have hparse : Entry.parseAll .dependency "g:a&amp;b:1.0".toList = .ok [ampersandEntry] := by rfl
  have htexts : ampersandEntry.texts = ["g", "a&amp;b", "1.0"] := by rfl
  have hcontent : ∀ v ∈ ampersandEntry.texts, IsContent v := by
    intro v hv
    rw [htexts] at hv
    refine isContent_of_not_mem ?_
    revert v
    decide
  obtain ⟨hread, hiff⟩ := parseAll_xml_iff hform hparse (List.mem_singleton_self _) hcontent
  refine ⟨hparse, hread, fun hsame => ?_⟩
  exact hiff.mp hsame "a&amp;b" (by simp [htexts]) ("&amp;", '&') (by decide) (by decide)

end Pom
end Runbook
