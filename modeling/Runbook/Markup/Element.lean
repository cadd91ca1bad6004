import Runbook.Text.Pieces
import Runbook.Text.Utf8
import Runbook.Text.Letter

/-!
# Tags and elements of a document

Tags are found where they stand, with their byte offsets, and nothing of the document is changed or
copied. A tag is a `<`, maybe a `/`, a name, and anything up to the next `>`. Inside comments and
character data tags do not count.

An element is known by its name and by where it and its content stand. The children of an element
are found by matching the tags inside it; markup that does not balance ends the search, and what was
found before it stays.
-/

namespace Runbook
namespace Markup

/-- A tag in a document. `selfClosing` tags end in `/>`. -/
structure Tag where
  name : String
  span : Text.Span
  closing : Bool
  selfClosing : Bool
  deriving DecidableEq, Repr

def startsName (c : Char) : Bool :=
  c.isAlpha || c = '_'

/-- A character that may stand in a name. -/
def continuesName (c : Char) : Bool :=
  Text.isWord c || c = '.' || c = '-' || c = ':'

/-- The end of a tag after its name: whether it is self-closing, and the number of characters up to
its `>`. A slash takes the character after it along unless that is the `>`. -/
def tagEnd? : List Char → Option (Bool × Nat)
  | [] => none
  | '>' :: _ => some (false, 1)
  | ['/'] => none
  | '/' :: '>' :: _ => some (true, 2)
  | '/' :: _ :: s => (tagEnd? s).map fun p => (p.1, p.2 + 2)
  | _ :: s => (tagEnd? s).map fun p => (p.1, p.2 + 1)

/-- A tag read at the front of a text, with its number of characters. -/
structure TagForm where
  name : List Char
  closing : Bool
  selfClosing : Bool
  length : Nat
  deriving DecidableEq, Repr

/-- The tag after its `<` and its slash; `taken` counts the characters before the name. -/
def tagBody?
    (closing : Bool)
    (taken : Nat) :
    List Char → Option TagForm
  | [] => none
  | c :: s =>
      if startsName c then
        let name := c :: s.takeWhile continuesName
        (tagEnd? (s.dropWhile continuesName)).map fun p =>
          ⟨name, closing, p.1, taken + name.length + p.2⟩
      else
        none

/-- The tag that a text starts with. -/
def tagAt? : List Char → Option TagForm
  | '<' :: '/' :: s => tagBody? true 2 s
  | '<' :: s => tagBody? false 1 s
  | _ => none

/-- The tags of a text that begins at a byte offset, from left to right; the first `skip` characters
belong to an earlier tag. -/
def tagsFrom : Nat → Nat → List Char → List Tag
  | _, _, [] => []
  | offset, skip + 1, c :: s => tagsFrom (offset + c.utf8Size) skip s
  | offset, 0, c :: s =>
      match tagAt? (c :: s) with
      | some t =>
          let stop := offset + Text.byteSize ((c :: s).take t.length)
          ⟨String.ofList t.name, ⟨offset, stop⟩, t.closing, t.selfClosing⟩ ::
            tagsFrom (offset + c.utf8Size) (t.length - 1) s
      | none => tagsFrom (offset + c.utf8Size) 0 s

/-- The number of characters up to and including the first occurrence of a mark. -/
def lengthThrough?
    (mark : List Char) :
    List Char → Option Nat
  | [] => none
  | c :: s =>
      if mark.isPrefixOf (c :: s) then some mark.length
      else (lengthThrough? mark s).map (· + 1)

/-- The number of characters of the comment or character data that a text starts with. -/
def shieldAt? : List Char → Option Nat
  | '<' :: '!' :: '-' :: '-' :: s =>
      (lengthThrough? ['-', '-', '>'] s).map (· + 4)
  | '<' :: '!' :: '[' :: 'C' :: 'D' :: 'A' :: 'T' :: 'A' :: '[' :: s =>
      (lengthThrough? [']', ']', '>'] s).map (· + 9)
  | _ => none

/-- Where the comments and character data of a text stand that begins at a byte offset. -/
def shieldsFrom : Nat → Nat → List Char → List Text.Span
  | _, _, [] => []
  | offset, skip + 1, c :: s => shieldsFrom (offset + c.utf8Size) skip s
  | offset, 0, c :: s =>
      match shieldAt? (c :: s) with
      | some n =>
          ⟨offset, offset + Text.byteSize ((c :: s).take n)⟩ ::
            shieldsFrom (offset + c.utf8Size) (n - 1) s
      | none => shieldsFrom (offset + c.utf8Size) 0 s

/-- The tags of a text that begins at a byte offset, without those that begin inside a comment or
inside character data. -/
def tagsOf
    (offset : Nat)
    (s : List Char) :
    List Tag :=
  let shields := shieldsFrom offset 0 s
  (tagsFrom offset 0 s).filter fun t => !shields.any fun r => r.covers t.span.start

/-- The tags in a range of a document; none when the range does not fit the document. -/
def tagsIn
    (doc : List Char)
    (range : Text.Span) :
    List Tag :=
  match Text.slice? doc range with
  | none => []
  | some s => tagsOf range.start s

/-! ## Elements -/

/-- An element of a document: `outer` runs from the `<` of its opening tag to the `>` of its closing
tag, `inner` is what stands between the two tags. -/
structure Element where
  name : String
  outer : Text.Span
  inner : Text.Span
  selfClosing : Bool
  deriving DecidableEq, Repr

/-- The element of a self-closing tag. -/
def Element.ofEmptyTag
    (t : Tag) :
    Element :=
  ⟨t.name, t.span, ⟨t.span.stop, t.span.stop⟩, true⟩

def Element.between
    (opening closing : Tag) :
    Element :=
  ⟨opening.name, ⟨opening.span.start, closing.span.stop⟩,
    ⟨opening.span.stop, closing.span.start⟩, false⟩

/-- The outermost elements that a row of tags forms, given the tags still open. -/
def elementsOf : List Tag → List Tag → List Element
  | [], _ => []
  | t :: rest, stack =>
      if t.selfClosing then
        if stack.isEmpty then
          Element.ofEmptyTag t :: elementsOf rest stack
        else
          elementsOf rest stack
      else if !t.closing then
        elementsOf rest (t :: stack)
      else
        match stack with
        | [] => []
        | opening :: outer =>
            if opening.name = t.name then
              if outer.isEmpty then
                Element.between opening t :: elementsOf rest outer
              else
                elementsOf rest outer
            else
              []

/-- The elements directly inside a range of a document, in document order. -/
def elementsIn
    (doc : List Char)
    (range : Text.Span) :
    List Element :=
  elementsOf (tagsIn doc range) []

def Element.children
    (e : Element)
    (doc : List Char) :
    List Element :=
  elementsIn doc e.inner

def Element.child?
    (e : Element)
    (doc : List Char)
    (name : String) :
    Option Element :=
  (e.children doc).find? fun c => c.name = name

def Element.childrenNamed
    (e : Element)
    (doc : List Char)
    (name : String) :
    List Element :=
  (e.children doc).filter fun c => c.name = name

def root? (doc : List Char) : Option Element :=
  (elementsIn doc ⟨0, Text.byteSize doc⟩).head?

/-- The predefined entities with the characters they stand for, in the order in which they are
decoded. -/
def entities : List (String × Char) :=
  [("&lt;", '<'), ("&gt;", '>'), ("&quot;", '"'), ("&apos;", '\''), ("&amp;", '&')]

/-- A text with its predefined entities replaced by what they stand for. -/
def decodeEntities (s : List Char) : List Char :=
  entities.foldl (fun t p => Text.replaceAll p.1.toList [p.2] t) s

/-- The content of an element as text: without blanks around it and with entities decoded. -/
def Element.text
    (e : Element)
    (doc : List Char) :
    String :=
  String.ofList (decodeEntities (Text.trim (Text.slice doc e.inner)))

/-- The text of the first child of a name, unless it is empty. -/
def Element.childText?
    (e : Element)
    (doc : List Char)
    (name : String) :
    Option String :=
  ((e.child? doc name).map fun c => c.text doc).filter fun t => t ≠ ""

end Markup
end Runbook
