import Runbook.Json.Basic
import Runbook.Number.Reading
import Runbook.Text.Pieces

/-!
# JSON queries

A query is a path into a JSON document: keys, indices, and steps that take every child. Its written
form is `$.a.b`, `$.items[0].name`, `$['odd key']` or `$.items[*].id`; the leading `$` may be left out,
and the path may begin with a bare key.
-/

namespace Runbook

/-- One step of a query. -/
inductive QueryStep where
  | key (name : String)
  | index (i : Nat)
  | every
  deriving DecidableEq, Repr

/-- A path into a JSON document. -/
abbrev Query := List QueryStep

/-- What is wrong with the written form of a query. -/
inductive QueryFault where
  | emptyKey
  | unclosedBracket
  | badIndex (text : String)
  | strayCharacter (c : Char)
  deriving DecidableEq, Repr

/-- A query that could not be read, with its written form. -/
structure QueryError where
  path : String
  fault : QueryFault
  deriving DecidableEq, Repr

def QueryFault.reason : QueryFault → String
  | .emptyKey => "empty key after '.'"
  | .unclosedBracket => "unclosed '['"
  | .badIndex text => "invalid array index '" ++ text ++ "'"
  | .strayCharacter c => "unexpected character '" ++ String.singleton c ++ "'"

def QueryError.message (e : QueryError) : String :=
  "Invalid JSON path '" ++ e.path ++ "': " ++ e.fault.reason

namespace QueryStep

/-- The step between a pair of brackets: a star, a quoted key or an index. -/
def ofBracket
    (inside : List Char) :
    Except QueryFault QueryStep :=
  let body := Text.trim inside
  let quoted (mark : Char) : Option (List Char) :=
    (Text.dropPrefix? [mark] body).bind (Text.dropSuffix? [mark])
  if body = ['*'] then
    .ok .every
  else
    match (quoted '\'').or (quoted '"') with
    | some name => .ok (.key (String.ofList name))
    | none =>
        match index? body with
        | some i => .ok (.index i)
        | none => .error (.badIndex (String.ofList body))

/-- The step of a name after a point. -/
def ofName
    (name : List Char) :
    QueryStep :=
  if name = ['*'] then .every else .key (String.ofList name)

/-- The values that a step reaches from a value. -/
def reach : QueryStep → Json → List Json
  | .key name, v => (v.field? name).toList
  | .index i, v => (v.item? i).toList
  | .every, .array items => items
  | .every, .object fields => fields.map Prod.snd
  | .every, _ => []

end QueryStep

namespace Query

def endsName (c : Char) : Bool :=
  c = '.' || c = '['

/-- The steps of a path after its head. -/
def steps? : List Char → Except QueryFault Query
  | [] => .ok []
  | '.' :: s =>
      let name := s.takeWhile fun c => !endsName c
      if name.isEmpty then
        .error .emptyKey
      else
        (steps? (s.dropWhile fun c => !endsName c)).map (QueryStep.ofName name :: ·)
  | '[' :: s =>
      match _h : s.dropWhile (· ≠ ']') with
      | [] => .error .unclosedBracket
      | _ :: rest =>
          match QueryStep.ofBracket (s.takeWhile (· ≠ ']')) with
          | .error e => .error e
          | .ok step => (steps? rest).map (step :: ·)
  | c :: _ => .error (.strayCharacter c)
termination_by s => s.length
decreasing_by
  · have := (List.dropWhile_sublist (p := fun c => !endsName c) (l := s)).length_le
    simp only [List.length_cons]
    omega
  · have := (List.dropWhile_sublist (p := (· ≠ ']')) (l := s)).length_le
    rw [_h] at this
    simp only [List.length_cons] at this ⊢
    omega

/-- The query that a path without its blanks and its `$` is the written form of. -/
def ofBody?
    (s : List Char) :
    Except QueryFault Query :=
  match s with
  | [] => .ok []
  | c :: _ =>
      if endsName c then
        steps? s
      else
        let head := s.takeWhile fun c => !endsName c
        (steps? (s.dropWhile fun c => !endsName c)).map (.key (String.ofList head) :: ·)

/-- A path without the blanks around it and one leading `$`. -/
def body (s : List Char) : List Char :=
  match Text.trim s with
  | '$' :: rest => rest
  | rest => rest

def parse
    (path : String) :
    Except QueryError Query :=
  (ofBody? (body path.toList)).mapError fun fault => ⟨path, fault⟩

/-- The values reached so far, and whether a step over every child has met a value. -/
structure Frontier where
  values : List Json
  fannedOut : Bool

/-- The frontier after one more step. -/
def Frontier.advance
    (f : Frontier)
    (step : QueryStep) :
    Frontier :=
  { values := f.values.flatMap step.reach
    fannedOut := f.fannedOut || (step = .every && !f.values.isEmpty) }

/-- The answer of a query in a document: with a step over every child the array of all values that
were reached, otherwise the first value. -/
def run
    (q : Query)
    (document : Json) :
    Option Json :=
  let reached := q.foldl Frontier.advance ⟨[document], false⟩
  if reached.fannedOut then
    some (.array reached.values)
  else
    reached.values.head?

end Query
end Runbook
