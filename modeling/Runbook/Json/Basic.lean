import Runbook.Number.Binary

/-!
# Dictionaries and JSON values

`Dict` is a list of keys and values in increasing order of keys, which is how every map of this
library is shown and written. JSON objects are dictionaries; JSON numbers are integers of 64 bits or
finite doubles.
-/

namespace Runbook

/-- Keys with values, in increasing order of the keys. -/
abbrev Dict (α : Type) := List (String × α)

namespace Dict

def get?
    {α : Type}
    (d : Dict α)
    (key : String) :
    Option α :=
  match d with
  | [] => none
  | (k, v) :: rest => if k = key then some v else get? rest key

/-- Sets the value of a key, in its place in the order. -/
def insert
    {α : Type}
    (d : Dict α)
    (key : String)
    (value : α) :
    Dict α :=
  match d with
  | [] => [(key, value)]
  | (k, v) :: rest =>
      if k = key then (key, value) :: rest
      else if key < k then (key, value) :: (k, v) :: rest
      else (k, v) :: insert rest key value

def erase
    {α : Type}
    (d : Dict α)
    (key : String) :
    Dict α :=
  d.filter fun p => p.1 ≠ key

def has
    {α : Type}
    (d : Dict α)
    (key : String) :
    Bool :=
  (get? d key).isSome

/-- The dictionary of a list of keys and values; of one key the last value counts. -/
def ofList
    {α : Type}
    (entries : List (String × α)) :
    Dict α :=
  entries.foldl (fun d p => insert d p.1 p.2) []

@[simp] theorem get?_nil
    {α : Type}
    (key : String) :
    get? ([] : Dict α) key = none := by
  rfl

theorem get?_insert_self
    {α : Type}
    (d : Dict α)
    (key : String)
    (value : α) :
    get? (insert d key value) key = some value := by
  induction d with
  | nil =>
      simp [insert, get?]
  | cons p rest ih =>
      obtain ⟨k, v⟩ := p
      by_cases hk : k = key
      · simp [insert, get?, hk]
      · by_cases hlt : key < k
        · simp [insert, get?, hk, hlt]
        · simp [insert, get?, hk, hlt, ih]

theorem get?_insert_of_ne
    {α : Type}
    (d : Dict α)
    {key other : String}
    (value : α)
    (hne : other ≠ key) :
    get? (insert d key value) other = get? d other := by
  induction d with
  | nil =>
      simp [insert, get?, Ne.symm hne]
  | cons p rest ih =>
      obtain ⟨k, v⟩ := p
      by_cases hk : k = key
      · subst hk
        simp [insert, get?, Ne.symm hne]
      · by_cases hlt : key < k
        · simp [insert, get?, hk, hlt, Ne.symm hne]
        · simp [insert, get?, hk, hlt, ih]

end Dict

/-- A JSON number: an integer, or a finite double. -/
inductive JsonNumber where
  | int (n : Int)
  | float (x : Binary)
  deriving DecidableEq, Repr, Inhabited

/-- A JSON value. The fields of an object stand in increasing order of their keys. -/
inductive Json where
  | null
  | bool (b : Bool)
  | number (n : JsonNumber)
  | string (s : String)
  | array (items : List Json)
  | object (fields : List (String × Json))
  deriving Repr, Inhabited

namespace Json

/-- A whole number. -/
def ofInt (n : Int) : Json :=
  .number (.int n)

/-- A natural number. -/
def ofNat (n : Nat) : Json :=
  .number (.int n)

def ofFields
    (fields : List (String × Json)) :
    Json :=
  .object (Dict.ofList fields)

/-- A string, or null where there is none. -/
def ofString? : Option String → Json
  | none => .null
  | some s => .string s

/-- The value of a field of an object. -/
def field? : Json → String → Option Json
  | .object fields, key => Dict.get? fields key
  | _, _ => none

/-- The item of an array at an index. -/
def item? : Json → Nat → Option Json
  | .array items, i => items[i]?
  | _, _ => none

def string? : Json → Option String
  | .string s => some s
  | _ => none

def isNull : Json → Bool
  | .null => true
  | _ => false

end Json

/-- The facts a run is evaluated against: names with JSON values. -/
abbrev Context := Dict Json

end Runbook
