import Runbook.Number.Binary
import Runbook.Yaml.Tree

/-!
# Values and fields of YAML

What documents mean, whether or not their shape is known.
-/

namespace Runbook
namespace Yaml

/-!
## YAML values

What a document means: plain scalars stand for null, truth values and numbers where they look like
one, all other scalars for strings. A tag of the core schema demands its type; a local tag is kept
with the value it stands before. Keys of a mapping are all different.
-/

/-- A number of 64 bits or a double. -/
inductive Number where
  | int (n : Int)
  | float (x : Binary)
  deriving DecidableEq, Repr, Inhabited

def Number.text : Number → String
  | .int n => toString n
  | .float x => FloatLayout.document.text FloatFormat.double x

/-- A value. -/
inductive Value where
  | null
  | bool (b : Bool)
  | number (n : Number)
  | string (s : String)
  | sequence (items : List Value)
  | mapping (entries : List (Value × Value))
  | tagged (tag : String) (value : Value)
  deriving Repr, Inhabited

/-! ### Plain scalars -/

def isNullWord (s : String) : Bool :=
  s = "~" || s = "null" || s = "Null" || s = "NULL"

/-- The truth value that a word stands for. -/
def boolWord? (s : String) : Option Bool :=
  if s = "true" || s = "True" || s = "TRUE" then some true
  else if s = "false" || s = "False" || s = "FALSE" then some false
  else none

/-- Whether a text is a zero followed by more digits, after at most one sign. Such a text is no
number. -/
def isZeroPadded (s : List Char) : Bool :=
  let body := match s with
    | '-' :: t => t
    | '+' :: t => t
    | _ => s
  match body with
  | '0' :: t => !t.isEmpty && t.all isDigit
  | _ => false

/-- A whole number in base sixteen, eight, two or ten, negative ones with their sign in front of the
base. Below `2 ^ bits` and not less than `-2 ^ (bits - 1)`. -/
def intOfBits?
    (bits : Nat)
    (s : List Char) :
    Option Int :=
  let unsigned : List Char → Option Nat := fun t =>
    let bounded (base : Nat) (digits : List Char) : Option Nat :=
      (digitsIn? base digits).bind fun n => if n < Nat.pow 2 bits then some n else none
    match t with
    | '0' :: 'x' :: digits => bounded 16 digits
    | '0' :: 'o' :: digits => bounded 8 digits
    | '0' :: 'b' :: digits => bounded 2 digits
    | digits => if isZeroPadded digits then none else bounded 10 digits
  let negative : Option Nat → Option Int := fun m =>
    m.bind fun n => if n ≤ Nat.pow 2 (bits - 1) then some (-(n : Int)) else none
  match s with
  | '-' :: t => negative (unsigned t)
  | '+' :: t => (unsigned t).map Int.ofNat
  | t => (unsigned t).map Int.ofNat

/-- A double: decimal, or one of the words for what is not finite. A decimal number that is too
large is no number. -/
def floatWord? (s : List Char) : Option Binary :=
  let unsigned := match s with
    | '+' :: t => t
    | _ => s
  let signedTwice := match s with
    | '+' :: '+' :: _ => true
    | '+' :: '-' :: _ => true
    | _ => false
  let word := String.ofList unsigned
  let whole := String.ofList s
  if signedTwice then none
  else if word = ".inf" || word = ".Inf" || word = ".INF" then some (.infinite false)
  else if whole = "-.inf" || whole = "-.Inf" || whole = "-.INF" then some (.infinite true)
  else if whole = ".nan" || whole = ".NaN" || whole = ".NAN" then some (.nan false)
  else
    match readFloat? .double unsigned with
    | some (.finite negative m e) => some (.finite negative m e)
    | _ => none

/-- The number a plain scalar stands for: `none` for no number, `some none` for a whole number that
does not fit 64 bits. -/
def numberWord? (s : List Char) : Option (Option Number) :=
  match intOfBits? 64 s with
  | some n => some (some (.int n))
  | none =>
      if (intOfBits? 128 s).isSome then some none
      else if isZeroPadded s then none
      else (floatWord? s).map fun x => some (.float x)

namespace Value

/-- The value of a plain scalar without tag. -/
def ofPlain? (s : String) : Option Value :=
  if s.isEmpty || isNullWord s then
    some .null
  else
    match boolWord? s with
    | some b => some (.bool b)
    | none =>
        match numberWord? s.toList with
        | some (some n) => some (.number n)
        | some none => none
        | none => some (.string s)

/-- The value of a scalar, its local tag apart. -/
def ofScalar?
    (tag : Option Tag)
    (style : ScalarStyle)
    (text : String) :
    Option Value :=
  match tag with
  | some .truth => (boolWord? text).map .bool
  | some .whole =>
      match intOfBits? 64 text.toList with
      | some n => some (.number (.int n))
      | none => none
  | some .float => (floatWord? text.toList).map fun x => .number (.float x)
  | some .null => if isNullWord text then some .null else none
  | some t => if style = .plain && t.isMarked then ofPlain? text else some (.string text)
  | none => if style = .plain then ofPlain? text else some (.string text)

/-- The value as it stands, or marked with its local tag. -/
def withTag
    (tag : Option Tag)
    (v : Value) :
    Value :=
  match tag.bind Tag.name? with
  | some name => .tagged name v
  | none => v

/-- The name of a tag without an exclamation mark in front of more. Names count as the same without
it. -/
def bareName (name : String) : String :=
  match name.toList with
  | '!' :: c :: rest => String.ofList (c :: rest)
  | _ => name

/-- Whether two numbers count as the same key. -/
def sameNumber : Number → Number → Bool
  | .int a, .int b => a = b
  | .float (.finite _ 0 _), .float (.finite _ 0 _) => true
  | .float a, .float b => a = b
  | _, _ => false

mutual

/-- Whether two values are the same; the order of the entries of a mapping does not count. -/
def same : Value → Value → Bool
  | .null, .null => true
  | .bool a, .bool b => a = b
  | .number a, .number b => sameNumber a b
  | .string a, .string b => a = b
  | .sequence a, .sequence b => sameItems a b
  | .mapping a, .mapping b => a.length = b.length && sameEntries a b
  | .tagged s a, .tagged t b => bareName s = bareName t && same a b
  | _, _ => false

/-- Whether two sequences have the same items. -/
def sameItems : List Value → List Value → Bool
  | [], [] => true
  | a :: as, b :: bs => same a b && sameItems as bs
  | _, _ => false

/-- Whether all entries of one mapping are found in another. -/
def sameEntries : List (Value × Value) → List (Value × Value) → Bool
  | [], _ => true
  | (k, v) :: rest, other => other.any (fun e => same k e.1 && same v e.2) && sameEntries rest other

end

/-- Whether two of some keys are the same. -/
def anyTwins : List Value → Bool
  | [] => false
  | k :: rest => rest.any (same k) || anyTwins rest

/-- Reads the value of a tree whose collections are nested no deeper than given. Keys of a mapping
are all different. -/
def ofTree : Nat → Tree Nat → Reading Value
  | 0, tree => do
      match ← tree.follow with
      | .scalar p style text => Reading.ofOption ((ofScalar? p.tag style text).map (withTag p.tag))
      | _ => Reading.ofOption none
  | depth + 1, tree => do
      match ← tree.follow with
      | .scalar p style text => Reading.ofOption ((ofScalar? p.tag style text).map (withTag p.tag))
      | .sequence p items =>
          let values ← items.mapM (ofTree depth)
          return withTag p.tag (.sequence values)
      | .mapping p entries =>
          let pairs ← entries.mapM fun e => do
            let key ← ofTree depth e.1
            let value ← ofTree depth e.2
            return (key, value)
          if anyTwins (pairs.map Prod.fst) then Reading.ofOption none
          else return withTag p.tag (.mapping pairs)
      | .alias _ => Reading.ofOption none

def ofNode (n : Node) : Reading Value :=
  ofTree n.depth n.tree

def parse? (s : String) : Option Value :=
  Node.read? ofNode s.toList

/-! ### Looking into values

Local tags do not count here, and null is as good as nothing where a collection is asked for.
-/

/-- The value without its local tags. -/
def untagged : Value → Value
  | .tagged _ v => untagged v
  | v => v

def string? (v : Value) : Option String :=
  match v.untagged with
  | .string s => some s
  | _ => none

def bool? (v : Value) : Option Bool :=
  match v.untagged with
  | .bool b => some b
  | _ => none

def items? (v : Value) : Option (List Value) :=
  match v.untagged with
  | .sequence items => some items
  | .null => some []
  | _ => none

def entries? (v : Value) : Option (List (Value × Value)) :=
  match v.untagged with
  | .mapping entries => some entries
  | .null => some []
  | _ => none

def optional?
    {α : Type}
    (read : Value → Option α) :
    Value → Option (Option α)
  | .null => some none
  | v => (read v).map some

/-- The text of a scalar, or `none` for anything that is no scalar. Null has no text. -/
def scalarText? : Value → Option (Option String)
  | .null => some none
  | .string s => some (some s)
  | .bool b => some (some (if b then "true" else "false"))
  | .number n => some (some n.text)
  | _ => none

end Value

/-!
## Typed fields of YAML documents

Documents whose shape is known are read node by node: where a text is expected every scalar counts
as its text, whatever it looks like, and where a collection is expected an empty plain scalar counts
as an empty one.
-/

namespace Node

/-- Whether nothing is written where a collection is expected. -/
def isBlank : Tree Nat → Bool
  | .scalar _ .plain text => text.isEmpty
  | _ => false

def text (n : Node) : Reading String := do
  match ← n.tree.follow with
  | .scalar _ _ text => return text
  | _ => Reading.ofOption none

/-- Reads the truth value of a plain scalar. -/
def truth (n : Node) : Reading Bool := do
  match ← n.tree.follow with
  | .scalar _ .plain text => Reading.ofOption (boolWord? text)
  | .scalar ⟨_, some .truth⟩ .literal text => Reading.ofOption (boolWord? text)
  | _ => Reading.ofOption none

def items (n : Node) : Reading (List Node) := do
  match ← n.tree.follow, n.depth with
  | .sequence _ items, depth + 1 => return items.map fun t => ⟨t, depth⟩
  | t, _ => Reading.ofOption (if isBlank t then some [] else none)

/-- Reads the entries of a mapping whose keys are texts. -/
def fields (n : Node) : Reading (List (String × Node)) := do
  match ← n.tree.follow, n.depth with
  | .mapping _ entries, depth + 1 => entries.mapM fun e => do
      let key ← text ⟨e.1, depth⟩
      return (key, ⟨e.2, depth⟩)
  | t, _ => Reading.ofOption (if isBlank t then some [] else none)

/-- Whether a node that may be left out is. A quoted scalar never is, and a tag for null demands a
word for null. -/
def isAbsent? : Tree Nat → Option Bool
  | .scalar ⟨_, none⟩ .plain text => some (text.isEmpty || isNullWord text)
  | .scalar ⟨_, some .null⟩ .plain text => if isNullWord text then some true else none
  | _ => some false

def optional
    {α : Type}
    (read : Node → Reading α)
    (n : Node) :
    Reading (Option α) := do
  let tree ← n.tree.follow
  if ← Reading.ofOption (isAbsent? tree) then return none
  else some <$> read ⟨tree, n.depth⟩

/-- Reads a field of a record: not given, or read from its node. It must not be given twice. -/
def field
    {α : Type}
    (fields : List (String × Node))
    (name : String)
    (read : Node → Reading α) :
    Reading (Option α) :=
  match fields.filter fun f => f.1 = name with
  | [] => return none
  | [f] => some <$> read f.2
  | _ => Reading.ofOption none

def fieldOr
    {α : Type}
    (fields : List (String × Node))
    (name : String)
    (default : α)
    (read : Node → Reading α) :
    Reading α :=
  (fun v => v.getD default) <$> field fields name read

end Node
end Yaml
end Runbook
