import Runbook.Yaml.Layout

/-!
# Trees and nodes of YAML

Tokens are grouped into a tree, and the tree is read node by node.
-/

namespace Runbook
namespace Yaml

/-!
## The tree of a YAML document

Tokens are grouped into scalars, sequences and mappings, with their anchors and tags. Whatever is
left out where a node is expected is an empty plain scalar. A stream holds at most one document.
-/

/-- The anchor and the tag of a node. -/
structure Properties (α : Type) where
  anchor : Option α
  tag : Option Tag
  deriving DecidableEq, Repr, Inhabited

/-- A node as it is written. Anchors and aliases are names, or whatever stands for them. -/
inductive Tree (α : Type) where
  | alias (target : α)
  | scalar (properties : Properties α) (style : ScalarStyle) (text : String)
  | sequence (properties : Properties α) (items : List (Tree α))
  | mapping (properties : Properties α) (entries : List (Tree α × Tree α))
  deriving Repr, Inhabited

namespace Tree

/-- The node that stands for nothing. -/
def empty : Tree String :=
  .scalar ⟨none, none⟩ .plain ""

/-- Tag handles with what they stand for. -/
abbrev Handles := List (String × List UInt8)

/-- The handles that need no declaration. -/
def knownHandles : Handles :=
  [("!", Tag.octetsOf "!"), ("!!", Tag.octetsOf "tag:yaml.org,2002:")]

/-- A tag in full; a handle must be known. -/
def fullTag?
    (handles : Handles)
    (handle : String)
    (suffix : List UInt8) :
    Option Tag :=
  let name := Tag.clip suffix
  if handle.isEmpty then some (Tag.ofOctets name)
  else (handles.lookup handle).map fun lead => Tag.ofOctets (Tag.clip lead ++ name)

/-- The properties ahead, in either order and each at most once, and the tokens after them. -/
def takeProperties?
    (handles : Handles) :
    List Token → Option (Properties String × List Token)
  | .anchor a :: .tag h s :: rest =>
      (fullTag? handles h s).map fun t => (⟨some a, some t⟩, rest)
  | .tag h s :: .anchor a :: rest =>
      (fullTag? handles h s).map fun t => (⟨some a, some t⟩, rest)
  | .anchor a :: rest => some (⟨some a, none⟩, rest)
  | .tag h s :: rest => (fullTag? handles h s).map fun t => (⟨none, some t⟩, rest)
  | rest => some (⟨none, none⟩, rest)

/-- Whether a node in a block sequence is left out before these tokens. -/
def endsItem : List Token → Bool
  | .item :: _ => true
  | .blockEnd :: _ => true
  | _ => false

/-- Whether a node in a block mapping is left out before these tokens. -/
def endsEntry : List Token → Bool
  | .key :: _ => true
  | .value :: _ => true
  | .blockEnd :: _ => true
  | _ => false

/-- Whether a value between brackets is left out before these tokens. -/
def endsFlowItem : List Token → Bool
  | .comma :: _ => true
  | .flowSequenceEnd :: _ => true
  | _ => false

/-- Whether a value between braces is left out before these tokens. -/
def endsFlowEntry : List Token → Bool
  | .comma :: _ => true
  | .flowMappingEnd :: _ => true
  | _ => false

/-- The tokens after the separator that all items but the first need. -/
def afterComma?
    (first : Bool)
    (tokens : List Token) :
    Option (List Token) :=
  match first, tokens with
  | true, _ => some tokens
  | false, .comma :: rest => some rest
  | false, _ => none

mutual

/-- A node and the tokens after it. Block collections only stand where `block` says so, and a
sequence without indentation of its own only where `hanging` says so. -/
def node?
    (handles : Handles) :
    Nat → Bool → Bool → List Token → Option (Tree String × List Token)
  | 0, _, _, _ => none
  | _ + 1, _, _, .alias name :: rest => some (.alias name, rest)
  | fuel + 1, block, hanging, tokens =>
      match takeProperties? handles tokens with
      | none => none
      | some (properties, after) =>
          match hanging, block, after with
          | true, _, .item :: _ =>
              (hangingItems? handles fuel after).map fun p => (.sequence properties p.1, p.2)
          | _, _, .scalar style text :: rest =>
              some (.scalar properties style text, rest)
          | _, _, .flowSequence :: rest =>
              (flowItems? handles fuel true rest).map fun p => (.sequence properties p.1, p.2)
          | _, _, .flowMapping :: rest =>
              (flowEntries? handles fuel true rest).map fun p => (.mapping properties p.1, p.2)
          | _, true, .blockSequence :: rest =>
              (blockItems? handles fuel rest).map fun p => (.sequence properties p.1, p.2)
          | _, true, .blockMapping :: rest =>
              (blockEntries? handles fuel rest).map fun p => (.mapping properties p.1, p.2)
          | _, _, _ =>
              if properties = ⟨none, none⟩ then none
              else some (.scalar properties .plain "", after)

/-- The items of a block sequence up to its end. -/
def blockItems?
    (handles : Handles) :
    Nat → List Token → Option (List (Tree String) × List Token)
  | 0, _ => none
  | _ + 1, .blockEnd :: rest => some ([], rest)
  | fuel + 1, .item :: rest =>
      let item := if endsItem rest then some (empty, rest) else node? handles fuel true false rest
      match item with
      | none => none
      | some (tree, after) => (blockItems? handles fuel after).map fun p => (tree :: p.1, p.2)
  | _ + 1, _ => none

/-- The items of a sequence that has the indentation of the mapping around it. -/
def hangingItems?
    (handles : Handles) :
    Nat → List Token → Option (List (Tree String) × List Token)
  | 0, _ => none
  | fuel + 1, .item :: rest =>
      let item :=
        if endsItem rest || endsEntry rest then some (empty, rest)
        else node? handles fuel true false rest
      match item with
      | none => none
      | some (tree, after) => (hangingItems? handles fuel after).map fun p => (tree :: p.1, p.2)
  | _ + 1, rest => some ([], rest)

/-- The entries of a block mapping up to its end. -/
def blockEntries?
    (handles : Handles) :
    Nat → List Token → Option (List (Tree String × Tree String) × List Token)
  | 0, _ => none
  | _ + 1, .blockEnd :: rest => some ([], rest)
  | fuel + 1, .key :: rest =>
      let key := if endsEntry rest then some (empty, rest) else node? handles fuel true true rest
      match key with
      | none => none
      | some (keyTree, afterKey) =>
          let value := match afterKey with
            | .value :: more =>
                if endsEntry more then some (empty, more) else node? handles fuel true true more
            | more => some (empty, more)
          match value with
          | none => none
          | some (valueTree, after) =>
              (blockEntries? handles fuel after).map fun p => ((keyTree, valueTree) :: p.1, p.2)
  | _ + 1, _ => none

/-- The items between brackets, up to the closing one. An item may be a key with a value, which is a
mapping of its own. A key left out after its question mark takes the next token with it. -/
def flowItems?
    (handles : Handles) :
    Nat → Bool → List Token → Option (List (Tree String) × List Token)
  | 0, _, _ => none
  | _ + 1, _, .flowSequenceEnd :: rest => some ([], rest)
  | fuel + 1, first, tokens =>
      match afterComma? first tokens with
      | none => none
      | some (.flowSequenceEnd :: rest) => some ([], rest)
      | some (.key :: rest) =>
          let key := match rest with
            | .value :: more => some (empty, more)
            | .comma :: more => some (empty, more)
            | .flowSequenceEnd :: more => some (empty, more)
            | more => node? handles fuel false false more
          match key with
          | none => none
          | some (keyTree, afterKey) =>
              let value := match afterKey with
                | .value :: more =>
                    if endsFlowItem more then some (empty, more)
                    else node? handles fuel false false more
                | more => some (empty, more)
              match value with
              | none => none
              | some (valueTree, after) =>
                  let pair : Tree String := .mapping ⟨none, none⟩ [(keyTree, valueTree)]
                  (flowItems? handles fuel false after).map fun p => (pair :: p.1, p.2)
      | some rest =>
          match node? handles fuel false false rest with
          | none => none
          | some (tree, after) =>
              (flowItems? handles fuel false after).map fun p => (tree :: p.1, p.2)

/-- The entries between braces, up to the closing one. -/
def flowEntries?
    (handles : Handles) :
    Nat → Bool → List Token → Option (List (Tree String × Tree String) × List Token)
  | 0, _, _ => none
  | _ + 1, _, .flowMappingEnd :: rest => some ([], rest)
  | fuel + 1, first, tokens =>
      match afterComma? first tokens with
      | none => none
      | some (.flowMappingEnd :: rest) => some ([], rest)
      | some (.key :: rest) =>
          let key := match rest with
            | .value :: _ => some (empty, rest)
            | _ => if endsFlowEntry rest then some (empty, rest)
                else node? handles fuel false false rest
          match key with
          | none => none
          | some (keyTree, afterKey) =>
              let value := match afterKey with
                | .value :: more =>
                    if endsFlowEntry more then some (empty, more)
                    else node? handles fuel false false more
                | more => some (empty, more)
              match value with
              | none => none
              | some (valueTree, after) =>
                  (flowEntries? handles fuel false after).map fun p =>
                    ((keyTree, valueTree) :: p.1, p.2)
      | some rest =>
          match node? handles fuel false false rest with
          | none => none
          | some (tree, after) =>
              (flowEntries? handles fuel false after).map fun p => ((tree, empty) :: p.1, p.2)

end

/-- The directives ahead: the handles they declare, in front of those known, and the tokens after
them. A version may be given once, a handle may be declared once. -/
def directives? :
    Bool → Handles → List Token → Option (Handles × List Token)
  | versioned, declared, .version major minor :: rest =>
      if versioned || major ≠ 1 || (minor ≠ 1 && minor ≠ 2) then none
      else directives? true declared rest
  | versioned, declared, .tagHandle handle lead :: rest =>
      if (declared.lookup handle).isSome then none
      else directives? versioned (declared ++ [(handle, lead)]) rest
  | _, declared, rest => some (declared ++ knownHandles, rest)

/-- The content of a document after its start, and the tokens after it. -/
def content?
    (handles : Handles)
    (tokens : List Token) :
    Option (Tree String × List Token) :=
  match tokens with
  | [] => some (empty, [])
  | .documentEnd :: _ => some (empty, tokens)
  | .documentStart :: _ => some (empty, tokens)
  | .version _ _ :: _ => some (empty, tokens)
  | .tagHandle _ _ :: _ => some (empty, tokens)
  | _ => node? handles (3 * tokens.length + 8) true false tokens

/-- The only document of a stream, or `some none` for a stream without documents. -/
def ofTokens?
    (tokens : List Token) :
    Option (Option (Tree String)) :=
  match tokens with
  | [] => some none
  | _ =>
      let found : Option (Tree String × List Token) :=
        match directives? false [] tokens with
        | none => none
        | some (handles, .documentStart :: rest) => content? handles rest
        | some (handles, rest) =>
            if rest.length = tokens.length then
              node? handles (3 * tokens.length + 8) true false rest
            else
              none
      match found with
      | none => none
      | some (tree, rest) =>
          if (rest.dropWhile (· = .documentEnd)).isEmpty then some (some tree) else none

end Tree

/-!
## YAML nodes

A document is read node by node, and an alias is replaced by the node it stands for at the moment it
is read: who passes an alias by asks for no replacement. A document of a given size grants so many
replacements and no more, and collections may be nested only so deep.

Anchors are numbered by how many different names were in use before them. A name used again may
therefore share its number with the next new name; of two nodes with one number the later one counts
for all aliases.
-/

namespace Tree

/-- Names of anchors in use, with their numbers. -/
abbrev AnchorNames := List (String × Nat)

def numberAnchor
    (names : AnchorNames)
    (p : Properties String) :
    AnchorNames × Properties Nat :=
  match p.anchor with
  | none => (names, ⟨none, p.tag⟩)
  | some name =>
      let number := names.length
      ((name, number) :: names.filter fun entry => entry.1 ≠ name, ⟨some number, p.tag⟩)

mutual

/-- Numbers all anchors and aliases, in the order they are written; `none` for an alias of a name
that is not in use. -/
def numbered?
    (names : AnchorNames) :
    Tree String → Option (AnchorNames × Tree Nat)
  | .alias name => (names.lookup name).map fun n => (names, .alias n)
  | .scalar p style text =>
      let (used, q) := numberAnchor names p
      some (used, .scalar q style text)
  | .sequence p items =>
      let (used, q) := numberAnchor names p
      (numberedItems? used items).map fun r => (r.1, .sequence q r.2)
  | .mapping p entries =>
      let (used, q) := numberAnchor names p
      (numberedEntries? used entries).map fun r => (r.1, .mapping q r.2)

/-- Numbers the anchors and aliases of the items of a sequence. -/
def numberedItems?
    (names : AnchorNames) :
    List (Tree String) → Option (AnchorNames × List (Tree Nat))
  | [] => some (names, [])
  | t :: rest =>
      match numbered? names t with
      | none => none
      | some (used, u) => (numberedItems? used rest).map fun r => (r.1, u :: r.2)

/-- Numbers the anchors and aliases of the entries of a mapping. -/
def numberedEntries?
    (names : AnchorNames) :
    List (Tree String × Tree String) → Option (AnchorNames × List (Tree Nat × Tree Nat))
  | [] => some (names, [])
  | (k, v) :: rest =>
      match numbered? names k with
      | none => none
      | some (used, key) =>
          match numbered? used v with
          | none => none
          | some (more, value) =>
              (numberedEntries? more rest).map fun r => (r.1, (key, value) :: r.2)

end

mutual

/-- The nodes that have a number, in the order they are written. -/
def places : Tree Nat → List (Nat × Tree Nat)
  | .alias _ => []
  | .scalar p style text => (p.anchor.map fun n => (n, .scalar p style text)).toList
  | .sequence p items =>
      (p.anchor.map fun n => (n, .sequence p items)).toList ++ placesOfItems items
  | .mapping p entries =>
      (p.anchor.map fun n => (n, .mapping p entries)).toList ++ placesOfEntries entries

/-- The numbered nodes among the items of a sequence. -/
def placesOfItems : List (Tree Nat) → List (Nat × Tree Nat)
  | [] => []
  | t :: rest => places t ++ placesOfItems rest

/-- The numbered nodes among the entries of a mapping. -/
def placesOfEntries : List (Tree Nat × Tree Nat) → List (Nat × Tree Nat)
  | [] => []
  | (k, v) :: rest => places k ++ places v ++ placesOfEntries rest

end

mutual

/-- How many events announce a node: one for a scalar or an alias, a start and an end for a
collection. -/
def eventCount : Tree Nat → Nat
  | .alias _ => 1
  | .scalar _ _ _ => 1
  | .sequence _ items => 2 + eventCountOfItems items
  | .mapping _ entries => 2 + eventCountOfEntries entries

def eventCountOfItems : List (Tree Nat) → Nat
  | [] => 0
  | t :: rest => eventCount t + eventCountOfItems rest

def eventCountOfEntries : List (Tree Nat × Tree Nat) → Nat
  | [] => 0
  | (k, v) :: rest => eventCount k + eventCount v + eventCountOfEntries rest

end

end Tree

/-- The nodes that aliases may stand for, by number. -/
abbrev Anchored := List (Nat × Tree Nat)

/-- Reading a document: every alias followed takes one of the replacements left. -/
abbrev Reading (α : Type) := ReaderT Anchored (StateT Nat Option) α

/-- A reading that depends on nothing. -/
def Reading.ofOption
    {α : Type}
    (found : Option α) :
    Reading α :=
  fun _ left => found.map fun a => (a, left)

/-- The node that a tree stands for, which is never an alias. -/
def Tree.follow : Tree Nat → Reading (Tree Nat)
  | .alias n => fun anchored left =>
      match left with
      | 0 => none
      | rest + 1 => (anchored.lookup n).map fun t => (t, rest)
  | t => pure t

/-- A node of a document, and how deep collections may still be nested from it on. -/
structure Node where
  tree : Tree Nat
  depth : Nat
  deriving Repr, Inhabited

namespace Node

/-- How deep collections may be nested. -/
def maxDepth : Nat := 128

/-- How many replacements a document of a given number of events grants. -/
def replacements (events : Nat) : Nat :=
  100 * events

/-- Reads the document of a stream; `none` for a text that is not one or that the reading refuses.
A stream without documents reads like an empty plain scalar. -/
def read?
    {α : Type}
    (reading : Node → Reading α)
    (s : List Char) :
    Option α :=
  match (tokens? s).bind Tree.ofTokens? with
  | none => none
  | some found =>
      match (found.getD Tree.empty).numbered? [] with
      | none => none
      | some (_, t) =>
          ((reading ⟨t, maxDepth⟩).run t.places.reverse (replacements t.eventCount)).map Prod.fst

end Node

end Yaml
end Runbook
