import Runbook.Json.Basic
import Runbook.Text.Utf8

/-!
# File trees

A tree is a file or a directory. The entries of a directory stand in increasing order of their
names. A place in a tree is the list of names that leads to it.
-/

namespace Runbook

/-- What a file holds: a text, or bytes that are none. -/
inductive Content where
  | text (s : String)
  | bytes (b : List UInt8)
  deriving DecidableEq, Repr, Inhabited

namespace Content

def ofBytes (b : List UInt8) : Content :=
  match Utf8.decode? b with
  | some s => .text (String.ofList s)
  | none => .bytes b

def toBytes : Content → List UInt8
  | .text s => Utf8.encode s.toList
  | .bytes b => b

/-- How many bytes a content has. -/
def size (c : Content) : Nat :=
  c.toBytes.length

def cut
    (n : Nat)
    (c : Content) :
    Content :=
  ofBytes (c.toBytes.take n)

end Content

/-- What else is known of a file: the permission bits, a number that the names of one file share when it
has several, and how many bytes there is room for where the file is stored, if that is limited. -/
structure Traits where
  mode : Nat
  twin : Option Nat
  room : Option Nat
  deriving DecidableEq, Repr, Inhabited

namespace Traits

/-- A new file: its owner may write it, everyone may read it, nobody may run it. -/
def plain : Traits :=
  ⟨0o644, none, none⟩

/-- A file that takes the place of another one as a whole is for its owner only. -/
def secluded : Traits :=
  ⟨0o600, none, none⟩

/-- Whether anyone may run a file. -/
def isExecutable (t : Traits) : Bool :=
  t.mode &&& 0o111 ≠ 0

end Traits

/-- A file that is no storage: one that takes everything and gives nothing, one that takes everything and
gives zeros without end, and one that gives these too and has no room for anything. -/
inductive Device where
  | null
  | zero
  | full
  deriving DecidableEq, Repr, Inhabited

/-- A file, a symbolic link, a device or a directory. -/
inductive FileTree where
  | file (content : Content) (traits : Traits)
  | link (target : String)
  | device (kind : Device)
  | directory (entries : List (String × FileTree))
  deriving Repr, Inhabited

/-- The names that lead to a place. -/
abbrev Place := List String

namespace FileTree

def isDirectory : FileTree → Bool
  | .directory _ => true
  | _ => false

def isFile : FileTree → Bool
  | .file _ _ => true
  | _ => false

def isLink : FileTree → Bool
  | .link _ => true
  | _ => false

/-- How many bytes what is written to a file may have, where that is limited. -/
def room? : FileTree → Option Nat
  | .file _ traits => traits.room
  | .device .full => some 0
  | _ => none

/-- The entries of a directory; nothing else has any. -/
def entries : FileTree → Dict FileTree
  | .directory es => es
  | _ => []

def get? : FileTree → Place → Option FileTree
  | t, [] => some t
  | .directory es, name :: rest =>
      match Dict.get? es name with
      | some t => get? t rest
      | none => none
  | _, _ :: _ => none

/-- Puts a tree at a place. Nothing changes when there is no directory to hold it. -/
def put : FileTree → Place → FileTree → FileTree
  | _, [], new => new
  | .directory es, [name], new => .directory (Dict.insert es name new)
  | .directory es, name :: rest, new =>
      match Dict.get? es name with
      | some t => .directory (Dict.insert es name (put t rest new))
      | none => .directory es
  | t, _ :: _, _ => t

def erase : FileTree → Place → FileTree
  | t, [] => t
  | .directory es, [name] => .directory (Dict.erase es name)
  | .directory es, name :: rest =>
      match Dict.get? es name with
      | some t => .directory (Dict.insert es name (erase t rest))
      | none => .directory es
  | t, _ :: _ => t

mutual

/-- The tree with the entries of every directory in the order of their names. -/
def ordered : FileTree → FileTree
  | .file c traits => .file c traits
  | .link target => .link target
  | .device kind => .device kind
  | .directory es => .directory (orderedEntries es)

/-- Entries in the order of their names, and so below. -/
def orderedEntries : List (String × FileTree) → List (String × FileTree)
  | [] => []
  | (name, t) :: rest => Dict.insert (orderedEntries rest) name (ordered t)

end

mutual

/-- Lets all names of one file hold a content. -/
def rewriteTwins
    (twin : Nat)
    (c : Content) :
    FileTree → FileTree
  | .file old traits => .file (if traits.twin = some twin then c else old) traits
  | .directory es => .directory (rewriteTwinsAmong twin c es)
  | .link target => .link target
  | .device kind => .device kind

/-- Lets all names of one file among entries hold a content. -/
def rewriteTwinsAmong
    (twin : Nat)
    (c : Content) :
    List (String × FileTree) → List (String × FileTree)
  | [] => []
  | (name, t) :: rest => (name, rewriteTwins twin c t) :: rewriteTwinsAmong twin c rest

end

/-- Changes the content of the file at a place, under all its names. A new file is plain. -/
def store
    (t : FileTree)
    (place : Place)
    (c : Content) :
    FileTree :=
  match t.get? place with
  | some (.file _ traits) =>
      match traits.twin with
      | some twin => rewriteTwins twin c t
      | none => t.put place (.file c traits)
  | some (.device _) => t
  | _ => t.put place (.file c .plain)

end FileTree

end Runbook
