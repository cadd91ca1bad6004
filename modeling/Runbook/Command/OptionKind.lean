import Runbook.Text.Pieces

/-!
# Kinds of options and reserved names
-/

namespace Runbook

/-- The type of the values an option takes. -/
inductive OptionKind where
  | int
  | long
  | short
  | double
  | float
  | bool
  | text
  deriving DecidableEq, Repr

/-- The kind that a manifest's data type names, in any case of letters; no name stands for text. -/
def OptionKind.ofDataType?
    (dataType : String) :
    Option OptionKind :=
  match (String.ofList ((Text.trim dataType.toList).map Char.toLower)) with
  | "int" => some .int
  | "long" => some .long
  | "short" => some .short
  | "double" => some .double
  | "float" => some .float
  | "bool" => some .bool
  | "boolean" => some .bool
  | "string" => some .text
  | "" => some .text
  | _ => none

/-- The namespace of the built-in management commands. -/
def reservedNamespace : String :=
  "command"

/-- Whether a name is taken and cannot name a user command. -/
def isReservedName (name : String) : Bool :=
  name = reservedNamespace || name = "help"

/-- Whether a flag is taken and cannot be an option. -/
def isReservedFlag (flag : String) : Bool :=
  flag = "help" || flag = "version"

end Runbook
