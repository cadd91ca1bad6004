import Runbook.Json.Basic
import Runbook.Number.Binary

/-!
# JSON text

The compact written form of a JSON value: no blanks, the fields of an object in the order of their
keys, and only the escapes that the format asks for.
-/

namespace Runbook
namespace Json

/-- A digit of base sixteen, in small letters. -/
def hexDigit (n : Nat) : Char :=
  if n < 10 then Char.ofNat (48 + n) else Char.ofNat (87 + n)

/-- A character inside a quoted string: quotation marks, backslashes and control characters are
escaped. -/
def escapeChar (c : Char) : List Char :=
  if c = '"' then ['\\', '"']
  else if c = '\\' then ['\\', '\\']
  else if c = '\n' then ['\\', 'n']
  else if c = '\r' then ['\\', 'r']
  else if c = '\t' then ['\\', 't']
  else if c = '\x08' then ['\\', 'b']
  else if c = '\x0c' then ['\\', 'f']
  else if c.toNat < 0x20 then
    ['\\', 'u', '0', '0', hexDigit (c.toNat / 16), hexDigit (c.toNat % 16)]
  else [c]

/-- A string in quotation marks. -/
def quote (s : String) : String :=
  String.ofList ('"' :: (s.toList.flatMap escapeChar ++ ['"']))

def numberText : JsonNumber → String
  | .int n => toString n
  | .float x => FloatLayout.signed.text .double x

mutual

/-- The text of a value. -/
def print : Json → String
  | .null => "null"
  | .bool b => if b then "true" else "false"
  | .number n => numberText n
  | .string s => quote s
  | .array items => "[" ++ printItems items ++ "]"
  | .object fields => "\x7b" ++ printFields fields ++ "\x7d"

/-- The items of an array, with commas between them. -/
def printItems : List Json → String
  | [] => ""
  | [v] => print v
  | v :: w :: rest => print v ++ "," ++ printItems (w :: rest)

/-- The fields of an object, with commas between them. -/
def printFields : List (String × Json) → String
  | [] => ""
  | [(k, v)] => quote k ++ ":" ++ print v
  | (k, v) :: p :: rest => quote k ++ ":" ++ print v ++ "," ++ printFields (p :: rest)

end

/-- The text that a value takes inside other text: a string is itself, null is empty, and any other
value is written as JSON. -/
def plainText : Json → String
  | .string s => s
  | .null => ""
  | v => print v

end Json
end Runbook
