import Runbook.Text.Pieces
import Runbook.Text.Letter

/-!
# Kebab case

Names of options and variables are brought to one form, in which words are in lower case and joined
by hyphens: `featureName`, `feature_name` and `Feature Name` all become `feature-name`. Capitals in a
row stay together, so `HTTPServer` becomes `http-server`.
-/

namespace Runbook
namespace Text

/-- A character that separates words. -/
def isWordGap (c : Char) : Bool :=
  c = '_' || c = '-' || isBlank c

/-- Whether a capital begins a word, by the characters before and after it: after a small letter or
a digit it does, and so does the last capital of a row that a small letter follows. -/
def beginsWord
    (previous next : Option Char) :
    Bool :=
  previous.any (fun p => isLowercase p || (p.toNat < 0x80 && p.isDigit)) ||
    (previous.any isUppercase && next.any isLowercase)

/-- The kebab form of the rest of a name in front of what is written already. The written part is
held in reverse. -/
def kebabFrom
    (previous : Option Char)
    (written : List Char) :
    List Char → List Char
  | [] => written
  | c :: s =>
      if isWordGap c then
        let joined := if written.isEmpty || written.head? = some '-' then written else '-' :: written
        kebabFrom (some c) joined s
      else
        let gap := isUppercase c && beginsWord previous s.head? && written.head? ≠ some '-'
        let joined := if gap then '-' :: written else written
        kebabFrom (some c) ((lowercase c).reverse ++ joined) s

/-- The kebab form of a name. -/
def kebab (s : List Char) : List Char :=
  ((kebabFrom none [] (trim s)).dropWhile (· = '-')).reverse

def kebabCase (name : String) : String :=
  String.ofList (kebab name.toList)

end Text
end Runbook
