import Platen.Text.CaseMap
import Platen.Text.CaseProperty

/-!
# Upper and lower case of texts

Upper case maps each character on its own.  Lower case does so too, with one exception: a capital
sigma at the end of a word becomes the final form.  It stands at the end of a word when a cased
letter comes before it and none after it, in both directions past the case-ignorable characters.
-/

namespace Platen.Text

/-- Whether the first character that is not case-ignorable is cased. -/
def meetsCased (cs : List Char) : Bool :=
  match cs.dropWhile isCaseIgnorable with
  | [] => false
  | c :: _ => isCased c

/-- Lower case of `rest`, where `seen` holds the characters before it, nearest first. -/
def lowerFrom (seen : List Char) : List Char → List Char
  | [] => []
  | c :: rest =>
    (if c == 'Σ' then
      if meetsCased seen && !meetsCased rest then ['ς'] else ['σ']
    else lowerChar c) ++ lowerFrom (c :: seen) rest

/-- A text in lower case. -/
def toLower (s : String) : String :=
  String.ofList (lowerFrom [] s.toList)

/-- A text in upper case. -/
def toUpper (s : String) : String :=
  String.ofList (s.toList.flatMap upperChar)

end Platen.Text
