import Platen.Text.Case
import Platen.Text.Letter

/-!
# Words and the case styles

A text is cut into words at every character that is neither letter nor number, and inside such a
piece where the case turns: before a capital that follows a small letter, and before the last
capital of a run of capitals when a small letter comes next.  A case style says how each word is
written and what stands between two words.
-/

namespace Platen.Text

/-- What the letters of the current word have been so far. -/
inductive WordMode where
  /-- No cased letter since the last boundary. -/
  | boundary
  /-- The last cased letter was small. -/
  | lower
  /-- The last cased letter was a capital. -/
  | upper
  deriving DecidableEq, Repr

/-- The mode after a character. -/
def WordMode.after (mode : WordMode) (c : Char) : WordMode :=
  if isLowercase c then .lower else if isUppercase c then .upper else mode

/-- Words of a piece that holds letters and numbers only; `word` is the current word, reversed. -/
def splitPiece (mode : WordMode) (word : List Char) : List Char → List (List Char)
  | [] => []
  | [c] => [(c :: word).reverse]
  | c :: d :: rest =>
    let next := mode.after c
    if next == .lower && isUppercase d then
      (c :: word).reverse :: splitPiece .boundary [] (d :: rest)
    else if mode == .upper && isUppercase c && isLowercase d then
      word.reverse :: splitPiece .boundary [c] (d :: rest)
    else splitPiece next (c :: word) (d :: rest)

/-- The maximal pieces of letters and numbers; `piece` is the current one, reversed. -/
def pieces (piece : List Char) : List Char → List (List Char)
  | [] => [piece.reverse]
  | c :: rest =>
    if isAlphanumeric c then pieces (c :: piece) rest else piece.reverse :: pieces [] rest

/-- The words of a text. -/
def words (s : String) : List (List Char) :=
  (pieces [] s.toList).flatMap (splitPiece .boundary [])

/-- A word in lower case; a capital sigma at its end takes the final form. -/
def lowerWord : List Char → List Char
  | [] => []
  | [c] => if c == 'Σ' then ['ς'] else lowerChar c
  | c :: d :: rest => lowerChar c ++ lowerWord (d :: rest)

/-- A word in upper case. -/
def upperWord (word : List Char) : List Char :=
  word.flatMap upperChar

/-- A word with a capital first character and the rest in lower case. -/
def capitalizeWord : List Char → List Char
  | [] => []
  | c :: rest => upperChar c ++ lowerWord rest

/-- The ways to write several words as one name. -/
inductive CaseStyle where
  | camel
  | pascal
  | snake
  | kebab
  | shoutySnake
  deriving DecidableEq, Repr

/-- The form of a word in a style; in camel style the first word stays small. -/
def CaseStyle.word (style : CaseStyle) (isFirst : Bool) (word : List Char) : List Char :=
  match style with
  | .camel => if isFirst then lowerWord word else capitalizeWord word
  | .pascal => capitalizeWord word
  | .snake | .kebab => lowerWord word
  | .shoutySnake => upperWord word

/-- What stands between two words in a style. -/
def CaseStyle.joint : CaseStyle → List Char
  | .camel | .pascal => []
  | .snake | .shoutySnake => ['_']
  | .kebab => ['-']

/-- A text in a case style. -/
def CaseStyle.apply (style : CaseStyle) (s : String) : String :=
  match words s with
  | [] => ""
  | first :: rest =>
    String.ofList (style.word true first
      ++ rest.flatMap fun word => style.joint ++ style.word false word)

end Platen.Text
