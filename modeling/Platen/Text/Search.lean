import Platen.Text.Blank

/-!
# Searching and cutting texts

Occurrences of a part are taken from left to right and do not overlap.  An empty part occurs before
every character and at the end.
-/

namespace Platen.Text

/-- A list with the non-empty `part` replaced everywhere; the first `skip` characters belong to an
occurrence already replaced. -/
def replaceFrom (part replacement : List Char) : Nat → List Char → List Char
  | _, [] => []
  | skip + 1, _ :: cs => replaceFrom part replacement skip cs
  | 0, c :: cs =>
    if part.isPrefixOf (c :: cs) then
      replacement ++ replaceFrom part replacement (part.length - 1) cs
    else c :: replaceFrom part replacement 0 cs

/-- A list with `part` replaced everywhere. -/
def replaceAll (part replacement cs : List Char) : List Char :=
  if part.isEmpty then replacement ++ cs.flatMap (· :: replacement)
  else replaceFrom part replacement 0 cs

/-- The pieces between the occurrences of the non-empty `sep`; `piece` is the current one, reversed,
and the first `skip` characters belong to an occurrence already taken. -/
def cutFrom (sep piece : List Char) : Nat → List Char → List (List Char)
  | _, [] => [piece.reverse]
  | skip + 1, _ :: cs => cutFrom sep piece skip cs
  | 0, c :: cs =>
    if sep.isPrefixOf (c :: cs) then piece.reverse :: cutFrom sep [] (sep.length - 1) cs
    else cutFrom sep (c :: piece) 0 cs

/-- The pieces between the occurrences of `sep`. -/
def cut (sep cs : List Char) : List (List Char) :=
  if sep.isEmpty then [] :: cs.map ([·]) ++ [[]] else cutFrom sep [] 0 cs

/-- At most `most` pieces; the last one holds the rest of the text. -/
def cutAtMost (most : Nat) (sep cs : List Char) : List (List Char) :=
  let all := cut sep cs
  if all.length ≤ most then all
  else all.take (most - 1) ++ [List.intercalate sep (all.drop (most - 1))]

/-- The words between white space; `word` is the current one, reversed. -/
def wordsFrom (word : List Char) : List Char → List (List Char)
  | [] => if word.isEmpty then [] else [word.reverse]
  | c :: cs =>
    if isBlank c then
      if word.isEmpty then wordsFrom [] cs else word.reverse :: wordsFrom [] cs
    else wordsFrom (c :: word) cs

/-- The state of a search for at most so many words. -/
structure WordSearch where
  /-- The number of words after the next one. -/
  taken : Nat := 1
  /-- Whether the search passes over white space. -/
  skipping : Bool := true
  /-- The current word, reversed. -/
  word : Option (List Char) := none
  /-- The text from the start of the current word, or from the end of the last one. -/
  tail : List Char

/-- At most `most` words; the last one holds the rest of the text, with the white space in it. -/
def wordsAtMostFrom (most : Nat) (search : WordSearch) : List Char → List (List Char)
  | [] => if search.tail.isEmpty then [] else [search.tail]
  | c :: cs =>
    if most ≤ search.taken && !search.skipping then wordsAtMostFrom most search cs
    else if isBlank c then
      match search.word with
      | some word =>
        word.reverse :: wordsAtMostFrom most { taken := search.taken + 1, tail := c :: cs } cs
      | none => wordsAtMostFrom most search cs
    else
      wordsAtMostFrom most
        { search with
          skipping := false
          word := some (c :: search.word.getD [])
          tail := if search.word.isNone then c :: cs else search.tail }
        cs

/-- At most `most` words of a text. -/
def wordsAtMost (most : Nat) (cs : List Char) : List (List Char) :=
  wordsAtMostFrom most { tail := cs } cs

/-- A line without the carriage return before its end. -/
def dropReturn (line : List Char) : List Char :=
  if line.getLast? = some '\r' then line.dropLast else line

/-- The lines of a text; `line` is the current one, reversed.  What follows the last line end is a
line only if it is not empty. -/
def linesFrom (line : List Char) : List Char → List (List Char)
  | [] => if line.isEmpty then [] else [line.reverse]
  | c :: cs =>
    if c = '\n' then dropReturn line.reverse :: linesFrom [] cs else linesFrom (c :: line) cs

/-- The lines of a text, each without its line end. -/
def lines (s : String) : List String :=
  (linesFrom [] s.toList).map String.ofList

/-- The characters without those in `drop` at either end. -/
def trimChars (drop cs : List Char) : List Char :=
  ((cs.dropWhile (drop.contains ·)).reverse.dropWhile (drop.contains ·)).reverse

end Platen.Text
