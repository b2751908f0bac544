import Platen.Script.Argument
import Platen.Text.Search
import Platen.Text.Words

/-!
# Filters on texts

Filters that turn the text of a value into another text, or into the parts of it.
-/

namespace Platen.Script.Filter

open Text (upperChar lowerChar)

/-- Whether a character is an ASCII punctuation mark. -/
def isPunctuation (c : Char) : Bool :=
  ('!' ≤ c && c ≤ '/') || (':' ≤ c && c ≤ '@') || ('[' ≤ c && c ≤ '\x60') || ('\x7b' ≤ c && c ≤ '~')

/-- A text with capitals at the starts of words and small letters elsewhere. -/
def titleFrom (atStart : Bool) : List Char → List Char
  | [] => []
  | c :: cs =>
    if isPunctuation c || Text.isBlank c then c :: titleFrom true cs
    else (if atStart then upperChar c else lowerChar c) ++ titleFrom false cs

/-- A text with its first character in upper case and the others in lower case. -/
def capitalize (s : String) : String :=
  match s.toList with
  | [] => ""
  | c :: cs => String.ofList (upperChar c) ++ Text.toLower (String.ofList cs)

/-- A character that has a meaning in markup, replaced by its entity. -/
def escapeChar : Char → String
  | '<' => "&lt;"
  | '>' => "&gt;"
  | '&' => "&amp;"
  | '"' => "&quot;"
  | '\'' => "&#x27;"
  | '/' => "&#x2f;"
  | c => String.singleton c

/-- A text with its markup characters replaced. -/
def escapeText (s : String) : String :=
  String.join (s.toList.map escapeChar)

/-- A value as safe text. -/
def escape : Datum → Datum
  | .text s true => .text s true
  | .text s false => .text (escapeText s) true
  | d =>
    match d.kind with
    | .undefined | .none | .bool | .number => .text d.shown true
    | _ => .text (escapeText d.shown) true

/-- A text without a line end, and then a carriage return, at its end. -/
def dropLineEnd (cs : List Char) : List Char :=
  let cs := if cs.getLast? = some '\n' then cs.dropLast else cs
  if cs.getLast? = some '\r' then cs.dropLast else cs

/-- A line with a margin before it; empty lines get one only if asked for. -/
def indentLine (width : Nat) (blankToo : Bool) (line : List Char) : List Char :=
  (if line.isEmpty && !blankToo then [] else List.replicate width ' ') ++ line ++ ['\n']

/-- A text with a margin before its lines; the first one gets it only if asked for. -/
def indent (width : Nat) (firstToo blankToo : Bool) (cs : List Char) : List Char :=
  let lines := Text.segments '\n' (dropLineEnd cs)
  dropLineEnd <|
    match lines with
    | [] => []
    | first :: rest =>
      (if firstToo then indentLine width blankToo first else first ++ ['\n'])
        ++ rest.flatMap (indentLine width blankToo)

/-- The parts of a text between separators, or else its words. -/
def splitText (cs : List Char) (separator : Option (List Char)) (most : Option Nat) :
    List (List Char) :=
  match separator, most with
  | none, none => Text.wordsFrom [] cs
  | some sep, none => Text.cut sep cs
  | none, some n => Text.wordsAtMost n cs
  | some sep, some n => Text.cutAtMost n sep cs

/-- Texts as a stream whose length is not known beforehand. -/
def textStream (parts : List (List Char)) : Datum :=
  .seq (.stream false) (parts.map fun part => Datum.ofText (String.ofList part))

/-- The greatest number of parts for a greatest number of cuts; negative numbers set no limit. -/
def mostParts (cuts : Option Int) : Option Nat :=
  cuts.bind fun n => if 0 ≤ n then some (n.toNat + 1) else none

/-- Texts with a joint between them; nothing stands before the first text that is not empty. -/
def joinTexts (joint : String) (items : List String) : String :=
  items.foldl (fun out item => (if out.isEmpty then out else out ++ joint) ++ item) ""

/-- The case style behind the name of a filter. -/
def caseStyle? : String → Option Text.CaseStyle
  | "camelcase" => some .camel
  | "pascalcase" => some .pascal
  | "snakecase" => some .snake
  | "kebabcase" => some .kebab
  | "screamingsnakecase" => some .shoutySnake
  | _ => none

/-- A filter on the text of a value, by its name. -/
def onText? (name : String) : Option (String → Datum) :=
  match name with
  | "safe" => some fun s => .text s true
  | "lower" => some fun s => Datum.ofText (Text.toLower s)
  | "upper" => some fun s => Datum.ofText (Text.toUpper s)
  | "title" => some fun s => Datum.ofText (String.ofList (titleFrom true s.toList))
  | "capitalize" => some fun s => Datum.ofText (capitalize s)
  | "lines" => some fun s => textStream (Text.linesFrom [] s.toList)
  | name => (caseStyle? name).map fun style s => Datum.ofText (style.apply s)

/-- A text a number of times. -/
def repeatText (s : String) (count : Nat) : String :=
  String.join (List.replicate count s)

/-- A filter on the text of a value with further arguments, by its name. -/
def onTextWith? (name : String) : Option (String → Arguments → Except Error Datum) :=
  match name with
  | "replace" => some fun s args => do
    let part ← args.required 0 (·.toText)
    let replacement ← args.required 1 (·.toText)
    args.atMost 2
    return Datum.ofText
      (String.ofList (Text.replaceAll part.toList replacement.toList s.toList))
  | "trim" => some fun s args => do
    let drop ← args.optional 0 (·.toText)
    args.atMost 1
    return Datum.ofText <|
      match drop with
      | some drop => String.ofList (Text.trimChars drop.toList s.toList)
      | none => Text.trim s
  | "split" => some fun s args => do
    let separator ← args.optional 0 (·.toText)
    let cuts ← args.optional 1 (·.toInt 64)
    args.atMost 2
    return textStream (splitText s.toList (separator.map String.toList) (mostParts cuts))
  | "indent" => some fun s args => do
    let width ← args.required 0 (·.toCount)
    let firstToo ← args.optional 1 (·.toBool)
    let blankToo ← args.optional 2 (·.toBool)
    args.atMost 3
    return Datum.ofText
      (String.ofList (indent width (firstToo.getD false) (blankToo.getD false) s.toList))
  | "repeat" => some fun s args => do
    let count ← args.required 0 (·.toCount)
    args.atMost 1
    return Datum.ofText (repeatText s count)
  | _ => none

end Platen.Script.Filter
