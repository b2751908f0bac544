import Platen.Json.Number

/-!
# Reading JSON

A reader takes characters from the front of a text and returns what is left.  Arrays and objects may
be nested less than `nestingLimit` deep.  An error tells a text that ends too early from one that
breaks a rule.
-/

namespace Platen.Json

open Decimal

/-- A reader: what was read and the characters after it, or why nothing could be read. -/
abbrev Reading (α : Type) := Except ReadError (α × List Char)

/-- The depth at which arrays and objects are refused. -/
def nestingLimit : Nat := 128

/-- Whether a character is white space in JSON. -/
def isSpace (c : Char) : Bool :=
  c == ' ' || c == '\t' || c == '\n' || c == '\r'

/-- The characters after leading white space. -/
def skipSpace (cs : List Char) : List Char :=
  cs.dropWhile isSpace

/-- The error at the front of `cs` where something else was needed. -/
def refuse {α : Type} (cs : List Char) : Except ReadError α :=
  .error (if cs.isEmpty then .endOfText else .malformed)

/-- Takes a fixed word from the front. -/
def readWord : List Char → List Char → Except ReadError (List Char)
  | [], cs => .ok cs
  | _ :: _, [] => .error .endOfText
  | w :: word, c :: cs => if w = c then readWord word cs else .error .malformed

/-- The value of a hexadecimal digit. -/
def hexValue? (c : Char) : Option Nat :=
  if '0' ≤ c && c ≤ '9' then some (c.toNat - '0'.toNat)
  else if 'a' ≤ c && c ≤ 'f' then some (c.toNat - 'a'.toNat + 10)
  else if 'A' ≤ c && c ≤ 'F' then some (c.toNat - 'A'.toNat + 10)
  else none

/-- A number of four hexadecimal digits. -/
def readHex (cs : List Char) : Reading Nat :=
  match cs.take 4 |>.mapM hexValue? with
  | some [a, b, c, d] => .ok (((a * 16 + b) * 16 + c) * 16 + d, cs.drop 4)
  | _ =>
    if (String.ofList (cs.take 4)).utf8ByteSize < 4 then .error .endOfText else .error .malformed

/-- The character of a `\u` escape, whose first two characters are taken already.  A character
outside the basic plane is written as a pair of surrogates. -/
def readUnicode (cs : List Char) : Except ReadError (Char × List Char) := do
  let (high, cs) ← readHex cs
  if 0xdc00 ≤ high && high ≤ 0xdfff then .error .malformed
  else if high < 0xd800 || 0xdbff < high then return (Char.ofNat high, cs)
  else
    let cs ← readWord ['\\', 'u'] cs
    let (low, cs) ← readHex cs
    if low < 0xdc00 || 0xdfff < low then .error .malformed
    else return (Char.ofNat (0x10000 + (high - 0xd800) * 0x400 + (low - 0xdc00)), cs)

/-- The character of an escape whose backslash is taken already. -/
def readEscape : List Char → Reading Char
  | [] => .error .endOfText
  | c :: cs =>
    match c with
    | '"' | '\\' | '/' => .ok (c, cs)
    | 'b' => .ok ('\x08', cs)
    | 'f' => .ok ('\x0c', cs)
    | 'n' => .ok ('\n', cs)
    | 'r' => .ok ('\r', cs)
    | 't' => .ok ('\t', cs)
    | 'u' => readUnicode cs
    | _ => .error .malformed

/-- The rest of a string whose opening quote is taken; `seen` holds its characters so far, reversed.
Each step takes at least one character, so the length of the text is fuel enough. -/
def readString (fuel : Nat) (seen : List Char) (cs : List Char) : Reading String :=
  match fuel, cs with
  | 0, _ | _, [] => .error .endOfText
  | fuel + 1, c :: cs =>
    if c = '"' then .ok (String.ofList seen.reverse, cs)
    else if c = '\\' then
      match readEscape cs with
      | .ok (d, cs) => readString fuel (d :: seen) cs
      | .error e => .error e
    else if c.toNat < 0x20 then .error .malformed
    else readString fuel (c :: seen) cs

/-- The exponent of a number after its letter. -/
def readExponent (cs : List Char) : Reading Int :=
  let (negative, cs) := readSign cs
  let (digits, rest) := spanDigits cs
  if digits.isEmpty then refuse cs
  else
    let n := Int.ofNat (digitsValue digits)
    .ok (if negative then -n else n, rest)

/-- The fraction of a number, if there is a point. -/
def readFraction : List Char → Reading (Option (List Char))
  | '.' :: cs =>
    let (digits, rest) := spanDigits cs
    if digits.isEmpty then refuse cs else .ok (some digits, rest)
  | cs => .ok (none, cs)

/-- A number.  A zero at the front must be the only whole digit. -/
def readNumber (cs : List Char) : Except ReadError (Json × List Char) := do
  let (negative, cs) := match cs with
    | '-' :: rest => (true, rest)
    | _ => (false, cs)
  let (whole, rest) := spanDigits cs
  if whole.isEmpty then refuse cs
  else if whole.head? = some '0' && 1 < whole.length then .error .malformed
  else
    let (fraction, rest) ← readFraction rest
    let (exponent, rest) ← match rest with
      | 'e' :: cs | 'E' :: cs => (readExponent cs).map fun (n, cs) => (some n, cs)
      | _ => .ok (none, rest)
    let number ← NumberParts.toJson { negative, whole, fraction, exponent }
    return (number, rest)

mutual
/-- A document.  Every second call takes at least one character, so twice the length of the text is
fuel enough; `depth` is the number of arrays and objects that may still be opened, plus one. -/
def readValue (fuel depth : Nat) (cs : List Char) : Reading Json :=
  match fuel with
  | 0 => .error .endOfText
  | fuel + 1 =>
    match skipSpace cs with
    | [] => .error .endOfText
    | 'n' :: cs => (readWord "ull".toList cs).map (Json.null, ·)
    | 't' :: cs => (readWord "rue".toList cs).map (Json.bool true, ·)
    | 'f' :: cs => (readWord "alse".toList cs).map (Json.bool false, ·)
    | '"' :: cs => (readString (cs.length + 1) [] cs).map fun (s, cs) => (.text s, cs)
    | '[' :: cs =>
      if depth ≤ 1 then .error .malformed
      else
        match skipSpace cs with
        | ']' :: cs => .ok (.list [], cs)
        | cs =>
          match readItems fuel (depth - 1) cs with
          | .ok (items, cs) => .ok (.list items, cs)
          | .error e => .error e
    | '{' :: cs =>
      if depth ≤ 1 then .error .malformed
      else
        match skipSpace cs with
        | '}' :: cs => .ok (.object [], cs)
        | cs =>
          match readMembers fuel (depth - 1) cs with
          | .ok (members, cs) => .ok (.object (Entries.ofList members), cs)
          | .error e => .error e
    | c :: cs => if c = '-' || c.isDigit then readNumber (c :: cs) else .error .malformed
termination_by structural fuel

/-- The items of an array up to its closing bracket. -/
def readItems (fuel depth : Nat) (cs : List Char) : Reading (List Json) :=
  match fuel with
  | 0 => .error .endOfText
  | fuel + 1 =>
    match readValue fuel depth cs with
    | .error e => .error e
    | .ok (item, cs) =>
      match skipSpace cs with
      | ']' :: cs => .ok ([item], cs)
      | ',' :: cs =>
        match readItems fuel depth cs with
        | .ok (items, cs) => .ok (item :: items, cs)
        | .error e => .error e
      | cs => refuse cs
termination_by structural fuel

/-- The members of an object up to its closing brace. -/
def readMembers (fuel depth : Nat) (cs : List Char) : Reading (List (String × Json)) :=
  match fuel with
  | 0 => .error .endOfText
  | fuel + 1 =>
    match skipSpace cs with
    | '"' :: cs =>
      match readString (cs.length + 1) [] cs with
      | .error e => .error e
      | .ok (name, cs) =>
        match skipSpace cs with
        | ':' :: cs =>
          match readValue fuel depth cs with
          | .error e => .error e
          | .ok (value, cs) =>
            match skipSpace cs with
            | '}' :: cs => .ok ([(name, value)], cs)
            | ',' :: cs =>
              match readMembers fuel depth cs with
              | .ok (members, cs) => .ok ((name, value) :: members, cs)
              | .error e => .error e
            | cs => refuse cs
        | cs => refuse cs
    | cs => refuse cs
termination_by structural fuel
end

/-- The document that a text holds, with nothing but white space around it. -/
def read (s : String) : Except ReadError Json :=
  let cs := s.toList
  match readValue (2 * cs.length + 2) nestingLimit cs with
  | .error e => .error e
  | .ok (value, rest) => if (skipSpace rest).isEmpty then .ok value else .error .malformed

end Platen.Json
