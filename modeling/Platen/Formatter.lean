import Platen.Calendar.Reader
import Platen.Decimal.Fixed
import Platen.Settings
import Platen.Text.Segment
import Platen.Value.Basic

/-!
# Formatters

A formatter writes a number with grouped thousands, an amount of money, or a date.  Texts that
write a number or a date are formatted like the number or the date; missing data stays empty.
-/

namespace Platen

/-- How a value is written. -/
inductive Formatter where
  | number
  | integer
  | currency
  | dateFull
  | dateLong
  | dateMedium
  | dateShort
  deriving DecidableEq, Repr

/-- Why a value cannot be formatted. -/
inductive FormatError where
  | notNumber (text : String)
  | notDate (text : String)
  | numberFromKind (kind : Value.Kind)
  | dateFromKind (kind : Value.Kind)
  deriving DecidableEq, Repr

/-- The wording of an error. -/
def FormatError.message : FormatError → String
  | notNumber text => "'" ++ text ++ "' is not a number"
  | notDate text => "'" ++ text ++ "' is not a date"
  | numberFromKind kind => "cannot format a " ++ kind.name ++ " as a number"
  | dateFromKind kind => "cannot format a " ++ kind.name ++ " as a date"

namespace Formatter

open Decimal

/-- The formatter with a given keyword. -/
def ofKeyword? : String → Option Formatter
  | "number" => some number
  | "integer" => some integer
  | "currency" => some currency
  | "date_full" => some dateFull
  | "date_long" => some dateLong
  | "date_medium" => some dateMedium
  | "date_short" => some dateShort
  | _ => none

/-- Whether a formatter writes numbers. -/
def isNumeric : Formatter → Bool
  | number | integer | currency => true
  | dateFull | dateLong | dateMedium | dateShort => false

/-- The number that a value stands for. -/
def toNumber : Value → Except FormatError Float
  | .int i => .ok (ofInt i)
  | .float x => .ok x
  | .text s =>
    match readFloat? (Text.trimBlanks s.toList) with
    | some x => .ok x
    | none => .error (.notNumber s)
  | v => .error (.numberFromKind v.kind)

/-- The date that a value stands for. -/
def toDate : Value → Except FormatError Date
  | .date d => .ok d
  | .text s =>
    let cs := Text.trimBlanks s.toList
    match Date.read? cs with
    | some d => .ok d
    | none => .error (.notDate (String.ofList cs))
  | v => .error (.dateFromKind v.kind)

/-- Digits with a separator before every third one from the end. -/
def groupThousands (separator : Char) : List Char → List Char
  | [] => []
  | c :: rest =>
    if !rest.isEmpty && rest.length % 3 == 0 then c :: separator :: groupThousands separator rest
    else c :: groupThousands separator rest

/-- The digits without the zeros at their end. -/
def dropZerosEnd (cs : List Char) : List Char :=
  (cs.reverse.dropWhile (· == '0')).reverse

/-- A number with `decimals` places and grouped thousands.  With `shorten` the zeros at the end of
the fraction are left out.  The sign of a number whose digits are all zero is left out. -/
def groupDecimal (x : Float) (decimals : Nat) (shorten : Bool) (style : NumberStyle) :
    List Char :=
  let fixed := fixedDigits decimals x
  let (whole, fraction) := Text.splitFirst '.' fixed
  let fraction := fraction.getD []
  let fraction := if shorten then dropZerosEnd fraction else fraction
  let sign := if x < 0.0 && fixed.any (fun c => c != '0' && c != '.') then ['-'] else []
  sign ++ groupThousands style.groupingSeparator whole
    ++ (if fraction.isEmpty then [] else style.decimalSeparator :: fraction)

/-- A number in the style of a numeric formatter. -/
def numberText (x : Float) (style : NumberStyle) : String :=
  String.ofList (groupDecimal x 3 true style)

/-- A number rounded to an integer, halves going away from zero. -/
def integerText (x : Float) (style : NumberStyle) : String :=
  String.ofList (groupDecimal (roundHalfAway x) 0 false style)

/-- An amount of money; the sign stands before the currency symbol. -/
def currencyText (x : Float) (style : NumberStyle) : String :=
  (if x < 0.0 then "-" else "") ++ style.currencySymbol
    ++ String.ofList (groupDecimal (magnitude x) style.currencyDecimals false style)

/-- The text of a value under a formatter. -/
def format (formatter : Formatter) (v : Value) (style : NumberStyle) :
    Except FormatError String :=
  if v.isNull then .ok ""
  else
    match formatter with
    | number => (toNumber v).map (numberText · style)
    | integer => (toNumber v).map (integerText · style)
    | currency => (toNumber v).map (currencyText · style)
    | dateFull => (toDate v).map Date.fullText
    | dateLong => (toDate v).map Date.longText
    | dateMedium => (toDate v).map Date.mediumText
    | dateShort => (toDate v).map Date.shortText

end Formatter

end Platen
