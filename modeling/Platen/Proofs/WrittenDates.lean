import Mathlib.Data.Nat.Digits.Defs
import Mathlib.Tactic.IntervalCases
import Platen.Formatter
import Platen.Proofs.Grouping
import Platen.Script

/-!
# Dates as texts

A date is written as a day alone at midnight and as a day with a time of day otherwise, and a script
hands it on as this text.  A reader that meets it tries three layouts one after the other, and takes
white space before every number.  This module proves that it reads the date that was written,
without the fractions of its second: every field ends where its digits end, and a layout that is
tried too early stops at the character behind the day.

Main results:

- Theorem `Date.readField?_zeroPadded`: a number that is filled up with zeros is read back.
- Theorem `Date.readStamp?_dayText`: all layouts find the same day and go on behind it.
- Theorem `Date.read?_toText` and theorem `Date.read?_stamp`: the texts of a date are read back.
- Theorem `Date.kept_eq_self_iff`: the dates of which a text keeps everything.
- Theorem `Script.evaluate_name`: what becomes of a value that a script only names.
- Theorem `Date.written_takenFor`: a date and its texts, with blanks around them or behind a script,
  are formatted alike.
-/

namespace Platen

/-! ## Digits and blanks -/

namespace Text

open Decimal

/-- A decimal digit is not blank. -/
theorem isBlank_of_isDigit {c : Char} (hc : c.isDigit = true) : isBlank c = false := by
  have hbounds : 48 ≤ c.toNat ∧ c.toNat ≤ 57 := Char.isDigit_iff_toNat.mp hc
  rcases hbounds with ⟨hlow, hhigh⟩
  rw [← Char.ofNat_toNat c]
  generalize c.toNat = code at hlow hhigh
  interval_cases code <;> rfl

/-- Nothing is dropped before a digit. -/
theorem dropBlanks_of_isDigit {digits : List Char} (hne : digits ≠ [])
    (hdigits : ∀ c ∈ digits, c.isDigit = true) (rest : List Char) :
    dropBlanks (digits ++ rest) = digits ++ rest := by
  rcases List.exists_cons_of_ne_nil hne with ⟨first, others, rfl⟩
  have hfirst : isBlank first = false := isBlank_of_isDigit (hdigits first List.mem_cons_self)
  simp [dropBlanks, hfirst]

/-- Nothing is dropped behind a digit. -/
theorem dropBlanksEnd_of_isDigit {digits : List Char} (hne : digits ≠ [])
    (hdigits : ∀ c ∈ digits, c.isDigit = true) (cs : List Char) :
    dropBlanksEnd (cs ++ digits) = cs ++ digits := by
  have hreverse : ∀ c ∈ digits.reverse, c.isDigit = true :=
    fun c hc => hdigits c (List.mem_reverse.mp hc)
  have hfront := dropBlanks_of_isDigit (List.reverse_ne_nil_iff.mpr hne) hreverse cs.reverse
  rw [dropBlanks] at hfront
  rw [dropBlanksEnd, List.reverse_append, hfront, List.reverse_append, List.reverse_reverse,
    List.reverse_reverse]

end Text

namespace Date

open Decimal Text

/-! ## Numbers filled up with zeros -/

variable {width n : Nat}

/-- A padded number is written in digits alone. -/
theorem isDigit_of_mem_zeroPadded {c : Char} (hc : c ∈ zeroPadded width n) : c.isDigit = true := by
  rcases List.mem_append.mp hc with hzero | hdigit
  · rw [List.eq_of_mem_replicate hzero]
    rfl
  · exact isDigit_of_mem_natDigits hdigit

/-- A padded number has a digit. -/
theorem zeroPadded_ne_nil (width n : Nat) : zeroPadded width n ≠ [] :=
  List.append_ne_nil_of_right_ne_nil _ (natDigits_ne_nil n)

/-- The digits of a padded number are read as that number. -/
theorem digitsValue_zeroPadded (width n : Nat) : digitsValue (zeroPadded width n) = n :=
  (digitsValue_zeros_append _ _).trans (digitsValue_natDigits n)

/-- A number that fits its width is as long as it. -/
theorem length_zeroPadded (hwidth : 0 < width) (hn : n < 10 ^ width) :
    (zeroPadded width n).length = width := by
  have hfits : (Nat.toDigits 10 n).length ≤ width := Nat.toDigits_length 10 n width hwidth hn
  rw [zeroPadded, List.length_append, List.length_replicate]
  omega

/-- Nothing is dropped before a number. -/
theorem dropBlanks_zeroPadded (width n : Nat) (rest : List Char) :
    dropBlanks (zeroPadded width n ++ rest) = zeroPadded width n ++ rest :=
  dropBlanks_of_isDigit (zeroPadded_ne_nil width n) (fun _ => isDigit_of_mem_zeroPadded) rest

/-- A number that is filled up with zeros is read back, and nothing behind it is read, be it another
digit. -/
theorem readField?_zeroPadded (hwidth : 0 < width) (hn : n < 10 ^ width) (rest : List Char) :
    readField? width (zeroPadded width n ++ rest) = some (n, rest) := by
  have hlength : (zeroPadded width n).length = width := length_zeroPadded hwidth hn
  have hall : (zeroPadded width n).takeWhile Char.isDigit = zeroPadded width n :=
    List.takeWhile_eq_self_iff.mpr fun _ => isDigit_of_mem_zeroPadded
  have hsome : (zeroPadded width n).isEmpty = false :=
    List.isEmpty_eq_false_iff.mpr (zeroPadded_ne_nil width n)
  simp only [readField?, dropBlanks_zeroPadded]
  rw [List.take_left' hlength, hall, hsome, List.drop_left, digitsValue_zeroPadded]
  rfl

/-- The digits of a number end at a hyphen. -/
theorem spanDigits_zeroPadded (width n : Nat) (rest : List Char) :
    spanDigits (zeroPadded width n ++ '-' :: rest) = (zeroPadded width n, '-' :: rest) := by
  have hdigits : ∀ c ∈ zeroPadded width n, c.isDigit = true :=
    fun _ => isDigit_of_mem_zeroPadded
  have hhyphen : Char.isDigit '-' = false := rfl
  rw [spanDigits, List.takeWhile_append_of_pos hdigits, List.dropWhile_append_of_pos hdigits]
  simp [hhyphen]

/-! ## Days and times of day -/

variable {d : Date}

/-- Whether a date has no fractions of a second.  A leap second is one if it stands behind the
fifty-ninth second, where it is written as the sixtieth. -/
def InWholeSeconds (d : Date) : Prop :=
  d.nanosecond = 0 ∨ d.wholeSecond = 59 ∧ d.nanosecond = Calendar.secondLength

/-- A leap second behind the fifty-ninth second is written as the sixtieth. -/
theorem second_le (d : Date) : d.second ≤ 60 := by
  have htime := d.time_range
  unfold Calendar.secondLength at htime
  unfold second Calendar.secondLength
  omega

/-- What a text keeps of a date: the second as it is written. -/
def kept (d : Date) : Date :=
  { d with
    wholeSecond := min d.second 59
    nanosecond := (d.second - 59) * Calendar.secondLength
    time_range := by
      have htime := d.time_range
      have hsecond := d.second_le
      unfold Calendar.secondLength
      omega }

/-- A text keeps all of a date in whole seconds, and of no other date. -/
theorem kept_eq_self_iff : d.kept = d ↔ d.InWholeSeconds := by
  have htime := d.time_range
  unfold Calendar.secondLength at htime
  have hfields : d.kept = d ↔ min d.second 59 = d.wholeSecond ∧
      (d.second - 59) * Calendar.secondLength = d.nanosecond := by
    constructor
    · intro hkept
      exact ⟨congrArg wholeSecond hkept, congrArg nanosecond hkept⟩
    · rintro ⟨hsecond, hnanosecond⟩
      simp only [kept, hsecond, hnanosecond]
  rw [hfields, InWholeSeconds, second, Calendar.secondLength]
  omega

/-- A year begins with a sign or a digit. -/
theorem dropBlanks_yearText (year : Int) (rest : List Char) :
    dropBlanks (yearText year ++ rest) = yearText year ++ rest := by
  rw [yearText]
  split
  · rfl
  · split
    · rfl
    · exact dropBlanks_zeroPadded 4 year.natAbs rest

/-- A year without a sign has at most four digits. -/
theorem readYear?_zeroPadded (hn : n < 10 ^ 4) (rest : List Char) :
    readYear? (zeroPadded 4 n ++ rest) = some (Int.ofNat n, rest) := by
  have hfirst : ∀ c tail, dropBlanks (zeroPadded 4 n ++ rest) = c :: tail → c.isDigit = true := by
    intro c tail hcons
    rcases List.exists_cons_of_ne_nil (zeroPadded_ne_nil 4 n) with ⟨first, others, hdigits⟩
    rw [dropBlanks_zeroPadded, hdigits, List.cons_append, List.cons.injEq] at hcons
    rw [← hcons.1]
    exact isDigit_of_mem_zeroPadded (hdigits ▸ List.mem_cons_self)
  unfold readYear?
  split
  · next hminus => exact absurd (hfirst _ _ hminus) (by decide)
  · next hplus => exact absurd (hfirst _ _ hplus) (by decide)
  · rw [dropBlanks_zeroPadded, readField?_zeroPadded (by decide) hn]
    rfl

/-- A year before a hyphen is read back, with its sign and all its digits. -/
theorem readYear?_yearText (year : Int) (rest : List Char) :
    readYear? (yearText year ++ '-' :: rest) = some (year, '-' :: rest) := by
  have hvalue : digitsValue (zeroPadded 4 year.natAbs) = year.natAbs :=
    digitsValue_zeroPadded 4 year.natAbs
  have hsome : (zeroPadded 4 year.natAbs).isEmpty = false :=
    List.isEmpty_eq_false_iff.mpr (zeroPadded_ne_nil 4 year.natAbs)
  by_cases hnegative : year < 0
  · have hyear : -Int.ofNat year.natAbs = year := by
      rw [Int.ofNat_eq_natCast]
      omega
    rw [readYear?, dropBlanks_yearText, yearText, if_pos hnegative, List.cons_append]
    simp only [spanDigits_zeroPadded, hsome, hvalue, hyear]
    rfl
  · have hyear : Int.ofNat year.natAbs = year := Int.natAbs_of_nonneg (not_lt.mp hnegative)
    by_cases hlong : 9999 < year
    · rw [readYear?, dropBlanks_yearText, yearText, if_neg hnegative, if_pos hlong,
        List.cons_append]
      simp only [spanDigits_zeroPadded, hsome, hvalue, hyear]
      rfl
    · rw [yearText, if_neg hnegative, if_neg hlong, readYear?_zeroPadded (by omega), hyear]

/-- A day has at most two digits. -/
theorem day_lt (d : Date) : d.day < 10 ^ 2 := by
  have hday := d.day_range.2
  unfold Calendar.daysIn at hday
  split at hday
  · split at hday <;> omega
  · split at hday <;> omega

/-- The day of a date is read back, whatever stands behind it. -/
theorem readDay?_dayText (d : Date) (rest : List Char) :
    readDay? (d.dayText ++ rest) = some (d.year, d.month, d.day, rest) := by
  have hmonth : d.month < 10 ^ 2 := by
    have hmost := d.month_range.2
    omega
  simp only [readDay?, dayText, List.append_assoc, List.cons_append, readYear?_yearText,
    readMark?, readField?_zeroPadded (by decide) hmonth,
    readField?_zeroPadded (by decide) d.day_lt, Option.bind_eq_bind, Option.bind_some, if_true]

/-- The time of day of a date is read back. -/
theorem readTime?_timeText (d : Date) :
    readTime? d.timeText = some (d.hour, d.minute, d.second, []) := by
  rcases d.time_range with ⟨hhour, hminute, -⟩
  have hsecond := d.second_le
  have hlast : readField? 2 (zeroPadded 2 d.second) = some (d.second, []) := by
    rw [← List.append_nil (zeroPadded 2 d.second)]
    exact readField?_zeroPadded (by decide) (by omega) []
  simp only [readTime?, timeText, List.append_assoc, List.cons_append, readMark?, hlast,
    readField?_zeroPadded (by decide) (show d.hour < 10 ^ 2 by omega),
    readField?_zeroPadded (by decide) (show d.minute < 10 ^ 2 by omega),
    Option.bind_eq_bind, Option.bind_some, if_true]

/-! ## Layouts -/

/-- The fields of a date as they are written are those of what a text keeps of it. -/
theorem ofCalendar?_eq (hcovers : Calendar.coversYear d.year = true) :
    ofCalendar? d.year d.month d.day d.hour d.minute d.second = some d.kept := by
  have hclock : d.hour < 24 ∧ d.minute < 60 ∧ d.second ≤ 60 :=
    ⟨d.time_range.1, d.time_range.2.1, d.second_le⟩
  rw [ofCalendar?, if_pos hcovers, ofFields?, dif_pos d.month_range, dif_pos d.day_range,
    dif_pos hclock]
  rfl

/-- All layouts find the same day and go on behind it. -/
theorem readStamp?_dayText (separator : Separator) (d : Date) (rest : List Char) :
    readStamp? separator (d.dayText ++ rest) =
      (separator.read? rest).bind fun cs =>
        (readTime? cs).bind fun (hour, minute, second, cs) =>
          if cs.isEmpty then ofCalendar? d.year d.month d.day hour minute second else none := by
  simp only [readStamp?, readDay?_dayText, Option.bind_eq_bind, Option.bind_some]

/-- A day and a time of day are read back if the mark between them is the separator. -/
theorem readStamp?_stamp (hcovers : Calendar.coversYear d.year = true) {separator : Separator}
    {mark : Char} (hmark : separator.read? (mark :: d.timeText) = some d.timeText) :
    readStamp? separator (d.stamp mark) = some d.kept := by
  rw [stamp, readStamp?_dayText, hmark, Option.bind_some, readTime?_timeText, Option.bind_some]
  exact ofCalendar?_eq hcovers

/-- The layout with a letter stops at any other mark, and at the end. -/
theorem readStamp?_letter (d : Date) {rest : List Char} (hmark : rest.head? ≠ some 'T') :
    readStamp? .letter (d.dayText ++ rest) = none := by
  have hstop : Separator.read? .letter rest = none := by
    cases rest with
    | nil => rfl
    | cons mark rest =>
        have hne : 'T' ≠ mark := fun heq => hmark (congrArg some heq.symm)
        exact if_neg hne
  rw [readStamp?_dayText, hstop, Option.bind_none]

/-- The text with a letter between day and time is read back, but for the fractions. -/
theorem read?_stamp (hcovers : Calendar.coversYear d.year = true) :
    Date.read? (d.stamp 'T') = some d.kept := by
  have hread : readStamp? .letter (d.stamp 'T') = some d.kept := readStamp?_stamp hcovers rfl
  rw [Date.read?, hread]
  rfl

/-- The text of a date is read back but for the fractions, with the time of day and without. -/
theorem read?_toText (hcovers : Calendar.coversYear d.year = true) :
    Date.read? d.toText.toList = some d.kept := by
  rw [toText, String.toList_ofList]
  by_cases hmidnight : d.isMidnight = true
  · have hnone : ∀ separator, readStamp? separator d.dayText = none := by
      intro separator
      rw [← List.append_nil d.dayText, readStamp?_dayText]
      cases separator <;> rfl
    have hzero : d.hour = 0 ∧ d.minute = 0 ∧ d.wholeSecond = 0 ∧ d.nanosecond = 0 := by
      simpa [isMidnight, and_assoc] using hmidnight
    have hsecond : d.second = 0 := by
      rw [second, hzero.2.2.1, hzero.2.2.2]
      rfl
    have hday : readDayOnly? d.dayText = some d.kept := by
      rw [← List.append_nil d.dayText]
      simp only [readDayOnly?, readDay?_dayText, Option.bind_eq_bind, Option.bind_some]
      have hfields := ofCalendar?_eq hcovers
      rwa [hzero.1, hzero.2.1, hsecond] at hfields
    rw [if_pos hmidnight, Date.read?, hnone, hnone, hday]
    rfl
  · have hletter : readStamp? .letter (d.stamp ' ') = none := readStamp?_letter d (by simp)
    have hblank : Separator.read? .blank (' ' :: d.timeText) = some d.timeText := by
      have hdrop : dropBlanks d.timeText = d.timeText := by
        simp only [timeText, List.append_assoc, dropBlanks_zeroPadded]
      exact congrArg some hdrop
    rw [if_neg hmidnight, Date.read?, hletter, readStamp?_stamp hcovers hblank]
    rfl

/-! ## Blanks around a date -/

/-- Nothing is trimmed from a text that a year begins and a number ends. -/
theorem trimBlanks_yearText (year : Int) (inner : List Char) (n : Nat) :
    trimBlanks (yearText year ++ inner ++ zeroPadded 2 n) =
      yearText year ++ inner ++ zeroPadded 2 n := by
  rw [trimBlanks, List.append_assoc, dropBlanks_yearText, ← List.append_assoc]
  exact dropBlanksEnd_of_isDigit (zeroPadded_ne_nil 2 n) (fun _ => isDigit_of_mem_zeroPadded) _

/-- A day is written without blanks around it. -/
theorem trimBlanks_dayText (d : Date) : trimBlanks d.dayText = d.dayText := by
  have hends : d.dayText = yearText d.year ++ ('-' :: zeroPadded 2 d.month ++ ['-']) ++
      zeroPadded 2 d.day := by
    simp [dayText]
  rw [hends, trimBlanks_yearText]

/-- A day and a time are written without blanks around them. -/
theorem trimBlanks_stamp (mark : Char) (d : Date) : trimBlanks (d.stamp mark) = d.stamp mark := by
  have hends : d.stamp mark = yearText d.year ++
      ('-' :: zeroPadded 2 d.month ++ '-' :: zeroPadded 2 d.day ++ mark :: zeroPadded 2 d.hour ++
        ':' :: zeroPadded 2 d.minute ++ [':']) ++ zeroPadded 2 d.second := by
    simp [stamp, dayText, timeText]
  rw [hends, trimBlanks_yearText]

/-- A text of a date is read back with blanks around it, but for the fractions. -/
theorem read?_trimBlanks (hcovers : Calendar.coversYear d.year = true) {written : List Char}
    (hwritten : written ∈ [d.toText.toList, d.stamp 'T']) {before after : List Char}
    (hbefore : ∀ c ∈ before, isBlank c = true) (hafter : ∀ c ∈ after, isBlank c = true) :
    Date.read? (trimBlanks (before ++ written ++ after)) = some d.kept := by
  rw [trimBlanks_append_blanks hafter, trimBlanks_blanks_append hbefore]
  rcases List.mem_pair.mp hwritten with rfl | rfl
  · have htrim : trimBlanks d.toText.toList = d.toText.toList := by
      rw [toText, String.toList_ofList]
      split
      · exact trimBlanks_dayText d
      · exact trimBlanks_stamp ' ' d
    rw [htrim, read?_toText hcovers]
  · rw [trimBlanks_stamp, read?_stamp hcovers]

end Date

/-! ## Named values in a script -/

namespace Script

/-- Entries are handed to a script one by one. -/
theorem Datum.ofEntries_eq_map (entries : Entries Value) :
    Datum.ofEntries entries = entries.map (Prod.map id Datum.ofValue) := by
  induction entries with
  | nil => rfl
  | cons entry rest ih =>
      rw [Datum.ofEntries, ih, List.map_cons]
      rfl

/-- What a name stands for is the value that it is bound to; a binding hides a global. -/
theorem find?_scopeOf {globals bindings : Entries Value} {name : String} {v : Value}
    (hbound : (bindings.get? name).or (globals.get? name) = some v) :
    (scopeOf globals bindings).find? name = some (Datum.ofValue v) := by
  have hget : ∀ entries : Entries Value,
      Entries.get? (Datum.ofEntries entries) name = (entries.get? name).map Datum.ofValue := by
    intro entries
    rw [Datum.ofEntries_eq_map]
    exact Entries.lookup_map Datum.ofValue entries name
  rw [Scope.find?, scopeOf, hget, hget]
  cases hlocal : bindings.get? name with
  | some u =>
      rw [hlocal, Option.some_or, Option.some.injEq] at hbound
      rw [hbound]
      rfl
  | none =>
      rw [hlocal, Option.none_or] at hbound
      rw [hbound]
      rfl

/-- A script that only names a value gives it back as far as JSON holds it. -/
theorem evaluate_name {globals bindings : Entries Value} {expression name : String} {v : Value}
    (hterm : Reader.ofText expression = .ok (.name name))
    (hbound : (bindings.get? name).or (globals.get? name) = some v) :
    evaluate globals expression bindings =
      (Datum.ofValue v).toJson.map Value.ofJson := by
  have hvalue : eval (scopeOf globals bindings) (.name name) = .ok (Datum.ofValue v) := by
    rw [eval, find?_scopeOf hbound, Option.getD_some]
  rw [evaluate, hterm]
  simp only [bind, Except.bind, hvalue]
  cases v <;> rfl

end Script

/-! ## Dates and their texts -/

namespace Formatter

/-- Whether a value is taken for a date: it is read as the date, and every formatter for dates
writes it as it writes the date. -/
def TakesFor (v : Value) (d : Date) : Prop :=
  toDate v = .ok d ∧ ∀ (formatter : Formatter) (style : NumberStyle), formatter.isNumeric = false →
    ∃ shown, formatter.format v style = .ok shown ∧ formatter.format (.date d) style = .ok shown

/-- A text from which a date is read is taken for that date. -/
theorem takesFor_text {s : String} {d : Date}
    (hread : Date.read? (Text.trimBlanks s.toList) = some d) : TakesFor (.text s) d := by
  have hdate : toDate (.text s) = .ok d := by
    simp only [toDate, hread]
  refine ⟨hdate, fun formatter style hdates => ?_⟩
  cases formatter with
  | number | integer | currency => contradiction
  | dateFull | dateLong | dateMedium | dateShort =>
      refine ⟨_, ?_, rfl⟩
      simp only [format, hdate]
      rfl

end Formatter

/-- A date and its texts are formatted alike.

For every date in whole seconds and in a year of the calendar, of four digits or with a sign, its
text and the text with a letter between day and time, with any blanks before and behind, are read as
the date, and every formatter for dates writes them as it writes the date.  A script that names the
date gives its text, which is formatted so too. -/
theorem Date.written_takenFor {d : Date} (hcovers : Calendar.coversYear d.year = true)
    (hwhole : d.InWholeSeconds) :
    (∀ written ∈ [d.toText.toList, d.stamp 'T'], ∀ before after : List Char,
      (∀ c ∈ before, Text.isBlank c = true) → (∀ c ∈ after, Text.isBlank c = true) →
        Formatter.TakesFor (.text (String.ofList (before ++ written ++ after))) d) ∧
    ∀ (globals bindings : Entries Value) (expression name : String),
      Script.Reader.ofText expression = .ok (.name name) →
      (bindings.get? name).or (globals.get? name) = some (.date d) →
        Script.evaluate globals expression bindings = .ok (.text d.toText) ∧
          Formatter.TakesFor (.text d.toText) d := by
  have htexts : ∀ written ∈ [d.toText.toList, d.stamp 'T'], ∀ before after : List Char,
      (∀ c ∈ before, Text.isBlank c = true) → (∀ c ∈ after, Text.isBlank c = true) →
        Formatter.TakesFor (.text (String.ofList (before ++ written ++ after))) d := by
    intro written hwritten before after hbefore hafter
    apply Formatter.takesFor_text
    rw [String.toList_ofList, read?_trimBlanks hcovers hwritten hbefore hafter,
      kept_eq_self_iff.mpr hwhole]
  refine ⟨htexts, fun globals bindings expression name hterm hbound => ⟨?_, ?_⟩⟩
  · rw [Script.evaluate_name hterm hbound]
    rfl
  · have hplain := htexts d.toText.toList List.mem_cons_self [] [] (by simp) (by simp)
    rwa [List.nil_append, List.append_nil, String.ofList_toList] at hplain

/-- A date that needs zeros in all its fields. -/
def Date.early : Date where
  year := 7
  month := 2
  day := 9
  hour := 8
  minute := 5
  wholeSecond := 3
  nanosecond := 0
  month_range := by decide
  day_range := by decide
  time_range := by decide

/-- The text of a date, between blanks and behind a script. -/
theorem Date.written_takenFor_early :
    Calendar.coversYear Date.early.year = true ∧ Date.early.InWholeSeconds ∧
      Formatter.TakesFor (.text (String.ofList
        (['\t', ' '] ++ Date.early.toText.toList ++ ['\u2028']))) Date.early ∧
      Script.evaluate [("due", .int 3)] " due " [("due", .date Date.early)] =
        .ok (.text "0007-02-09 08:05:03") := by
  have hcovers : Calendar.coversYear Date.early.year = true := rfl
  have hwhole : Date.early.InWholeSeconds := .inl rfl
  rcases Date.written_takenFor hcovers hwhole with ⟨htexts, hscripts⟩
  refine ⟨hcovers, hwhole, ?_, ?_⟩
  · exact htexts _ List.mem_cons_self _ _ (by simp [Text.isBlank]) (by simp [Text.isBlank])
  · have hscript :=
      hscripts [("due", .int 3)] [("due", .date Date.early)] " due " "due" rfl rfl
    exact hscript.1

end Platen
