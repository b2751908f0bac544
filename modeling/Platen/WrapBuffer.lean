import Platen.Text.Pad

/-!
# Wrapped cells

Text that is too long for a cell waits in a buffer, column by column, and is handed out in pieces of
the width of the column.  Every piece is filled with spaces to exactly that width.
-/

namespace Platen

/-- The text that still waits, by column. -/
abbrev WrapBuffer := List (Nat × List Char)

namespace WrapBuffer

/-- The characters filled with spaces to a width; more characters are kept. -/
def fill (width : Nat) (cs : List Char) : List Char :=
  cs ++ Text.blanks (width - cs.length)

/-- The buffer with nothing waiting for a column. -/
def clear (buffer : WrapBuffer) (column : Nat) : WrapBuffer :=
  buffer.filter (·.1 ≠ column)

/-- The buffer with some text waiting for a column. -/
def put (buffer : WrapBuffer) (column : Nat) (cs : List Char) : WrapBuffer :=
  (column, cs) :: buffer.clear column

/-- The text that waits for a column. -/
def pending (buffer : WrapBuffer) (column : Nat) : List Char :=
  (buffer.lookup column).getD []

/-- Hands out what fits in a cell and keeps the rest.  A cell without width takes the text whole. -/
def add (buffer : WrapBuffer) (column : Nat) (text : String) (width : Nat) :
    String × WrapBuffer :=
  let cs := text.toList
  if cs.length ≤ width || width = 0 then
    (String.ofList (fill width cs), buffer.clear column)
  else (String.ofList (cs.take width), buffer.put column (cs.drop width))

/-- Hands out the next piece for a cell, all spaces when nothing waits. -/
def consume (buffer : WrapBuffer) (column width : Nat) : String × WrapBuffer :=
  match buffer.lookup column with
  | none => (String.ofList (Text.blanks width), buffer)
  | some cs =>
    let rest := cs.drop width
    (String.ofList (fill width (cs.take width)),
      if rest.isEmpty then buffer.clear column else buffer.put column rest)

/-- The number of characters that wait. -/
def remaining (buffer : WrapBuffer) : Nat :=
  (buffer.flatMap (·.2)).length

/-- One further row: a piece for each column from `column` on. -/
def row (buffer : WrapBuffer) (column : Nat) : List Nat → List String × WrapBuffer
  | [] => ([], buffer)
  | width :: widths =>
    let (piece, buffer) := buffer.consume column width
    let (pieces, buffer) := buffer.row (column + 1) widths
    (piece :: pieces, buffer)

/-- Rows until nothing waits.  Text that no column takes is dropped. -/
def flushRows (widths : List Nat) : Nat → WrapBuffer → List (List String) × WrapBuffer
  | 0, _ => ([], [])
  | fuel + 1, buffer =>
    if buffer.isEmpty then ([], buffer)
    else
      let (pieces, after) := buffer.row 0 widths
      if after.remaining = buffer.remaining then ([], [])
      else
        let (rows, last) := flushRows widths fuel after
        (pieces :: rows, last)

/-- Hands out everything that waits, a row at a time; each row takes at least one character. -/
def flush (buffer : WrapBuffer) (widths : List Nat) : List (List String) × WrapBuffer :=
  flushRows widths (buffer.remaining + 1) buffer

end WrapBuffer

end Platen
