import CjkProse.Report
import CjkProse.Text.Position
import CjkProse.Text.Quoted

/-!
# The console

Messages are printed with marks for colours in square brackets, so a text that is shown as it is has
its brackets escaped where they would read as marks.  The report on a file is a table of its parse
errors and of its changes in document order.

## Main definitions

* `Markup.escape` — a text to be shown as it is.
* `Printed` — what is printed: a line or a table.
* `Report.table` — the table of a report.
-/

namespace CjkProse

namespace Markup

/-- Whether a letter may come first within square brackets that are a mark. -/
def startsMark (c : Char) : Bool := c.isLower || c == '#' || c == '/' || c == '@'

/-- Whether what follows an opening bracket makes a mark of it: it is closed before another one is
opened. -/
def isMark : Text → Bool
  | [] => false
  | c :: cs => startsMark c && cs.find? (fun d => d == '[' || d == ']') == some ']'

/-- Escapes what reads as marks, after `slashes` backslashes that have not been written yet.  Those
in front of a mark are doubled, and one more takes the meaning from the mark. -/
def escapeMarks (slashes : Nat) : Text → Text
  | [] => List.replicate slashes '\\'
  | c :: cs =>
    if c == '\\' then escapeMarks (slashes + 1) cs
    else if c == '[' && isMark cs then
      List.replicate (2 * slashes + 1) '\\' ++ c :: escapeMarks 0 cs
    else List.replicate slashes '\\' ++ c :: escapeMarks 0 cs

/-- A single backslash at the end is doubled, lest it take the meaning from a mark after it. -/
def closeSlash (t : Text) : Text :=
  match t.reverse with
  | ['\\'] => t ++ ['\\']
  | '\\' :: c :: _ => if c == '\\' then t else t ++ ['\\']
  | _ => t

/-- A text to be shown as it is. -/
def escape (t : Text) : Text := closeSlash (escapeMarks 0 t)

/-- A text in a colour. -/
def coloured (colour : String) (t : Text) : Text :=
  ['['] ++ colour.toList ++ [']'] ++ t ++ "[/".toList ++ colour.toList ++ [']']

example : escape "d[red]/x\\[b].md".toList = "d\\[red]/x\\\\\\[b].md".toList := by decide

example : escape "[A] [1] [a[b]\\".toList = "[A] [1] [a\\[b]\\\\".toList := by decide

end Markup

/-- What is printed. -/
inductive Printed
  /-- A line. -/
  | line (markup : Text)
  /-- A table with a title, the heads of its columns and its rows. -/
  | table (title : Text) (heads : List Text) (rows : List (List Text))
  deriving DecidableEq, Repr, Inhabited

namespace Report

/-- The heads of the columns: place, kind, source and demand. -/
def heads : List Text := ["位置".toList, "类型".toList, "原文".toList, "建议".toList]

/-- The position at which a span starts. -/
def place (text : Text) (span : Span) : Text := (Position.ofOffset text span.start).label

/-- The row of a parse error. -/
def errorRow (text : Text) (e : ParseError) : List Text :=
  [(e.span?.map (place text)).getD ['-'],
    Markup.coloured "red" (Markup.escape e.message.toList), [],
    Markup.escape (e.label.getD [])]

/-- The row of a change. -/
def changeRow (text : Text) (d : Diagnostic) : List Text :=
  [place text d.span, Markup.escape d.message.toList, Markup.escape (Quoted.quote d.original),
    Markup.escape d.label]

/-- The table of a report on the file `name`, which holds `text`. -/
def table (name text : Text) (r : Report) : Printed :=
  .table (Markup.escape name) heads
    (r.parseErrors.map (errorRow text) ++ r.diagnostics.reverse.map (changeRow text))

/-- What is printed for a report: its table, if it has any row. -/
def printed (name text : Text) (r : Report) : List Printed :=
  if r.diagnostics.isEmpty && r.parseErrors.isEmpty then [] else [r.table name text]

end Report

end CjkProse
