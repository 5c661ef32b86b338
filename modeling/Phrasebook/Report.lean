import Phrasebook.Diagnostic
import Phrasebook.Report.Columns
import Phrasebook.Report.Fold

/-!
# Phrasebook.Report

A diagnostic as a report for people: its id, its message, and the text it points to.

```text
LINGO1001

  × Invalid language: '5' is not a string
   ╭─[lingo.json:6:1]
 5 │ "xx",
 6 │ 5
   · ┬
   · ╰── Invalid language
 7 │ ]
   ╰────
```

A span within one line is underlined, with its title under the middle.  A span of several lines is
marked by a rail to the left of its lines, with the title behind the last of them.
-/

namespace Phrasebook

namespace Report

open Text

/-- The columns of the screen. -/
def screenWidth : Nat := 200

/-- The sign of a severity. -/
def sign : Severity → Char
  | .warning => '⚠'
  | .error => '×'

/-- Blanks. -/
def blanks (n : Nat) : List Char := List.replicate n ' '

/-- Some horizontal strokes. -/
def strokes (n : Nat) : List Char := List.replicate n '─'

/-- The lines of the message: the sign of the severity before the first, a bar before the others. -/
def messageLines (severity : Severity) (message : String) : List (List Char) :=
  let mark (c : Char) (line : List Char) : List Char := [' ', ' ', c, ' '] ++ line
  match fold (screenWidth - 2 - 4) message.toList with
  | [] => []
  | first :: rest => mark (sign severity) first :: rest.map (mark '│')

/-! ## A span and a line -/

/-- Whether a span lies within a line and its line break. -/
def within (line : SourceLine) (span : Span) : Bool :=
  line.offset ≤ span.offset && span.stop ≤ line.offset + line.length

/-- The length by which an empty span counts as lying on a line. -/
def shownLength (span : Span) : Nat := if span.length = 0 then 1 else span.length

/-- Whether a span starts on a line. -/
def startsOn (line : SourceLine) (span : Span) : Bool :=
  line.offset ≤ span.offset && span.offset < line.offset + line.length

/-- Whether the last byte of a span is on a line. -/
def stopsOn (line : SourceLine) (span : Span) : Bool :=
  line.offset < span.offset + shownLength span
    && span.offset + shownLength span ≤ line.offset + line.length

/-- Whether a span starts before a line and ends behind it. -/
def passes (line : SourceLine) (span : Span) : Bool :=
  span.offset < line.offset && line.offset + line.length < span.offset + shownLength span

/-- Whether some of a span is on a line. -/
def touches (line : SourceLine) (span : Span) : Bool :=
  startsOn line span || passes line span || stopsOn line span

/-- Whether a line is marked by the rail of a span of several lines. -/
def railed (line : SourceLine) (span : Span) : Bool :=
  touches line span && !(startsOn line span && stopsOn line span)

/-- Whether a span ends on a line or just before it. -/
def endsAt (line : SourceLine) (span : Span) : Bool :=
  line.offset ≤ span.stop && span.stop ≤ line.offset + line.length

/-! ## Drawing -/

/-- The rail to the left of a line. -/
def rail (line : SourceLine) (span : Span) : List Char :=
  if railed line span then
    if line.offset ≤ span.offset then ['╭', '─', '▶', ' ']
    else if endsAt line span then ['├', '─', '▶', ' ']
    else if line.offset + line.length < span.stop then ['│', ' ', ' ', ' ']
    else blanks 4
  else blanks 4

/-- What stands to the left of the marks under a line, where there is a rail. -/
def railBelow (line : SourceLine) (span : Span) : List Char :=
  if railed line span then
    if !within line span && endsAt line span then '╰' :: strokes 3
    else '│' :: blanks 3
  else blanks 4

/-- The edge of a line with a number. -/
def numbered (digits number : Nat) : List Char :=
  let written := (toString number).toList
  blanks (1 + (digits - written.length)) ++ written ++ [' ', '│', ' ']

/-- The edge of a line without a number. -/
def unnumbered (digits : Nat) : List Char := blanks (1 + digits) ++ [' ', '·', ' ']

/-- The underline of a span within a line, and the title below it. -/
def underline (line : SourceLine) (span : Span) (title : String) : List (List Char) :=
  let start := startColumn line span.offset
  let stop := if span.length = 0 then start + 1 else max (stopColumn line span.stop) (start + 1)
  let middle := (start + stop) / 2
  let joint := if span.length = 0 then '▲' else '┬'
  [blanks start ++ strokes (middle - start) ++ [joint] ++ strokes (stop - middle - 1),
    blanks middle ++ ['╰', '─', '─', ' '] ++ title.toList]

/-- A line with the marks under it; `hasRail` says that some line of the excerpt has a rail. -/
def drawLine (digits : Nat) (hasRail : Bool) (span : Span) (title : String) (line : SourceLine) :
    List (List Char) :=
  let left (r : List Char) : List Char := if hasRail then r else []
  let text := numbered digits line.number ++ left (rail line span) ++ expandTabs line.text
  let marks :=
    if touches line span then
      if within line span then
        (underline line span title).map fun mark =>
          unnumbered digits ++ left (railBelow line span) ++ mark
      else if endsAt line span && span.offset < line.offset then
        [unnumbered digits ++ left (railBelow line span) ++ ['─', ' '] ++ title.toList]
      else []
    else []
  text :: marks

/-- The excerpt of a document around a span, with the title of the span. -/
def drawExcerpt (fileId : String) (span : Span) (title : String) (x : Excerpt) : List (List Char) :=
  let digits := (toString ((x.lines.getLast?.map (·.number)).getD 0)).length
  let hasRail := x.lines.any fun line => !within line span && railed line span
  let place := "[" ++ fileId ++ ":" ++ toString x.line ++ ":" ++ toString x.column ++ "]"
  [blanks (digits + 2) ++ ['╭', '─'] ++ place.toList]
    ++ x.lines.flatMap (drawLine digits hasRail span title)
    ++ [blanks (digits + 2) ++ '╰' :: strokes 4]

/-- What is written instead of an excerpt for a span beyond the end of the document. -/
def missingExcerpt (span : Span) (title : String) : String :=
  "  [Failed to read contents for label `" ++ title ++ "` (offset: " ++ toString span.offset
    ++ ", length: " ++ toString span.length ++ "): OutOfBounds]"

end Report

/-- The lines of a report on a diagnostic, against the text of its document. -/
def Diagnostic.reportLines (d : Diagnostic) (source : String) : List (List Char) :=
  [d.code.id.toList, []] ++ Report.messageLines d.severity d.message
    ++ match Report.excerpt? source.toList d.span with
      | some x => Report.drawExcerpt d.fileId d.span d.code.title x
      | none => [(Report.missingExcerpt d.span d.code.title).toList]

/-- A report on a diagnostic, against the text of its document. -/
def Diagnostic.report (d : Diagnostic) (source : String) : String :=
  String.ofList ((d.reportLines source).flatMap (· ++ ['\n']))

end Phrasebook
