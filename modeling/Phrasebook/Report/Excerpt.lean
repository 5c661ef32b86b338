import Phrasebook.Text.Bytes
import Phrasebook.Token

/-!
# Phrasebook.Report.Excerpt

The part of a document that a report shows: the lines of a span, with one line before and one
behind.

1. A line ends with a line feed, with a carriage return, or with both in this order.
2. A span that goes beyond the end of the document by more than one byte cannot be shown.
3. In the part that is shown, a carriage return on its own is a character like any other, but it
   still has counted as a line break before the part.
-/

namespace Phrasebook.Report

open Text

/-- The line breaks of a text that starts at `offset`, each with the offset of its start and the
offset behind it. -/
def lineBreaks (offset : Nat) : List Char → List (Nat × Nat)
  | [] => []
  | '\r' :: '\n' :: rest => (offset, offset + 2) :: lineBreaks (offset + 2) rest
  | c :: rest =>
    if c = '\r' ∨ c = '\n' then (offset, offset + 1) :: lineBreaks (offset + 1) rest
    else lineBreaks (offset + c.utf8Size) rest

/-- A line of a document as a report shows it. -/
structure SourceLine where
  /-- The number of the line, counted from one. -/
  number : Nat
  offset : Nat
  /-- The bytes of the line and of its line break. -/
  length : Nat
  text : List Char
  deriving DecidableEq, Repr

/-- The lines of a text that starts at `offset` behind `number` lines; `text` has been read of the
next line.  A last line that ends with a carriage return is not counted as a new one. -/
def sourceLines (number offset : Nat) (text : List Char) : List Char → List SourceLine
  | [] =>
    if text.isEmpty then []
    else [⟨if text.getLast? = some '\r' then number else number + 1, offset, byteSize text, text⟩]
  | '\r' :: '\n' :: rest =>
    ⟨number + 1, offset, byteSize text + 2, text⟩
      :: sourceLines (number + 1) (offset + byteSize text + 2) [] rest
  | c :: rest =>
    if c = '\n' then
      ⟨number + 1, offset, byteSize text + 1, text⟩
        :: sourceLines (number + 1) (offset + byteSize text + 1) [] rest
    else sourceLines number offset (text ++ [c]) rest

/-- What a report shows of a document. -/
structure Excerpt where
  lines : List SourceLine
  /-- The line on which the span starts, counted from one. -/
  line : Nat
  /-- The byte of that line at which the span starts, counted from one. -/
  column : Nat
  deriving DecidableEq, Repr

/-- The excerpt for a span, unless the span lies beyond the end of the document. -/
def excerpt? (source : List Char) (span : Span) : Option Excerpt :=
  let size := byteSize source
  let last := span.stop - 1
  if size < last then none
  else
    let breaks := lineBreaks 0 source
    let before := breaks.filter fun b => b.2 ≤ span.offset
    let after := breaks.filter fun b => last < b.1
    let lineStart := (before.getLast?.map (·.2)).getD 0
    let place := (breaks.find? fun b => b.1 < span.offset && span.offset < b.2).map (·.1)
    let start := (before.dropLast.getLast?.map (·.2)).getD 0
    let stop := ((after.drop 1).head?.map (·.2)).getD size
    some {
      lines := sourceLines (before.length - 1) start [] (dropBytes start (takeBytes stop source))
      line := before.length + 1
      column := place.getD (min span.offset size) - lineStart + 1 }

end Phrasebook.Report
