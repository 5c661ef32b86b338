import Phrasebook.Proofs.FirstFault
import Phrasebook.Proofs.Lines
import Phrasebook.Proofs.Places

/-!
# Phrasebook.Proofs.Locations

Every diagnostic points at a piece of the text.

1. A fault stands where a token does, and every other diagnostic at a place of the document; both
   are cut out of the text at character boundaries.
2. What the line index makes of a span that cuts a piece out of the text is what counting would: the
   line feeds and the characters before the piece, and the characters of the piece.
-/

namespace Phrasebook

open Text

/-! ## spans that are looked up -/

section lookup

variable {source before piece : List Char} {span : Span}

theorem takeBytes_offset (h : span.Cuts source before piece) :
    takeBytes span.offset source = before := by
  obtain ⟨⟨behind, rfl⟩, hoffset, -⟩ := h
  rw [← hoffset, List.append_assoc, takeBytes_byteSize]

theorem takeBytes_stop (h : span.Cuts source before piece) :
    takeBytes (span.offset + span.length) source = before ++ piece := by
  obtain ⟨⟨behind, rfl⟩, hoffset, hlength⟩ := h
  rw [← hoffset, ← hlength, ← byteSize_append, takeBytes_byteSize]

/-- Looking up a span that cuts out a piece of the text gives that piece. -/
theorem slice_eq (h : span.Cuts source before piece) :
    (LineIndex.ofChars source).slice span.offset span.length = piece := by
  show (takeBytes (span.offset + span.length) source).drop
      (takeBytes span.offset source).length = piece
  rw [takeBytes_offset h, takeBytes_stop h, List.drop_left]

end lookup

/-! ## diagnostics -/

/-- A diagnostic points at a piece of a text, in bytes and in lines and characters. -/
structure Diagnostic.PointsAt (d : Diagnostic) (text fileId : String) : Prop where
  stop_le : d.offset + d.byteLength ≤ text.utf8ByteSize
  boundary_offset : Boundary text.toList d.offset
  boundary_stop : Boundary text.toList (d.offset + d.byteLength)
  piece : ∃ before piece, d.span.Cuts text.toList before piece ∧ d.line = before.count '\n' ∧
    d.column = (lastLine before).length ∧ d.length = piece.length
  fileId : d.fileId = fileId
  severity : d.severity = d.code.severity

section document

variable {text fileId : String} {root : Node} {place : Span}

theorem pointsAt_locate (h : place.Marks text.toList) (fileId : String) (problem : Problem) :
    ((Sink.ofString text fileId).locate place problem).PointsAt text fileId where
  stop_le := byteSize_toList text ▸ h.stop_le
  boundary_offset := h.boundary_offset
  boundary_stop := h.boundary_stop
  piece := by
    obtain ⟨before, piece, hcuts⟩ := h
    have hposition := LineIndex.position_eq text.toList place.offset
    rw [takeBytes_offset hcuts] at hposition
    refine ⟨before, piece, hcuts, ?_, ?_, ?_⟩
    · exact congrArg Position.line hposition
    · exact congrArg Position.column hposition
    · exact congrArg List.length (slice_eq hcuts)
  fileId := rfl
  severity := rfl

/-- A place of a document begins and ends between characters. -/
theorem marks_of_place (h : readDocument text = .ok root) (hplace : root.Place place) :
    place.Marks text.toList := by
  cases hplace with
  | node hn => exact (laidOut_of_contains h hn).marks
  | name hobject hm => exact (member_laidOut h hobject hm).name_marks

/-- A fault begins and ends between characters. -/
theorem marks_fault {f : Fault} (h : readDocument text = .error f) : f.span.Marks text.toList := by
  obtain ⟨t, ht, hspan⟩ := exists_span_of_readDocument_eq_error h
  rw [hspan]
  exact (inOrder_significantTokens text).marks t ht

end document

/-- **Diagnostics point at the text**: every diagnostic stands at a piece of the text, and says the
same about it in bytes as in lines and characters.  On the way, the tokens are cut out of the text
one behind the other, the nodes of a document are none of them empty and stand in order, and what
the line index looks up is cut at character boundaries. -/
theorem diagnostics_point_at_text (text fileId : String) (options : Options) :
    (∀ d ∈ (validate text fileId options).diagnostics, d.PointsAt text fileId) ∧
    Tiles 0 text.toList (tokenize text) ∧
    (∀ root n, readDocument text = .ok root → root.Contains n → n.LaidOut text.toList) ∧
    ∀ offset length, (LineIndex.ofString text).Resolves offset length := by
  refine ⟨fun d hd => ?_, (Cursor.ofString text).tiles_tokens,
    fun _ _ h hn => laidOut_of_contains h hn, LineIndex.resolves text.toList⟩
  cases h : readDocument text with
  | error f =>
      rw [validate_of_fault h, List.mem_singleton] at hd
      rw [hd]
      exact pointsAt_locate (marks_fault h) fileId _
  | ok root =>
      obtain ⟨place, problem, hplace, rfl⟩ := exists_place_of_document h hd
      exact pointsAt_locate (marks_of_place h hplace) fileId problem

/-- A document with letters of two bytes in front of a fault on its second line. -/
def accentedText : String :=
  "\x7bmetadata: \x7blanguages: ['en']\x7d, /* é\n */ phrases: \x7b'à': 5\x7d\x7d"

/-- The diagnostic of the number in `accentedText`. -/
def accentedDiagnostic : Diagnostic where
  code := .jsonException
  severity := .error
  message := "Json exception: Expected an object of translations for 'à', found number"
  fileId := "book"
  line := 1
  column := 19
  length := 1
  offset := 58
  byteLength := 1

theorem diagnostics_point_at_accentedText :
    (accentedDiagnostic ∈ (validate accentedText "book" {}).diagnostics ∧
      accentedDiagnostic.PointsAt accentedText "book") ∧
    ∃ root, readDocument accentedText = .ok root ∧ root.Contains root ∧
      root.LaidOut accentedText.toList := by
  obtain ⟨hpoints, -, hlaidOut, -⟩ := diagnostics_point_at_text accentedText "book" {}
  have hmem : accentedDiagnostic ∈ (validate accentedText "book" {}).diagnostics := by
    decide +kernel
  have hok : (readDocument accentedText).isOk = true := by decide +kernel
  refine ⟨⟨hmem, hpoints _ hmem⟩, ?_⟩
  cases hroot : readDocument accentedText with
  | error f =>
      rw [hroot] at hok
      cases hok
  | ok root => exact ⟨root, rfl, .self root, hlaidOut root root hroot (.self root)⟩

end Phrasebook
