import Phrasebook.Binary64

/-!
# Phrasebook.Token

The tokens of a phrasebook document, a lenient dialect of JSON: comments, single quotes and bare
property names are allowed beside what JSON has.

Text that belongs to no token is not an error of its own.  It becomes a token that names the fault
(`unknown`, `unterminatedString`, `unterminatedComment`, `invalidEscape`), which the reader of
documents then meets in its place.
-/

namespace Phrasebook

/-- A stretch of text: its byte offset and its length in bytes. -/
structure Span where
  offset : Nat
  length : Nat
  deriving DecidableEq, Repr

namespace Span

/-- The offset just behind a span. -/
def stop (s : Span) : Nat := s.offset + s.length

/-- The span between two offsets. -/
def between (start stop : Nat) : Span := ⟨start, stop - start⟩

end Span

/-- What a token is, with what it carries. -/
inductive TokenKind where
  /-- The end of the text. -/
  | endOfText
  /-- A run of blanks. -/
  | blank
  /-- A comment, with its text trimmed. -/
  | comment (text : String)
  /-- A character that starts no token, or a number whose exponent has no digits. -/
  | unknown
  /-- A string that the end of the text cuts off. -/
  | unterminatedString
  /-- A block comment that the end of the text cuts off. -/
  | unterminatedComment
  /-- A string up to an escape sequence that stands for no character, with that sequence. -/
  | invalidEscape (sequence : String)
  /-- A bare property name. -/
  | identifier (name : String)
  /-- A quoted string, with the text that it stands for. -/
  | string (value : String)
  | number (value : Binary64)
  | boolean (value : Bool)
  | null
  | openBrace
  | closeBrace
  | openBracket
  | closeBracket
  | comma
  | colon
  deriving DecidableEq, Repr

/-- Whether a token only separates others. -/
def TokenKind.isTrivia : TokenKind → Bool
  | .blank | .comment _ => true
  | _ => false

/-- A token and where it stands. -/
structure Token where
  kind : TokenKind
  span : Span
  deriving DecidableEq, Repr

namespace Token

/-- Whether a token only separates others. -/
def isTrivia (t : Token) : Bool := t.kind.isTrivia

end Token

end Phrasebook
