import Phrasebook.Token

/-!
# Phrasebook.Document.Fault

Why a text is no document: the first token that cannot stand where it stands, and what could.
-/

namespace Phrasebook

/-- How deep objects and arrays may nest, the root included. -/
def maxDepth : Nat := 64

/-- What the reader of documents can wait for. -/
inductive Expectation where
  | document
  | name
  | colon
  | value
  | memberEnd
  | elementEnd
  | endOfText
  | moreInput
  deriving DecidableEq, Repr

/-- An expectation in words. -/
def Expectation.description : Expectation → String
  | document => "an object"
  | name => "a property name"
  | colon => "':' after the property name"
  | value => "a value"
  | memberEnd => "',' or '\x7d'"
  | elementEnd => "',' or ']'"
  | endOfText => "end of file"
  | moreInput => "more input"

/-- A fault in the structure of a document. -/
inductive Fault where
  | unexpectedToken (span : Span) (expected : Expectation)
  | unexpectedEnd (span : Span) (expected : Expectation)
  | unterminatedString (span : Span)
  | unterminatedComment (span : Span)
  | invalidEscape (span : Span) (sequence : String)
  | nestingTooDeep (span : Span)
  deriving DecidableEq, Repr

/-- The fault of a token that stands where `expected` was expected. -/
def Token.fault (t : Token) (expected : Expectation) : Fault :=
  match t.kind with
  | .endOfText => .unexpectedEnd t.span expected
  | .unterminatedString => .unterminatedString t.span
  | .unterminatedComment => .unterminatedComment t.span
  | .invalidEscape sequence => .invalidEscape t.span sequence
  | _ => .unexpectedToken t.span expected

namespace Fault

/-- Where the faulty token stands. -/
def span : Fault → Span
  | unexpectedToken span _ | unexpectedEnd span _ | unterminatedString span
  | unterminatedComment span | invalidEscape span _ | nestingTooDeep span => span

/-- The fault in a few words. -/
def message : Fault → String
  | unexpectedToken _ _ => "Unexpected token"
  | unexpectedEnd _ _ => "Unexpected end of file"
  | unterminatedString _ => "Unterminated string"
  | unterminatedComment _ => "Unterminated comment"
  | invalidEscape _ sequence => "Invalid escape sequence `" ++ sequence ++ "`"
  | nestingTooDeep _ => "Nesting is deeper than " ++ toString maxDepth ++ " levels"

/-- The fault with what was expected instead. -/
def detail (f : Fault) : String :=
  match f with
  | unexpectedToken _ expected | unexpectedEnd _ expected =>
    f.message ++ ", expected " ++ expected.description
  | _ => f.message

/-- The published code of a fault. -/
def code : Fault → String
  | unexpectedToken _ _ => "parser::unexpected_token"
  | unexpectedEnd _ _ => "parser::unexpected_eof"
  | unterminatedString _ => "parser::unterminated_string"
  | unterminatedComment _ => "parser::unterminated_comment"
  | invalidEscape _ _ => "parser::invalid_escape"
  | nestingTooDeep _ => "parser::nesting_too_deep"

/-- What to do about a fault. -/
def help : Fault → String
  | unexpectedToken _ _ => "The reader found a token it did not expect in this position."
  | unexpectedEnd _ expected =>
    "The file ended unexpectedly. The reader expected " ++ expected.description ++ "."
  | unterminatedString _ => "Add the closing quote to the string literal."
  | unterminatedComment _ => "Block comments must be closed with `*/`."
  | invalidEscape _ _ => "Valid escapes are \\\" \\\\ \\/ \\b \\f \\n \\r \\t and \\uXXXX."
  | nestingTooDeep _ =>
    "Objects and arrays in lingo.json may nest at most " ++ toString maxDepth ++ " levels deep."

/-- What is written beside the faulty token. -/
def label : Fault → String
  | unexpectedToken _ expected => "Expected " ++ expected.description ++ ", but found this"
  | unexpectedEnd _ _ => "File ended unexpectedly here"
  | unterminatedString _ => "This string is never closed"
  | unterminatedComment _ => "This comment is never closed"
  | invalidEscape _ _ => "Inside this string"
  | nestingTooDeep _ => "This opens one level too many"

end Fault

end Phrasebook
