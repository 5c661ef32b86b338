/-!
# Phrasebook.Text.Escape

Escape sequences, by which a text gives orders to a terminal.  They show nothing.

1. A control sequence (`ESC [`) goes up to a character from `@` to `~`.
2. A command (`ESC ]`) goes up to a bell, or to a backslash right behind another escape character.
3. Any other sequence has one character behind the escape character.
4. A sequence that does not end goes up to the end of the text.
-/

namespace Phrasebook.Text

/-- A place in a text, by the escape sequence that is open there. -/
inductive EscapeState where
  | outside
  | opened
  | control
  /-- Inside a command; `escaped` says that an escape character is the last one before the place. -/
  | command (escaped : Bool)
  deriving DecidableEq, Repr

namespace EscapeState

/-- The character that opens an escape sequence. -/
def escape : Char := '\x1b'

/-- The place behind one more character. -/
def next (e : EscapeState) (c : Char) : EscapeState :=
  match e with
  | .outside => if c = escape then .opened else .outside
  | .opened => if c = '[' then .control else if c = ']' then .command false else .outside
  | .control => if '@' ≤ c ∧ c ≤ '~' then .outside else .control
  | .command escaped =>
    if c = '\x07' || (escaped && c = '\\') then .outside else .command (c = escape)

/-- Whether a character at a place is shown. -/
def shows (e : EscapeState) (c : Char) : Bool := e == .outside && c != escape

/-- The characters of a text that are shown. -/
def shown (e : EscapeState) : List Char → List Char
  | [] => []
  | c :: rest => if e.shows c then c :: shown (e.next c) rest else shown (e.next c) rest

end EscapeState

end Phrasebook.Text
