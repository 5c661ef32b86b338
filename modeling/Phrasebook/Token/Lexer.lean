import Phrasebook.Text.Blank
import Phrasebook.Text.Bytes
import Phrasebook.Text.Numeral
import Phrasebook.Token
import Phrasebook.Token.NumberLiteral
import Phrasebook.Token.StringLiteral

/-!
# Phrasebook.Token.Lexer

From text to tokens.

1. `scan` reads one token: its first character decides the kind, and the token takes as much of the
   text as its kind allows.
2. A `Cursor` is a place in a text.  `Cursor.next` returns the token there and the place behind it;
   at the end of the text it returns the token `endOfText` and stays.
3. `tokenize` collects all tokens of a text, the last of them `endOfText`.
-/

namespace Phrasebook

open Text

namespace TokenKind

/-- Whether a character can start a bare name. -/
def isNameStart (c : Char) : Bool := isLetter c || c == '_' || c == '$'

/-- Whether a character can go on with a bare name. -/
def isNamePart (c : Char) : Bool := isAlphanumeric c || c == '_' || c == '$'

/-- A bare name: a keyword if it is spelled as one. -/
def ofName (name : List Char) : TokenKind :=
  if name = ['t', 'r', 'u', 'e'] then .boolean true
  else if name = ['f', 'a', 'l', 's', 'e'] then .boolean false
  else if name = ['n', 'u', 'l', 'l'] then .null
  else .identifier (String.ofList name)

/-- A number literal; one without a value is not known as a token. -/
def ofNumber (n : NumberLiteral) : TokenKind :=
  match n.value? with
  | some value => .number value
  | none => .unknown

/-- The text before the first `*/`, and the text behind it. -/
def splitAtCommentEnd : List Char → Option (List Char × List Char)
  | '*' :: '/' :: rest => some ([], rest)
  | c :: rest => (splitAtCommentEnd rest).map fun (text, after) => (c :: text, after)
  | [] => none

/-- A line comment from behind its slashes: it ends before the line feed. -/
def scanLineComment (s : List Char) : TokenKind × List Char :=
  (.comment (String.ofList (trim (s.takeWhile (· != '\n')))), s.dropWhile (· != '\n'))

/-- A block comment from behind its opening. -/
def scanBlockComment (s : List Char) : TokenKind × List Char :=
  match splitAtCommentEnd s with
  | some (text, rest) => (.comment (String.ofList (trim text)), rest)
  | none => (.unterminatedComment, [])

/-- A string literal from behind its opening quote. -/
def scanString (quote : Char) (s : List Char) : TokenKind × List Char :=
  match StringLiteral.scan quote s with
  | .closed value rest => (.string (String.ofList value), rest)
  | .unterminated => (.unterminatedString, [])
  | .invalid sequence rest => (.invalidEscape (String.ofList sequence), rest)

/-- A number literal from behind its sign. -/
def scanNumber (negative : Bool) (s : List Char) : TokenKind × List Char :=
  let (literal, rest) := NumberLiteral.scan negative s
  (ofNumber literal, rest)

/-- What starts with a slash. -/
def scanSlash : List Char → TokenKind × List Char
  | '/' :: s => scanLineComment s
  | '*' :: s => scanBlockComment s
  | s => (.unknown, s)

/-- What starts with a minus sign: a number if a digit comes next. -/
def scanMinus (s : List Char) : TokenKind × List Char :=
  if s.head?.any Char.isDigit then scanNumber true s else (.unknown, s)

/-- What starts with any other character. -/
def scanWord (c : Char) (s : List Char) : TokenKind × List Char :=
  if isBlank c then (.blank, s.dropWhile isBlank)
  else if isNameStart c then (ofName (c :: s.takeWhile isNamePart), s.dropWhile isNamePart)
  else if c.isDigit then scanNumber false (c :: s)
  else (.unknown, s)

/-- The token that starts with the character `c`, and the text behind it. -/
def scan (c : Char) (s : List Char) : TokenKind × List Char :=
  match c with
  | '{' => (.openBrace, s)
  | '}' => (.closeBrace, s)
  | '[' => (.openBracket, s)
  | ']' => (.closeBracket, s)
  | ',' => (.comma, s)
  | ':' => (.colon, s)
  | '/' => scanSlash s
  | '"' => scanString '"' s
  | '\'' => scanString '\'' s
  | '-' => scanMinus s
  | c => scanWord c s

theorem splitAtCommentEnd_suffix {s text rest : List Char}
    (h : splitAtCommentEnd s = some (text, rest)) : rest <:+ s := by
  fun_induction splitAtCommentEnd s generalizing text with
  | case1 r =>
    obtain ⟨rfl, rfl⟩ := Prod.mk.inj (Option.some.inj h)
    exact (List.suffix_cons _ _).trans (List.suffix_cons _ _)
  | case2 c s _ ih =>
    obtain ⟨⟨text', rest'⟩, h', e⟩ := Option.map_eq_some_iff.1 h
    obtain ⟨rfl, rfl⟩ := Prod.mk.inj e
    exact (ih h').trans (List.suffix_cons _ _)
  | case3 => simp at h

theorem scanBlockComment_suffix (s : List Char) : (scanBlockComment s).2 <:+ s := by
  unfold scanBlockComment
  split
  · next h => exact splitAtCommentEnd_suffix h
  · exact List.nil_suffix

theorem scanString_suffix (quote : Char) (s : List Char) : (scanString quote s).2 <:+ s := by
  have h := StringLiteral.scan_suffix quote s
  unfold scanString
  split <;> next e => rw [e] at h; exact h

theorem scanSlash_suffix (s : List Char) : (scanSlash s).2 <:+ s := by
  unfold scanSlash
  split
  · exact (List.dropWhile_suffix _).trans (List.suffix_cons _ _)
  · exact (scanBlockComment_suffix _).trans (List.suffix_cons _ _)
  · exact List.suffix_refl _

theorem scanMinus_suffix (s : List Char) : (scanMinus s).2 <:+ s := by
  unfold scanMinus
  split
  · exact NumberLiteral.scan_suffix true s
  · exact List.suffix_refl _

/-- A number that starts with the digit `c` takes that digit. -/
theorem scanNumber_cons_suffix {c : Char} (hc : c.isDigit = true) (s : List Char) :
    (scanNumber false (c :: s)).2 <:+ s := by
  show (NumberLiteral.scan false (c :: s)).2 <:+ s
  have h : (NumberLiteral.scan false (c :: s)).2 <:+ (NumberLiteral.spanDigits (c :: s)).2 :=
    (NumberLiteral.scanExponent_suffix _).trans (NumberLiteral.scanFraction_suffix _)
  simp only [NumberLiteral.spanDigits, List.dropWhile_cons, hc, if_true] at h
  exact h.trans (List.dropWhile_suffix _)

theorem scanWord_suffix (c : Char) (s : List Char) : (scanWord c s).2 <:+ s := by
  unfold scanWord
  split
  · exact List.dropWhile_suffix _
  · split
    · exact List.dropWhile_suffix _
    · split
      · next hc => exact scanNumber_cons_suffix hc s
      · exact List.suffix_refl _

/-- What a token leaves is an end of the text behind its first character. -/
theorem scan_suffix (c : Char) (s : List Char) : (scan c s).2 <:+ s := by
  unfold scan
  split
  iterate 6 exact List.suffix_refl _
  · exact scanSlash_suffix s
  · exact scanString_suffix _ s
  · exact scanString_suffix _ s
  · exact scanMinus_suffix s
  · exact scanWord_suffix _ s

end TokenKind

/-- A place in a text: its byte offset, and the text from there on. -/
structure Cursor where
  offset : Nat
  rest : List Char
  deriving DecidableEq, Repr

namespace Cursor

/-- The start of a text. -/
def ofString (text : String) : Cursor := ⟨0, text.toList⟩

/-- The token at a place, and the place behind it. -/
def next (p : Cursor) : Token × Cursor :=
  match p.rest with
  | [] => (⟨.endOfText, ⟨p.offset, 0⟩⟩, p)
  | c :: s =>
    let (kind, rest) := TokenKind.scan c s
    let length := byteSize p.rest - byteSize rest
    (⟨kind, ⟨p.offset, length⟩⟩, ⟨p.offset + length, rest⟩)

/-- The tokens of `count` steps. -/
def steps : Nat → Cursor → List Token
  | 0, _ => []
  | count + 1, p => p.next.1 :: steps count p.next.2

/-- A step over a character leaves less text. -/
theorem length_next_lt {p : Cursor} {c : Char} {s : List Char} (h : p.rest = c :: s) :
    p.next.2.rest.length < p.rest.length := by
  have hs := (TokenKind.scan_suffix c s).length_le
  unfold next
  rw [h]
  exact Nat.lt_succ_of_le hs

/-- The tokens from a place to the end of the text, the last of them `endOfText`. -/
def tokens (p : Cursor) : List Token :=
  match _h : p.rest with
  | [] => [p.next.1]
  | _ :: _ => p.next.1 :: tokens p.next.2
termination_by p.rest.length
decreasing_by exact length_next_lt _h

end Cursor

/-- The tokens of a text, the last of them `endOfText`. -/
def tokenize (text : String) : List Token := (Cursor.ofString text).tokens

end Phrasebook
