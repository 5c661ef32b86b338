import Phrasebook.Text.Hex
import Phrasebook.Text.Surrogate

/-!
# Phrasebook.Token.StringLiteral

String literals, read from just behind the opening quote.

1. The literal ends at the next quote of the same kind that is not escaped.
2. A backslash before one of `" ' \ / b f n r t` makes a short escape; `\u` and four hexadecimal
   digits stand for a UTF-16 code unit, and a high surrogate needs a low one in a second `\u` escape
   behind it.
3. Every other character, a line feed too, stands for itself.
4. Reading stops at the first faulty escape: just behind the character that no escape knows, or
   before the character that cannot go on with a `\u` escape.
-/

namespace Phrasebook.StringLiteral

open Text

/-- The outcome of reading an escape sequence from behind its backslash. -/
inductive EscapeScan where
  /-- The sequence stands for a character. -/
  | char (c : Char) (rest : List Char)
  /-- The sequence stands for nothing; reading stopped before `rest`. -/
  | invalid (sequence : List Char) (rest : List Char)
  /-- The text ends behind the backslash. -/
  | unfinished
  deriving DecidableEq, Repr

/-- The character that a short escape stands for. -/
def shortEscape? : Char → Option Char
  | '"' => some '"'
  | '\'' => some '\''
  | '\\' => some '\\'
  | '/' => some '/'
  | 'b' => some '\x08'
  | 'f' => some '\x0c'
  | 'n' => some '\n'
  | 'r' => some '\r'
  | 't' => some '\t'
  | _ => none

/-- The hexadecimal digits at the front of a text, four at most. -/
def unitDigits (s : List Char) : List Char := (s.take 4).takeWhile isHexDigit

/-- The text behind the digits of a code unit. -/
def afterUnit (s : List Char) : List Char := s.drop (unitDigits s).length

/-- An escape sequence for a code unit, from the digits given. -/
def writtenUnit (digits : List Char) : List Char := '\\' :: 'u' :: digits

/-- The escape sequence that names a code unit in a message. -/
def namedUnit (n : Nat) : List Char := writtenUnit (hexPaddedUpper 4 n)

/-- The second half of a surrogate pair, from behind its `\u`. -/
def scanLowUnit (high : Nat) (s : List Char) : EscapeScan :=
  if (unitDigits s).length < 4 then .invalid (writtenUnit (unitDigits s)) (afterUnit s)
  else
    let low := hexValue (unitDigits s)
    if isLowSurrogate low then .char (Char.ofNat (joinSurrogates high low)) (afterUnit s)
    else .invalid (namedUnit high ++ namedUnit low) (afterUnit s)

/-- What must follow a high surrogate: a backslash, the letter `u` and a low surrogate. -/
def scanPair (high : Nat) : List Char → EscapeScan
  | '\\' :: 'u' :: rest => scanLowUnit high rest
  | '\\' :: rest => .invalid (namedUnit high) rest
  | rest => .invalid (namedUnit high) rest

/-- A `\u` escape, from behind its `u`. -/
def scanUnit (s : List Char) : EscapeScan :=
  if (unitDigits s).length < 4 then .invalid (writtenUnit (unitDigits s)) (afterUnit s)
  else
    let unit := hexValue (unitDigits s)
    if isHighSurrogate unit then scanPair unit (afterUnit s)
    else if isLowSurrogate unit then .invalid (namedUnit unit) (afterUnit s)
    else .char (Char.ofNat unit) (afterUnit s)

/-- An escape sequence, from behind its backslash. -/
def scanEscape : List Char → EscapeScan
  | [] => .unfinished
  | 'u' :: rest => scanUnit rest
  | c :: rest =>
    match shortEscape? c with
    | some value => .char value rest
    | none => .invalid ['\\', c] rest

/-- The text that an escape leaves. -/
def EscapeScan.rest : EscapeScan → List Char
  | .char _ rest => rest
  | .invalid _ rest => rest
  | .unfinished => []

theorem afterUnit_suffix (s : List Char) : afterUnit s <:+ s := List.drop_suffix _ _

theorem scanLowUnit_suffix (high : Nat) (s : List Char) : (scanLowUnit high s).rest <:+ s := by
  simp only [scanLowUnit]
  split
  · exact afterUnit_suffix s
  · split <;> exact afterUnit_suffix s

theorem scanPair_suffix (high : Nat) (s : List Char) : (scanPair high s).rest <:+ s := by
  unfold scanPair
  split
  · next rest =>
    exact (scanLowUnit_suffix high rest).trans ((List.suffix_cons _ _).trans (List.suffix_cons _ _))
  · next rest _ => exact List.suffix_cons _ _
  · exact List.suffix_refl _

theorem scanUnit_suffix (s : List Char) : (scanUnit s).rest <:+ s := by
  simp only [scanUnit]
  split
  · exact afterUnit_suffix s
  · split
    · exact (scanPair_suffix _ _).trans (afterUnit_suffix s)
    · split <;> exact afterUnit_suffix s

/-- What an escape leaves is an end of the text. -/
theorem scanEscape_suffix (s : List Char) : (scanEscape s).rest <:+ s := by
  unfold scanEscape
  split
  · exact List.suffix_refl _
  · next rest => exact (scanUnit_suffix rest).trans (List.suffix_cons _ _)
  · next c rest _ => split <;> exact List.suffix_cons _ _

/-- The outcome of reading a string literal from behind its opening quote. -/
inductive Scan where
  /-- The literal stands for `value` and ends before `rest`. -/
  | closed (value : List Char) (rest : List Char)
  /-- The text ends inside the literal. -/
  | unterminated
  /-- An escape sequence stands for nothing; reading stopped before `rest`. -/
  | invalid (sequence : List Char) (rest : List Char)
  deriving DecidableEq, Repr

namespace Scan

/-- The outcome with one more character in front of the value. -/
def cons (c : Char) : Scan → Scan
  | closed value rest => closed (c :: value) rest
  | outcome => outcome

/-- The text that a literal leaves. -/
def rest : Scan → List Char
  | closed _ rest => rest
  | unterminated => []
  | invalid _ rest => rest

@[simp] theorem rest_cons (c : Char) (s : Scan) : (s.cons c).rest = s.rest := by
  cases s <;> rfl

end Scan

/-- A string literal that ends with `quote`, from behind its opening quote. -/
def scan (quote : Char) : List Char → Scan
  | [] => .unterminated
  | c :: s =>
    if c = quote then .closed [] s
    else if c = '\\' then
      match _h : scanEscape s with
      | .char value rest => (scan quote rest).cons value
      | .invalid sequence rest => .invalid sequence rest
      | .unfinished => .unterminated
    else (scan quote s).cons c
termination_by s => s.length
decreasing_by
  · have := (scanEscape_suffix s).length_le
    rw [_h] at this
    exact Nat.lt_succ_of_le this
  · exact Nat.lt_succ_self _

/-- What a literal leaves is an end of the text. -/
theorem scan_suffix (quote : Char) (s : List Char) : (scan quote s).rest <:+ s := by
  fun_induction scan quote s with
  | case1 => exact List.suffix_refl _
  | case2 => exact List.suffix_cons _ _
  | case3 s value rest h _ ih =>
    have hs := scanEscape_suffix s
    rw [h] at hs
    rw [Scan.rest_cons]
    exact ih.trans (hs.trans (List.suffix_cons _ _))
  | case4 s sequence rest h _ =>
    have hs := scanEscape_suffix s
    rw [h] at hs
    exact hs.trans (List.suffix_cons _ _)
  | case5 => exact List.nil_suffix
  | case6 c s _ _ ih =>
    rw [Scan.rest_cons]
    exact ih.trans (List.suffix_cons _ _)

end Phrasebook.StringLiteral
