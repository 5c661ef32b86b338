import Phrasebook.Text.Hex
import Phrasebook.Text.Surrogate

/-!
# Phrasebook.Json.Token

The tokens of strict JSON.

1. Blanks are the space, the tab, the line feed and the carriage return.
2. A string holds no bare control character, and each backslash in it starts one of the escapes of
   JSON.
3. A number has no zeros in front, and digits on both sides of its point and in its exponent.

A text with anything else in it has no tokens.
-/

namespace Phrasebook

open Text

/-- A token of strict JSON. -/
inductive JsonToken where
  | openBrace
  | closeBrace
  | openBracket
  | closeBracket
  | comma
  | colon
  | null
  | boolean (value : Bool)
  | number (literal : String)
  | string (text : Option String)
  deriving DecidableEq, Repr

namespace JsonToken

/-- Whether a character may stand between tokens. -/
def isBlank (c : Char) : Bool := c == ' ' || c == '\t' || c == '\n' || c == '\r'

/-- The character that a short escape stands for. -/
def shortEscape? : Char → Option Char
  | '"' => some '"'
  | '\\' => some '\\'
  | '/' => some '/'
  | 'b' => some '\x08'
  | 'f' => some '\x0c'
  | 'n' => some '\n'
  | 'r' => some '\r'
  | 't' => some '\t'
  | _ => none

/-- The code points and code units that a string writes, from behind its opening quote, and the text
behind the string. -/
def scanString : List Char → Option (List Nat × List Char)
  | [] => none
  | '"' :: rest => some ([], rest)
  | '\\' :: 'u' :: a :: b :: c :: d :: rest =>
    if [a, b, c, d].all isHexDigit then
      (scanString rest).map fun (units, after) => (hexValue [a, b, c, d] :: units, after)
    else none
  | '\\' :: e :: rest =>
    match shortEscape? e with
    | some x => (scanString rest).map fun (units, after) => (x.toNat :: units, after)
    | none => none
  | c :: rest =>
    if c.toNat < 0x20 || c == '\\' then none
    else (scanString rest).map fun (units, after) => (c.toNat :: units, after)

/-- The text of code points and code units; none if half a surrogate pair is among them. -/
def decodeUnits : List Nat → Option (List Char)
  | [] => some []
  | [n] => if isHighSurrogate n || isLowSurrogate n then none else some [Char.ofNat n]
  | n :: m :: rest =>
    if isHighSurrogate n then
      if isLowSurrogate m then (decodeUnits rest).map (Char.ofNat (joinSurrogates n m) :: ·)
      else none
    else if isLowSurrogate n then none
    else (decodeUnits (m :: rest)).map (Char.ofNat n :: ·)

/-- The digits before the point of a number, and the text behind them. -/
def scanWhole (s : List Char) : Option (List Char × List Char) :=
  match s.takeWhile Char.isDigit with
  | [] => none
  | ['0'] => some (['0'], s.drop 1)
  | '0' :: _ => none
  | digits => some (digits, s.drop digits.length)

/-- One or more digits, and the text behind them. -/
def scanDigits (s : List Char) : Option (List Char × List Char) :=
  match s.takeWhile Char.isDigit with
  | [] => none
  | digits => some (digits, s.drop digits.length)

/-- The point of a number and the digits behind it, if there is a point. -/
def scanFraction : List Char → Option (List Char × List Char)
  | '.' :: rest => (scanDigits rest).map fun (digits, after) => ('.' :: digits, after)
  | rest => some ([], rest)

/-- The sign of an exponent, if there is one. -/
def scanSign : List Char → List Char × List Char
  | '+' :: rest => (['+'], rest)
  | '-' :: rest => (['-'], rest)
  | rest => ([], rest)

/-- The exponent of a number, if there is one. -/
def scanExponent : List Char → Option (List Char × List Char)
  | [] => some ([], [])
  | c :: rest =>
    if c == 'e' || c == 'E' then
      let (sign, rest) := scanSign rest
      (scanDigits rest).map fun (digits, after) => (c :: sign ++ digits, after)
    else some ([], c :: rest)

/-- A number without its sign, as it is spelled, and the text behind it. -/
def scanNumber (s : List Char) : Option (List Char × List Char) := do
  let (whole, s) ← scanWhole s
  let (fraction, s) ← scanFraction s
  let (exponent, s) ← scanExponent s
  pure (whole ++ fraction ++ exponent, s)

/-- The token that starts with a character, and the text behind it. -/
def scan (c : Char) (rest : List Char) : Option (JsonToken × List Char) :=
  match c with
  | '{' => some (openBrace, rest)
  | '}' => some (closeBrace, rest)
  | '[' => some (openBracket, rest)
  | ']' => some (closeBracket, rest)
  | ',' => some (comma, rest)
  | ':' => some (colon, rest)
  | '"' => (scanString rest).map fun (units, after) =>
    (string ((decodeUnits units).map String.ofList), after)
  | '-' => (scanNumber rest).map fun (literal, after) =>
    (number (String.ofList ('-' :: literal)), after)
  | 'n' => if rest.take 3 = ['u', 'l', 'l'] then some (null, rest.drop 3) else none
  | 't' => if rest.take 3 = ['r', 'u', 'e'] then some (boolean true, rest.drop 3) else none
  | 'f' =>
    if rest.take 4 = ['a', 'l', 's', 'e'] then some (boolean false, rest.drop 4) else none
  | c => (scanNumber (c :: rest)).map fun (literal, after) =>
    (number (String.ofList literal), after)

theorem scanString_suffix {s : List Char} {units : List Nat} {after : List Char}
    (h : scanString s = some (units, after)) : after <:+ s := by
  fun_induction scanString s generalizing units with
  | case1 => simp at h
  | case2 rest =>
    obtain ⟨rfl, rfl⟩ := Prod.mk.inj (Option.some.inj h)
    exact List.suffix_cons _ _
  | case3 a b c d rest _ ih =>
    obtain ⟨⟨units', after'⟩, h', e⟩ := Option.map_eq_some_iff.1 h
    obtain ⟨rfl, rfl⟩ := Prod.mk.inj e
    exact (ih h').trans ⟨['\\', 'u', a, b, c, d], rfl⟩
  | case4 => simp at h
  | case5 e rest _ x _ ih =>
    obtain ⟨⟨units', after'⟩, h', e'⟩ := Option.map_eq_some_iff.1 h
    obtain ⟨rfl, rfl⟩ := Prod.mk.inj e'
    exact (ih h').trans ⟨['\\', e], rfl⟩
  | case6 => simp at h
  | case7 => simp at h
  | case8 c rest _ _ _ _ ih =>
    obtain ⟨⟨units', after'⟩, h', e⟩ := Option.map_eq_some_iff.1 h
    obtain ⟨rfl, rfl⟩ := Prod.mk.inj e
    exact (ih h').trans (List.suffix_cons _ _)

theorem scanWhole_length {s digits after : List Char} (h : scanWhole s = some (digits, after)) :
    after.length < s.length := by
  unfold scanWhole at h
  have hle := (List.takeWhile_prefix Char.isDigit (l := s)).length_le
  split at h
  · simp at h
  · next e =>
    obtain ⟨rfl, rfl⟩ := Prod.mk.inj (Option.some.inj h)
    rw [e] at hle
    simp only [List.length_cons, List.length_nil, List.length_drop] at hle ⊢
    omega
  · simp at h
  · next ds hne _ _ =>
    obtain ⟨rfl, rfl⟩ := Prod.mk.inj (Option.some.inj h)
    have hpos : 0 < (s.takeWhile Char.isDigit).length := List.length_pos_iff.2 hne
    simp only [List.length_drop] at hle ⊢
    omega

theorem scanDigits_suffix {s digits after : List Char} (h : scanDigits s = some (digits, after)) :
    after <:+ s := by
  unfold scanDigits at h
  split at h
  · simp at h
  · obtain ⟨rfl, rfl⟩ := Prod.mk.inj (Option.some.inj h)
    exact List.drop_suffix _ _

theorem scanFraction_suffix {s fraction after : List Char}
    (h : scanFraction s = some (fraction, after)) : after <:+ s := by
  unfold scanFraction at h
  split at h
  · obtain ⟨⟨digits, after'⟩, h', e⟩ := Option.map_eq_some_iff.1 h
    obtain ⟨rfl, rfl⟩ := Prod.mk.inj e
    exact (scanDigits_suffix h').trans (List.suffix_cons _ _)
  · obtain ⟨rfl, rfl⟩ := Prod.mk.inj (Option.some.inj h)
    exact List.suffix_refl _

theorem scanSign_suffix (s : List Char) : (scanSign s).2 <:+ s := by
  unfold scanSign
  split
  · exact List.suffix_cons _ _
  · exact List.suffix_cons _ _
  · exact List.suffix_refl _

theorem scanExponent_suffix {s exponent after : List Char}
    (h : scanExponent s = some (exponent, after)) : after <:+ s := by
  unfold scanExponent at h
  split at h
  · obtain ⟨rfl, rfl⟩ := Prod.mk.inj (Option.some.inj h)
    exact List.suffix_refl _
  · split at h
    · obtain ⟨⟨digits, after'⟩, h', e⟩ := Option.map_eq_some_iff.1 h
      obtain ⟨rfl, rfl⟩ := Prod.mk.inj e
      exact ((scanDigits_suffix h').trans (scanSign_suffix _)).trans (List.suffix_cons _ _)
    · obtain ⟨rfl, rfl⟩ := Prod.mk.inj (Option.some.inj h)
      exact List.suffix_refl _

theorem scanNumber_length {s literal after : List Char}
    (h : scanNumber s = some (literal, after)) : after.length < s.length := by
  simp only [scanNumber, Option.bind_eq_bind, Option.pure_def, Option.bind_eq_some_iff] at h
  obtain ⟨⟨whole, s₁⟩, h₁, ⟨fraction, s₂⟩, h₂, ⟨exponent, s₃⟩, h₃, e⟩ := h
  obtain ⟨-, rfl⟩ := Prod.mk.inj (Option.some.inj e)
  dsimp only at h₂ h₃ ⊢
  have := scanWhole_length h₁
  have := (scanFraction_suffix h₂).length_le
  have := (scanExponent_suffix h₃).length_le
  omega

/-- A token takes at least its first character. -/
theorem scan_length {c : Char} {rest : List Char} {t : JsonToken} {after : List Char}
    (h : scan c rest = some (t, after)) : after.length ≤ rest.length := by
  unfold scan at h
  split at h
  iterate 6
    obtain ⟨-, rfl⟩ := Prod.mk.inj (Option.some.inj h)
    exact Nat.le_refl _
  · obtain ⟨⟨units, after'⟩, h', e⟩ := Option.map_eq_some_iff.1 h
    obtain ⟨-, rfl⟩ := Prod.mk.inj e
    exact (scanString_suffix h').length_le
  · obtain ⟨⟨literal, after'⟩, h', e⟩ := Option.map_eq_some_iff.1 h
    obtain ⟨-, rfl⟩ := Prod.mk.inj e
    exact Nat.le_of_lt (scanNumber_length h')
  iterate 3
    split at h
    · obtain ⟨-, rfl⟩ := Prod.mk.inj (Option.some.inj h)
      exact (List.drop_suffix _ _).length_le
    · simp at h
  · obtain ⟨⟨literal, after'⟩, h', e⟩ := Option.map_eq_some_iff.1 h
    obtain ⟨-, rfl⟩ := Prod.mk.inj e
    exact Nat.le_of_lt_succ (scanNumber_length h')

/-- The tokens of a text. -/
def tokenize : List Char → Option (List JsonToken)
  | [] => some []
  | c :: rest =>
    if isBlank c then tokenize rest
    else
      match _h : scan c rest with
      | some (t, after) => (tokenize after).map (t :: ·)
      | none => none
termination_by s => s.length
decreasing_by
  · exact Nat.lt_succ_self _
  · exact Nat.lt_succ_of_le (scan_length _h)

end JsonToken

end Phrasebook
