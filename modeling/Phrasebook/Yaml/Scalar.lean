import Phrasebook.Text.Bytes
import Phrasebook.Text.Hex
import Phrasebook.Yaml.Plain

/-!
# Phrasebook.Yaml.Scalar

How a text is written in block context.

1. A text is written plain if it reads back as itself: it is not read as another kind of value,
   holds no indicator where one would count, has no blank at its ends, no line break, and only
   printable characters.
2. A text with a line feed is written as a literal block if it has only printable characters, does
   not end with a space, and has no space before a line break.
3. Else it is written in single quotes, which need printable characters and no space beside a line
   break, and at last in double quotes, which can hold anything.

Line breaks are the line feed, the carriage return, the next-line character and the two Unicode
separators.  No line is ever folded.
-/

namespace Phrasebook.Yaml

open Text

/-- Whether a character ends a line. -/
def isBreak (c : Char) : Bool :=
  c == '\n' || c == '\r' || c == '\u0085' || c == '\u2028' || c == '\u2029'

/-- Whether a character may stand in a scalar as it is. -/
def isPrintable (c : Char) : Bool :=
  let n := c.toNat
  n == 0x0A || (0x20 ≤ n && n ≤ 0x7E) || (0xA0 ≤ n && n ≤ 0xFFFD && n != 0xFEFF) || 0x10000 ≤ n

/-- Whether a neighbour of a character is a blank, a line break, or missing. -/
def isSpacing : Option Char → Bool
  | none => true
  | some c => c == ' ' || c == '\t' || c == '\x00' || isBreak c

/-- Whether two neighbouring characters have the properties `p` and `q`. -/
def hasPair (p q : Char → Bool) : List Char → Bool
  | a :: b :: rest => (p a && q b) || hasPair p q (b :: rest)
  | _ => false

/-- Whether a character is the space. -/
def isSpace (c : Char) : Bool := c == ' '

/-- Characters that mean something at the start of a scalar. -/
def indicators : List Char :=
  ['#', ',', '[', ']', '{', '}', '&', '*', '!', '|', '>', '\'', '"', '%', '@', '\x60']

/-- Whether the first character, with the one behind it, means something. -/
def startsWithIndicator : List Char → Bool
  | [] => false
  | c :: rest =>
    indicators.contains c || ((c == '?' || c == ':' || c == '-') && isSpacing rest.head?)

/-- Whether a colon before a blank or a number sign behind one stands behind the first character. -/
def hasInnerIndicator : List Char → Bool
  | a :: b :: rest =>
    (b == ':' && isSpacing rest.head?) || (b == '#' && isSpacing (some a))
      || hasInnerIndicator (b :: rest)
  | _ => false

/-- Whether a text starts like a document marker. -/
def startsWithMarker (s : List Char) : Bool :=
  s.take 3 == ['-', '-', '-'] || s.take 3 == ['.', '.', '.']

/-- Whether a text can be written without quotes, as far as its characters go. -/
def plainAllowed (s : List Char) : Bool :=
  s.all isPrintable && !s.any isBreak && !s.head?.any isSpace && !s.getLast?.any isSpace
    && !startsWithMarker s && !startsWithIndicator s && !hasInnerIndicator s

/-- Whether a text can be written in single quotes. -/
def singleAllowed (s : List Char) : Bool :=
  s.all isPrintable && !hasPair isBreak isSpace s && !hasPair isSpace isBreak s

/-- Whether a text can be written as a literal block. -/
def literalAllowed (s : List Char) : Bool :=
  s.all isPrintable && !hasPair isSpace isBreak s && !s.getLast?.any isSpace

/-- A way to write a scalar. -/
inductive ScalarStyle where
  | plain
  | singleQuoted
  | doubleQuoted
  | literal
  deriving DecidableEq, Repr

/-- The way in which a text is written. -/
def styleOf (s : String) : ScalarStyle :=
  let cs := s.toList
  if cs.contains '\n' then
    if literalAllowed cs then .literal else .doubleQuoted
  else if !isResolved s && plainAllowed cs then .plain
  else if singleAllowed cs then .singleQuoted
  else .doubleQuoted

/-- The blanks that indent a line. -/
def indentation (n : Nat) : List Char := List.replicate n ' '

/-- Characters with indentation behind each line break, but not on empty lines; `fresh` says that a
break has just been written.  `escape` writes a character that is no break. -/
def indented (indent : Nat) (escape : Char → List Char) (fresh : Bool) : List Char → List Char
  | [] => []
  | c :: rest =>
    if isBreak c then c :: indented indent escape true rest
    else
      (if fresh then indentation indent else []) ++ escape c ++ indented indent escape false rest

/-- A quote is written twice between single quotes. -/
def singleQuotedChar (c : Char) : List Char := if c = '\'' then ['\'', '\''] else [c]

/-- A text in single quotes. -/
def singleQuoted (indent : Nat) (s : List Char) : List Char :=
  ('\'' :: indented indent singleQuotedChar false s)
    ++ (if s.getLast?.any isBreak then indentation indent else []) ++ ['\'']

/-- The letter of a short escape. -/
def shortEscape? (c : Char) : Option Char :=
  match c.toNat with
  | 0x00 => some '0'
  | 0x07 => some 'a'
  | 0x08 => some 'b'
  | 0x09 => some 't'
  | 0x0A => some 'n'
  | 0x0B => some 'v'
  | 0x0C => some 'f'
  | 0x0D => some 'r'
  | 0x1B => some 'e'
  | 0x22 => some '"'
  | 0x5C => some '\\'
  | 0x85 => some 'N'
  | 0xA0 => some '_'
  | 0x2028 => some 'L'
  | 0x2029 => some 'P'
  | _ => none

/-- The escape of a character between double quotes. -/
def doubleQuotedEscape (c : Char) : List Char :=
  match shortEscape? c with
  | some letter => ['\\', letter]
  | none =>
    if c.toNat ≤ 0xFF then '\\' :: 'x' :: hexPaddedUpper 2 c.toNat
    else if c.toNat ≤ 0xFFFF then '\\' :: 'u' :: hexPaddedUpper 4 c.toNat
    else '\\' :: 'U' :: hexPaddedUpper 8 c.toNat

/-- A character between double quotes. -/
def doubleQuotedChar (c : Char) : List Char :=
  if isPrintable c && !isBreak c && c != '"' && c != '\\' then [c] else doubleQuotedEscape c

/-- A text in double quotes. -/
def doubleQuoted (s : List Char) : List Char := ('"' :: s.flatMap doubleQuotedChar) ++ ['"']

/-- The hint of a literal block that its first line is indented further. -/
def indentHint (s : List Char) : List Char :=
  if s.head?.any fun c => isSpace c || isBreak c then ['2'] else []

/-- The hint of a literal block about the line breaks at its end: strip them if there is none, keep
them if there are several or nothing else. -/
def chompHint (s : List Char) : List Char :=
  match s.reverse with
  | [] => ['-']
  | c :: before =>
    if !isBreak c then ['-']
    else
      match before with
      | [] => ['+']
      | d :: _ => if isBreak d then ['+'] else []

/-- A text as a literal block. -/
def literalBlock (indent : Nat) (s : List Char) : List Char :=
  ['|'] ++ indentHint s ++ chompHint s ++ ['\n'] ++ indented indent (fun c => [c]) true s

/-- A text, where the lines behind its first are indented. -/
def writtenScalar (indent : Nat) (s : String) : List Char :=
  match styleOf s with
  | .plain => s.toList
  | .singleQuoted => singleQuoted indent s.toList
  | .doubleQuoted => doubleQuoted s.toList
  | .literal => literalBlock indent s.toList

/-- A text at the end of a line.  A literal block that ends with a line break has ended its line. -/
def scalarLine (indent : Nat) (s : String) : List Char :=
  let written := writtenScalar indent s
  if written.getLast?.any isBreak then written else written ++ ['\n']

/-- Whether a key can stand before its colon on one line. -/
def isSimpleKey (s : String) : Bool := !s.toList.any isBreak && byteSize s.toList ≤ 128

end Phrasebook.Yaml
