import Phrasebook.Text.Hex
import Phrasebook.Text.Surrogate
import Phrasebook.Yaml.Scalar

/-!
# Phrasebook.Yaml.Token.Scalar

Reading the scalars of YAML: plain, quoted, and as blocks.

1. In plain and quoted scalars a single line break between two lines stands for a space; of several
   breaks the first is dropped and the others are kept.  Blanks around the breaks are dropped.
2. A plain scalar ends before a comment, before a colon in front of a blank, in brackets before a
   comma or bracket, and in block context before a line that is not indented enough.
3. A quoted scalar must be closed before a document marker at the start of a line.
4. A block scalar has the lines that are indented at least as much as its first one.
-/

namespace Phrasebook.Yaml

open Text

/-- Whether a character is a blank within a line. -/
def isBlankChar (c : Char) : Bool := c == ' ' || c == '\t'

/-- Whether a text starts with a blank or a line break, or is empty. -/
def startsSpacing (s : List Char) : Bool :=
  match s with
  | [] => true
  | c :: _ => isBlankChar c || isBreak c

/-- Whether a text starts with a line break or is empty. -/
def startsBreak (s : List Char) : Bool :=
  match s with
  | [] => true
  | c :: _ => isBreak c

/-- Whether a text starts with a document marker. -/
def startsMarker (s : List Char) : Bool := startsWithMarker s && startsSpacing (s.drop 3)

/-- What a line break counts as in a scalar: only the two Unicode separators stay as they are. -/
def normalBreak (c : Char) : Char := if c == '\u2028' || c == '\u2029' then c else '\n'

/-- The blanks between two parts of a scalar. -/
inductive Gap where
  /-- No blank. -/
  | closed
  /-- Blanks within a line. -/
  | blanks (text : List Char)
  /-- Line breaks, the first of them and the others; there is no first one behind an escaped
  break. -/
  | lines (first others : List Char)
  deriving DecidableEq, Repr

namespace Gap

/-- A gap with one more blank. -/
def addBlank (c : Char) : Gap → Gap
  | closed => blanks [c]
  | blanks text => blanks (text ++ [c])
  | lines first others => lines first others

/-- A gap with one more line break. -/
def addBreak (c : Char) : Gap → Gap
  | lines first others => lines first (others ++ [normalBreak c])
  | _ => lines [normalBreak c] []

/-- What a gap stands for. -/
def text : Gap → List Char
  | closed => []
  | blanks text => text
  | lines first others =>
    if first == ['\n'] then (if others.isEmpty then [' '] else others) else first ++ others

/-- Whether a gap holds a line break. -/
def isLines : Gap → Bool
  | lines _ _ => true
  | _ => false

end Gap

/-- The line break at the start of a text, and the text behind it. -/
def splitBreak? : List Char → Option (Char × List Char)
  | '\r' :: '\n' :: rest => some ('\n', rest)
  | c :: rest => if isBreak c then some (c, rest) else none
  | [] => none

/-! ## Plain scalars -/

/-- A scalar that has been read. -/
structure ScalarScan where
  text : List Char
  rest : List Char
  /-- Line breaks stand behind the scalar. -/
  lineEnded : Bool
  deriving DecidableEq, Repr

/-- Whether a plain scalar ends before the characters given. -/
def plainStops (flow : Bool) (c : Char) (rest : List Char) : Bool :=
  (c == ':' && startsSpacing rest) || (flow && [',', '[', ']', '{', '}'].contains c)

/-- Whether a colon in brackets stands where none can. -/
def misplacedColon (flow : Bool) (c : Char) (rest : List Char) : Bool :=
  flow && c == ':' && rest.head?.any [',', '?', '[', ']', '{', '}'].contains

/-- A plain scalar.  `indent` is the least indentation of its lines, `column` the column at hand,
`gap` the blanks since the last character of `text`. -/
def scanPlainFrom (flow : Bool) (indent column : Nat) (gap : Gap) (text : List Char) :
    List Char → Option ScalarScan
  | [] => some ⟨text, [], gap.isLines⟩
  | c :: rest =>
    let stopped : Option ScalarScan := some ⟨text, c :: rest, gap.isLines⟩
    if isBreak c then
      if c == '\r' && rest.head? == some '\n' then scanPlainFrom flow indent column gap text rest
      else scanPlainFrom flow indent 0 (gap.addBreak c) text rest
    else if isBlankChar c then
      if gap.isLines && column < indent && c == '\t' then none
      else scanPlainFrom flow indent (column + 1) (gap.addBlank c) text rest
    else if gap ≠ .closed && ((!flow && column < indent) || c == '#') then stopped
    else if column == 0 && startsMarker (c :: rest) then stopped
    else if misplacedColon flow c rest then none
    else if plainStops flow c rest then stopped
    else scanPlainFrom flow indent (column + 1) .closed (text ++ gap.text ++ [c]) rest

/-! ## Quoted scalars -/

/-- The character that a short escape between double quotes stands for. -/
def unescape? : Char → Option Char
  | '0' => some '\x00'
  | 'a' => some '\x07'
  | 'b' => some '\x08'
  | 't' => some '\t'
  | '\t' => some '\t'
  | 'n' => some '\n'
  | 'v' => some '\x0b'
  | 'f' => some '\x0c'
  | 'r' => some '\r'
  | 'e' => some '\x1b'
  | ' ' => some ' '
  | '"' => some '"'
  | '/' => some '/'
  | '\\' => some '\\'
  | 'N' => some '\u0085'
  | '_' => some '\u00a0'
  | 'L' => some '\u2028'
  | 'P' => some '\u2029'
  | _ => none

/-- The number of hexadecimal digits behind the letter of an escape. -/
def escapeDigits? : Char → Option Nat
  | 'x' => some 2
  | 'u' => some 4
  | 'U' => some 8
  | _ => none

/-- The character of an escape from its letter on, and how many characters the escape has from
there. -/
def scanEscape? (letter : Char) (rest : List Char) : Option (Char × Nat) :=
  match unescape? letter with
  | some c => some (c, 1)
  | none => do
    let count ← escapeDigits? letter
    let digits := rest.take count
    let n := hexValue digits
    if digits.length == count && digits.all isHexDigit && n.isValidChar then
      some (Char.ofNat n, count + 1)
    else none

/-- A quoted scalar, from behind its opening quote.  `skip` characters belong to an escape that has
been read already. -/
def scanQuotedFrom (double : Bool) (skip column : Nat) (gap : Gap) (text : List Char) :
    List Char → Option ScalarScan
  | [] => none
  | c :: rest =>
    if 0 < skip then scanQuotedFrom double (skip - 1) column gap text rest
    else if isBreak c then
      if c == '\r' && rest.head? == some '\n' then scanQuotedFrom double 0 column gap text rest
      else scanQuotedFrom double 0 0 (gap.addBreak c) text rest
    else if isBlankChar c then scanQuotedFrom double 0 (column + 1) (gap.addBlank c) text rest
    else if column == 0 && startsMarker (c :: rest) then none
    else
      let text := text ++ gap.text
      if double then
        if c == '"' then some ⟨text, rest, false⟩
        else if c == '\\' then
          match rest with
          | [] => none
          | e :: after =>
            if isBreak e then
              scanQuotedFrom double (if e == '\r' && after.head? == some '\n' then 2 else 1) 0
                (.lines [] []) text rest
            else
              match scanEscape? e after with
              | some (x, count) =>
                scanQuotedFrom double count (column + 1) .closed (text ++ [x]) rest
              | none => none
        else scanQuotedFrom double 0 (column + 1) .closed (text ++ [c]) rest
      else if c == '\'' then
        if rest.head? == some '\'' then
          scanQuotedFrom double 1 (column + 1) .closed (text ++ [c]) rest
        else some ⟨text, rest, false⟩
      else scanQuotedFrom double 0 (column + 1) .closed (text ++ [c]) rest

/-! ## Block scalars -/

/-- A line with its line break as it stands in the text. -/
structure PhysicalLine where
  text : List Char
  ending : List Char
  deriving DecidableEq, Repr

/-- The lines of a text; `text` has been read of the next one. -/
def physicalLines (text : List Char) : List Char → List PhysicalLine
  | [] => if text.isEmpty then [] else [⟨text, []⟩]
  | '\r' :: '\n' :: rest => ⟨text, ['\r', '\n']⟩ :: physicalLines [] rest
  | c :: rest =>
    if isBreak c then ⟨text, [c]⟩ :: physicalLines [] rest else physicalLines (text ++ [c]) rest

/-- What the line break of a line counts as. -/
def PhysicalLine.lineBreak (l : PhysicalLine) : List Char :=
  (l.ending.drop (l.ending.length - 1)).map normalBreak

/-- The number of spaces at the start of a line. -/
def PhysicalLine.depth (l : PhysicalLine) : Nat := (l.text.takeWhile isSpace).length

/-- What becomes of the line breaks at the end of a block scalar. -/
inductive Chomping where
  | strip
  | clip
  | keep
  deriving DecidableEq, Repr

/-- The header of a block scalar: what becomes of the breaks at its end, and its indentation if
given. -/
structure BlockHeader where
  chomping : Chomping
  increment : Option Nat
  deriving DecidableEq, Repr

/-- The sign for the breaks at the end, if there is one. -/
def chompingSign? : List Char → Option (Chomping × List Char)
  | '-' :: rest => some (.strip, rest)
  | '+' :: rest => some (.keep, rest)
  | _ => none

/-- The digit for the indentation, if there is one. -/
def incrementDigit? : List Char → Option (Nat × List Char)
  | c :: rest => if c.isDigit then some (c.toNat - '0'.toNat, rest) else none
  | [] => none

/-- A header without what follows on its line: the sign and the digit in either order. -/
def splitHeader (s : List Char) : BlockHeader × List Char :=
  match chompingSign? s with
  | some (chomping, s) =>
    match incrementDigit? s with
    | some (n, s) => (⟨chomping, some n⟩, s)
    | none => (⟨chomping, none⟩, s)
  | none =>
    match incrementDigit? s with
    | some (n, s) =>
      match chompingSign? s with
      | some (chomping, s) => (⟨chomping, some n⟩, s)
      | none => (⟨.clip, some n⟩, s)
    | none => (⟨.clip, none⟩, s)

/-- A header and the text behind its line; only blanks and a comment may follow it there. -/
def scanHeader (s : List Char) : Option (BlockHeader × List Char) :=
  let (header, s) := splitHeader s
  let s := s.dropWhile isBlankChar
  let s := if s.head? == some '#' then s.dropWhile (!isBreak ·) else s
  if header.increment == some 0 then none
  else if s.isEmpty then some (header, [])
  else (splitBreak? s).map fun (_, rest) => (header, rest)

/-- The indentation of a block scalar without a digit in its header: the deepest of its empty lines
and of its first other line, but at least `least`. -/
def foundIndent (least : Nat) : List PhysicalLine → Option Nat
  | [] => some least
  | l :: rest =>
    let least := max least l.depth
    let body := l.text.drop l.depth
    if body.head? == some '\t' then none
    else if body.isEmpty then foundIndent least rest
    else some least

/-- The text of a block scalar so far: `last` is the break behind its last line, `more` are those of
the empty lines since, and `deep` says that the last line starts with a blank. -/
structure BlockText where
  text : List Char
  last : List Char
  more : List Char
  deep : Bool
  deriving DecidableEq, Repr

/-- The text with one more line. -/
def BlockText.add (literal : Bool) (b : BlockText) (body lineBreak : List Char) : BlockText :=
  let deep := body.head?.any isBlankChar
  let folds := !literal && b.last == ['\n'] && !b.deep && !deep
  let joint := if folds then (if b.more.isEmpty then [' '] else []) else b.last
  ⟨b.text ++ joint ++ b.more ++ body, lineBreak, [], deep⟩

/-- The text of a block scalar, and the lines behind it. -/
def blockLines (literal : Bool) (indent : Nat) (b : BlockText) :
    List PhysicalLine → Option (BlockText × List PhysicalLine)
  | [] => some (b, [])
  | l :: rest =>
    let depth := min l.depth indent
    let body := l.text.drop depth
    if depth < indent && body.head? == some '\t' then none
    else if body.isEmpty then
      blockLines literal indent { b with more := b.more ++ l.lineBreak } rest
    else if depth == indent then blockLines literal indent (b.add literal body l.lineBreak) rest
    else some (b, l :: rest)

/-- A block scalar from behind its sign, inside a collection that is indented by `outer`. -/
def scanBlock (literal : Bool) (outer : Int) (s : List Char) : Option ScalarScan := do
  let (header, s) ← scanHeader s
  let lines := physicalLines [] s
  let indent ← match header.increment with
    | some n => some (outer.toNat + n)
    | none => foundIndent (max (outer + 1).toNat 1) lines
  let (b, after) ← blockLines literal indent ⟨[], [], [], false⟩ lines
  let text := match header.chomping with
    | .strip => b.text
    | .clip => b.text ++ b.last
    | .keep => b.text ++ b.last ++ b.more
  pure ⟨text, after.flatMap fun l => l.text ++ l.ending, true⟩

end Phrasebook.Yaml
