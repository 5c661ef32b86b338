import Phrasebook.Yaml.Token.Directive

/-!
# Phrasebook.Yaml.Token.Lexer

From a YAML text to its tokens.

1. In block context the column of a token decides: a collection ends before a token to its left.
2. A scalar, an alias or a collection in brackets may turn out to be the key of a pair when a colon
   follows on its line, no more than 1024 bytes behind its start.  The place of the token is kept
   for that, one for each level of brackets, and the tokens that open the key are put in there.
3. Where a pair must come, because the token stands in the column of a mapping, the colon must
   follow.
4. A key or an item can start only where `keyAllowed` says so: at the start of a line and behind the
   signs that open a level.
5. A byte order mark may stand at the start of every line outside scalars, and takes a column there.
-/

namespace Phrasebook.Yaml

open Text

/-- A token that may turn out to be a key: how many tokens stand before it, and where it starts. -/
structure KeyPlace where
  tokens : Nat
  /-- The bytes before it. -/
  index : Nat
  line : Nat
  column : Nat
  /-- The token stands where a key must stand. -/
  required : Bool
  deriving DecidableEq, Repr

/-- The state of the lexer: the text from a place on, that place, and what is open there. -/
structure Lexer where
  rest : List Char
  /-- The bytes before the place. -/
  index : Nat
  line : Nat
  column : Nat
  /-- The number of open brackets. -/
  flowLevel : Nat
  /-- The column of the innermost block collection, -1 if none is open. -/
  indent : Int
  /-- The columns of the block collections around it. -/
  indents : List Int
  keyAllowed : Bool
  /-- The possible keys, one for each level of brackets, the innermost first. -/
  keys : List (Option KeyPlace)
  tokens : List YamlToken
  deriving DecidableEq, Repr

namespace Lexer

/-- The state at the start of a text. -/
def ofChars (text : List Char) : Lexer :=
  ⟨text, 0, 0, 0, 0, -1, [], true, [none], []⟩

/-- Goes on by some characters. -/
def advance (x : Lexer) : Nat → Lexer
  | 0 => x
  | count + 1 =>
    match x.rest with
    | [] => x
    | c :: rest =>
      let x := if isBreak c then { x with line := x.line + 1, column := 0 }
        else { x with column := x.column + 1 }
      advance { x with rest := rest, index := x.index + c.utf8Size } count

/-- Goes on to where `rest` is the text. -/
def advanceTo (x : Lexer) (rest : List Char) : Lexer := x.advance (x.rest.length - rest.length)

/-- Adds a token at the end. -/
def push (x : Lexer) (t : YamlToken) : Lexer := { x with tokens := x.tokens ++ [t] }

/-- Puts a token in behind the first `count` ones. -/
def insert (x : Lexer) (count : Nat) (t : YamlToken) : Lexer :=
  { x with tokens := x.tokens.take count ++ t :: x.tokens.drop count }

/-- Whether a possible key can still be one. -/
def inReach (x : Lexer) (k : KeyPlace) : Bool := k.line == x.line && x.index ≤ k.index + 1024

/-- Forgets the possible keys that are out of reach; a required one must not be. -/
def dropStaleKeys (x : Lexer) : Option Lexer :=
  if x.keys.any fun k => k.any fun k => k.required && !x.inReach k then none
  else some { x with keys := x.keys.map fun k => k.filter x.inReach }

/-- Forgets the possible key of the innermost level; it must not be required. -/
def dropKey (x : Lexer) : Option Lexer :=
  match x.keys with
  | some k :: rest => if k.required then none else some { x with keys := none :: rest }
  | _ => some x

/-- Notes that the next token may be a key. -/
def noteKey (x : Lexer) : Option Lexer :=
  if x.keyAllowed then do
    let x ← x.dropKey
    let required := x.flowLevel == 0 && x.indent == (x.column : Int)
    some { x with
      keys := some ⟨x.tokens.length, x.index, x.line, x.column, required⟩ :: x.keys.drop 1 }
  else some x

/-- Opens a block collection at a column, if that is to the right of the open ones; its token goes
behind the first `count` ones. -/
def openBlock (x : Lexer) (column count : Nat) (t : YamlToken) : Lexer :=
  if x.flowLevel == 0 && x.indent < (column : Int) then
    { x.insert count t with indents := x.indent :: x.indents, indent := column }
  else x

/-- Closes the block collections to the right of a column; `indents` are those around the
innermost. -/
def closeBlocksFrom (column : Int) (x : Lexer) : List Int → Lexer
  | [] => { x with indents := [] }
  | outer :: indents =>
    if column < x.indent then
      closeBlocksFrom column { x.push .blockEnd with indent := outer } indents
    else { x with indents := outer :: indents }

/-- Closes the block collections to the right of a column. -/
def closeBlocks (x : Lexer) (column : Int) : Lexer :=
  if x.flowLevel == 0 then closeBlocksFrom column x x.indents else x

/-- Skips a byte order mark at the start of a line; what follows it is in the second column. -/
def skipMark (x : Lexer) : Lexer :=
  if x.column == 0 && x.rest.head? == some '\ufeff' then x.advance 1 else x

/-- Skips blanks, comments and line breaks; `fuel` bounds the number of lines. -/
def skipToToken : Nat → Lexer → Lexer
  | 0, x => x
  | fuel + 1, x =>
    let x := x.skipMark
    let tabs := 0 < x.flowLevel || !x.keyAllowed
    let rest := x.rest.dropWhile fun c => c == ' ' || (tabs && c == '\t')
    let rest := if rest.head? == some '#' then rest.dropWhile (!isBreak ·) else rest
    let x := x.advanceTo rest
    match splitBreak? rest with
    | none => x
    | some (_, rest) =>
      let x := { x.advanceTo rest with column := 0 }
      skipToToken fuel (if x.flowLevel == 0 then { x with keyAllowed := true } else x)

/-! ## Tokens by their first characters -/

/-- A sign of `count` characters. -/
def sign (x : Lexer) (count : Nat) (t : YamlToken) : Lexer := (x.push t).advance count

/-- A document marker. -/
def marker (x : Lexer) (t : YamlToken) : Option Lexer := do
  let x ← (x.closeBlocks (-1)).dropKey
  some ({ x with keyAllowed := false }.sign 3 t)

/-- An opening bracket. -/
def flowStart (x : Lexer) (t : YamlToken) : Option Lexer := do
  let x ← x.noteKey
  some ({ x with
    keys := none :: x.keys, flowLevel := x.flowLevel + 1, keyAllowed := true }.sign 1 t)

/-- A closing bracket. -/
def flowEnd (x : Lexer) (t : YamlToken) : Option Lexer := do
  let x ← x.dropKey
  let x :=
    if 0 < x.flowLevel then { x with keys := x.keys.drop 1, flowLevel := x.flowLevel - 1 } else x
  some ({ x with keyAllowed := false }.sign 1 t)

/-- A comma between items. -/
def flowEntry (x : Lexer) : Option Lexer := do
  let x ← x.dropKey
  some ({ x with keyAllowed := true }.sign 1 .flowEntry)

/-- The dash before an item. -/
def blockEntry (x : Lexer) : Option Lexer := do
  if x.flowLevel == 0 && !x.keyAllowed then none
  else
    let x ← (x.openBlock x.column x.tokens.length .blockSequenceStart).dropKey
    some ({ x with keyAllowed := true }.sign 1 .blockEntry)

/-- The question mark before a key. -/
def keySign (x : Lexer) : Option Lexer := do
  if x.flowLevel == 0 && !x.keyAllowed then none
  else
    let x ← (x.openBlock x.column x.tokens.length .blockMappingStart).dropKey
    some ({ x with keyAllowed := x.flowLevel == 0 }.sign 1 .key)

/-- The colon before a value. -/
def valueSign (x : Lexer) : Option Lexer :=
  match x.keys with
  | some k :: outer =>
    let x := (x.insert k.tokens .key).openBlock k.column k.tokens .blockMappingStart
    some ({ x with keys := none :: outer, keyAllowed := false }.sign 1 .value)
  | _ =>
    if x.flowLevel == 0 && !x.keyAllowed then none
    else
      let x := x.openBlock x.column x.tokens.length .blockMappingStart
      some ({ x with keyAllowed := x.flowLevel == 0 }.sign 1 .value)

/-- The name of an anchor or an alias. -/
def anchorName (x : Lexer) (make : String → YamlToken) : Option Lexer := do
  let x ← x.noteKey
  let name := (x.rest.drop 1).takeWhile isNameChar
  let rest := (x.rest.drop 1).dropWhile isNameChar
  if name.isEmpty then none
  else if startsSpacing rest ||
      rest.head?.any ['?', ':', ',', ']', '}', '%', '@', '\x60'].contains then
    some ({ x with keyAllowed := false }.push (make (String.ofList name)) |>.advanceTo rest)
  else none

/-- A tag. -/
def tag (x : Lexer) : Option Lexer := do
  let x ← x.noteKey
  let scan ← scanTag (x.rest.drop 1)
  if startsSpacing scan.rest || (0 < x.flowLevel && scan.rest.head? == some ',') then
    some ({ x with keyAllowed := false }.push (.tag scan.handle scan.suffix) |>.advanceTo scan.rest)
  else none

/-- A block scalar. -/
def blockScalar (x : Lexer) (literal : Bool) : Option Lexer := do
  let x ← x.dropKey
  let scan ← scanBlock literal x.indent (x.rest.drop 1)
  let form := if literal then .literal else .other
  some ({ x with keyAllowed := true }.push (.scalar form (String.ofList scan.text))
    |>.advanceTo scan.rest)

/-- A quoted scalar. -/
def quotedScalar (x : Lexer) (double : Bool) : Option Lexer := do
  let x ← x.noteKey
  let scan ← scanQuotedFrom double 0 (x.column + 1) .closed [] (x.rest.drop 1)
  some ({ x with keyAllowed := false }.push (.scalar .other (String.ofList scan.text))
    |>.advanceTo scan.rest)

/-- A plain scalar. -/
def plainScalar (x : Lexer) : Option Lexer := do
  let x ← x.noteKey
  let scan ← scanPlainFrom (0 < x.flowLevel) (x.indent + 1).toNat x.column .closed [] x.rest
  some ({ x with keyAllowed := scan.lineEnded }.push (.scalar .plain (String.ofList scan.text))
    |>.advanceTo scan.rest)

/-- A directive. -/
def directive (x : Lexer) : Option Lexer := do
  let x ← (x.closeBlocks (-1)).dropKey
  let (t, rest) ← scanDirective (x.rest.drop 1)
  some ({ x with keyAllowed := false }.push t |>.advanceTo rest)

/-- Whether a plain scalar may start with `c` before `rest`. -/
def startsPlain (flow : Bool) (c : Char) (rest : List Char) : Bool :=
  let sign := startsSpacing [c] || indicators.contains c || c == '-' || c == '?' || c == ':'
  !sign || (c == '-' && !rest.head?.any isBlankChar)
    || (!flow && (c == '?' || c == ':') && !startsSpacing rest)

/-- The token that starts with `c` before `rest`. -/
def token (x : Lexer) (c : Char) (rest : List Char) : Option Lexer :=
  let flow := 0 < x.flowLevel
  if x.column == 0 && c == '%' then x.directive
  else if x.column == 0 && c == '-' && startsMarker (c :: rest) then x.marker .documentStart
  else if x.column == 0 && c == '.' && startsMarker (c :: rest) then x.marker .documentEnd
  else if c == '[' then x.flowStart .flowSequenceStart
  else if c == '{' then x.flowStart .flowMappingStart
  else if c == ']' then x.flowEnd .flowSequenceEnd
  else if c == '}' then x.flowEnd .flowMappingEnd
  else if c == ',' then x.flowEntry
  else if c == '-' && startsSpacing rest then x.blockEntry
  else if c == '?' && (flow || startsSpacing rest) then x.keySign
  else if c == ':' && (flow || startsSpacing rest) then x.valueSign
  else if c == '*' then x.anchorName .alias
  else if c == '&' then x.anchorName .anchor
  else if c == '!' then x.tag
  else if c == '|' && !flow then x.blockScalar true
  else if c == '>' && !flow then x.blockScalar false
  else if c == '\'' then x.quotedScalar false
  else if c == '"' then x.quotedScalar true
  else if startsPlain flow c rest then x.plainScalar
  else none

/-- The state behind the end of the text. -/
def finish (x : Lexer) : Option Lexer :=
  let x := if x.column == 0 then x else { x with column := 0, line := x.line + 1 }
  (x.closeBlocks (-1)).dropKey

/-- Reads the tokens up to the end of the text; `fuel` bounds their number. -/
def run : Nat → Lexer → Option Lexer
  | 0, _ => none
  | fuel + 1, x => do
    let x ← (skipToToken (x.rest.length + 1) x).dropStaleKeys
    let x := x.closeBlocks x.column
    match x.rest with
    | [] => x.finish
    | c :: rest => do
      let x ← x.token c rest
      run fuel x

end Lexer

/-- Whether a character may stand in a YAML text. -/
def isAllowed (c : Char) : Bool :=
  c == '\t' || c == '\r' || c == '\u0085' || c == '\ufeff' || isPrintable c

/-- The tokens of a YAML text. -/
def tokenize (text : List Char) : Option (List YamlToken) :=
  if text.all isAllowed then
    ((Lexer.ofChars text).run (text.length + 1)).map (·.tokens)
  else none

end Phrasebook.Yaml
