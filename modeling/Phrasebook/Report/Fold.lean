import Phrasebook.Text.Escape
import Phrasebook.Text.LineBreak
import Phrasebook.Text.Numeral
import Phrasebook.Text.Width.Unicode17

/-!
# Phrasebook.Report.Fold

Folding a message into lines of limited width.

1. Words end where a line may be broken, with the spaces behind them, but not behind a hyphen;
   within a word, a hyphen between letters or numerals ends a part.
2. A part wider than a line is broken where the line is full.
3. A line takes as many parts as fit; spaces at its end are dropped.
4. Escape sequences take no columns and end no words.
-/

namespace Phrasebook.Report

open Text

/-- The columns that a text takes. -/
def textWidth (e : EscapeState) : List Char → Nat
  | [] => 0
  | c :: rest => (if e.shows c then unicode17Widths.width c else 0) + textWidth (e.next c) rest

/-! ## Words -/

/-- Whether a character is a hyphen, visible or not; a line is not broken behind it for the sake of
the rules for lines. -/
def isHyphen (c : Char) : Bool := c == '-' || c == '\xad'

/-- Without the last `true`. -/
def dropLastTrue : List Bool → List Bool
  | [] => []
  | b :: rest => if rest.contains true then b :: dropLastTrue rest else false :: rest

/-- Whether a word ends behind each of the characters of a text without escape sequences.  The end
of the text does not count; behind a hyphen it was none to start with, and the place before it is
lost instead. -/
def wordEnds (s : List Char) : List Bool :=
  dropLastTrue ((s.zip (breaksBehind s)).map fun (c, breaks) => breaks && !isHyphen c)

/-- The words of a line: `ends` says for the characters that are shown whether a word ends behind
them, and `word` has been read of the next one. -/
def wordsFrom (e : EscapeState) (ends : List Bool) (word : List Char) : List Char → List (List Char)
  | [] => if word.isEmpty then [] else [word]
  | c :: rest =>
    if e.shows c then
      if ends.head? == some true then (word ++ [c]) :: wordsFrom (e.next c) (ends.drop 1) [] rest
      else wordsFrom (e.next c) (ends.drop 1) (word ++ [c]) rest
    else wordsFrom (e.next c) ends (word ++ [c]) rest

/-- The words of a line. -/
def words (line : List Char) : List (List Char) :=
  wordsFrom .outside (wordEnds (EscapeState.outside.shown line)) [] line

/-! ## Pieces of words -/

/-- A piece of a line: what is written, and the spaces behind it. -/
structure Piece where
  text : List Char
  spaces : Nat
  deriving DecidableEq, Repr

/-- The parts of a word, which end with a hyphen between letters or numerals; `part` has been read
of the next one. -/
def hyphenParts (part : List Char) : List Char → List (List Char)
  | [] => [part]
  | c :: rest =>
    if c = '-' && part.getLast?.any isAlphanumeric && rest.head?.any isAlphanumeric then
      (part ++ [c]) :: hyphenParts [] rest
    else hyphenParts (part ++ [c]) rest

/-- The parts of a text that are no wider than a line; `part` has been read of the next one and
takes `used` columns. -/
def narrowParts (limit : Nat) (e : EscapeState) (part : List Char) (used : Nat) :
    List Char → List (List Char)
  | [] => [part]
  | c :: rest =>
    let taken := if e.shows c then unicode17Widths.width c else 0
    if e.shows c && 0 < used && limit < used + taken then
      part :: narrowParts limit (e.next c) [c] taken rest
    else narrowParts limit (e.next c) (part ++ [c]) (used + taken) rest

/-- Pieces of one word: the spaces follow the last of them. -/
def asPieces (spaces : Nat) : List (List Char) → List Piece
  | [] => []
  | [text] => [⟨text, spaces⟩]
  | text :: rest => ⟨text, 0⟩ :: asPieces spaces rest

/-- The pieces of a word that lines can be made of. -/
def wordPieces (limit : Nat) (word : List Char) : List Piece :=
  let text := (word.reverse.dropWhile (· == ' ')).reverse
  asPieces (word.length - text.length)
    ((hyphenParts [] text).flatMap (narrowParts limit .outside [] 0))

/-! ## Lines -/

/-- Lines made of pieces, as many in each as fit; `line` is the line so far, and takes `used`
columns. -/
def fillLines (limit : Nat) (line : List Piece) (used : Nat) : List Piece → List (List Piece)
  | [] => [line]
  | p :: rest =>
    let taken := textWidth .outside p.text
    if limit < used + taken && !line.isEmpty then
      line :: fillLines limit [p] (taken + p.spaces) rest
    else fillLines limit (line ++ [p]) (used + taken + p.spaces) rest

/-- The text of a line of pieces, without the spaces at its end. -/
def lineText : List Piece → List Char
  | [] => []
  | [p] => p.text
  | p :: rest => p.text ++ List.replicate p.spaces ' ' ++ lineText rest

/-- A line folded to a width. -/
def foldLine (limit : Nat) (line : List Char) : List (List Char) :=
  (fillLines limit [⟨[], 0⟩] 0 ((words line).flatMap (wordPieces limit))).map lineText

/-- The lines of a text, without their line feeds. -/
def splitLines (line : List Char) : List Char → List (List Char)
  | [] => [line]
  | c :: rest => if c = '\n' then line :: splitLines [] rest else splitLines (line ++ [c]) rest

/-- A text folded to a width. -/
def fold (limit : Nat) (s : List Char) : List (List Char) :=
  (splitLines [] s).flatMap (foldLine limit)

end Phrasebook.Report
