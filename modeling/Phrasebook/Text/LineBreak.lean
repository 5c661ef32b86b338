import Phrasebook.Text.LineClass

/-!
# Phrasebook.Text.LineBreak

The places at which a line of text may be broken, by the rules of Unicode.

The rules look at the character behind a place, and before it at what a `LineContext` keeps.

1. A mark belongs to the character before it and takes its class; with nothing to belong to it is a
   letter.
2. Behind a separator of lines there is always a break, before it and before a space never.
3. Some pairs stay together even with spaces between them, such as an opening bracket and what it
   opens.
4. Otherwise a line may be broken behind spaces, and between neighbours that have no bond.
-/

namespace Phrasebook.Text

namespace LineClass

/-- The classes that end a line wherever they stand. -/
def lineEnds : List LineClass := [.lineSeparator, .carriageReturn, .lineFeed, .nextLine]

/-- The classes of what stands between words. -/
def spacing : List LineClass := .space :: .zeroWidthSpace :: lineEnds

/-- Whether a character attaches to the one before it, if that takes marks. -/
def isMark (k : LineClass) : Bool := k == .mark || k == .zeroWidthJoiner

/-- Whether marks attach to a character. -/
def takesMarks (k : LineClass) : Bool := !spacing.contains k

/-- The class of a character with nothing to attach to: a mark counts as a letter. -/
def settled (k : LineClass) : LineClass := if k.isMark then .other else k

/-- Whether a character is a quotation mark. -/
def isQuotation (k : LineClass) : Bool := k == .quotation || k == .initialQuotation

/-- Whether a quotation mark behind a character of this class can open. -/
def leadsQuotation (k : LineClass) : Bool :=
  k.isQuotation || k == .openingBracket || k == .glue || spacing.contains k

/-- The letters of alphabets. -/
def letters : List LineClass := [.other, .hebrewLetter]

/-- The characters that are words of their own. -/
def ideographs : List LineClass := [.ideograph, .emojiBase, .emojiModifier]

/-- The syllables of Hangul and the parts that they are made of. -/
def hangul : List LineClass :=
  [.leadingJamo, .vowelJamo, .trailingJamo, .openSyllable, .closedSyllable]

/-- The signs that stand at a number. -/
def numberSigns : List LineClass := [.behindNumber, .beforeNumber]

/-- The neighbours that stay together: one of the first classes and one of the second behind it. -/
def bonds : List (List LineClass × List LineClass) := [
  ([.slash], [.hebrewLetter]),
  (letters, [.digit]),
  ([.digit], letters),
  ([.beforeNumber], ideographs),
  (ideographs, [.behindNumber]),
  (numberSigns, letters),
  (letters, numberSigns),
  ([.closingBracket, .closingParenthesis, .digit], numberSigns),
  (numberSigns, [.openingBracket, .digit]),
  ([.hyphen, .separator, .digit, .slash], [.digit]),
  ([.leadingJamo], [.leadingJamo, .vowelJamo, .openSyllable, .closedSyllable]),
  ([.vowelJamo, .openSyllable], [.vowelJamo, .trailingJamo]),
  ([.trailingJamo, .closedSyllable], [.trailingJamo]),
  (hangul, [.behindNumber]),
  ([.beforeNumber], hangul),
  (letters, letters),
  ([.separator], letters),
  (.digit :: letters, [.openingBracket]),
  ([.closingParenthesis], .digit :: letters),
  ([.emojiBase], [.emojiModifier])]

/-- Whether two neighbours stay together by their classes alone. -/
def bonded (a b : LineClass) : Bool :=
  a == .breakBefore || [.breakBehind, .hyphen, .nonstarter, .ellipsis].contains b
    || bonds.any fun bond => bond.1.contains a && bond.2.contains b

/-- Whether nothing parts two neighbours, not even that the first is a space. -/
def tied (a b : LineClass) : Bool :=
  a == .wordJoiner || b == .wordJoiner || a == .glue
    || (b == .glue && [.space, .breakBehind, .hyphen].all (· != a))
    || [.closingBracket, .closingParenthesis, .exclamation, .separator, .slash].contains b

end LineClass

/-- What the rules look at before a place in a text. -/
structure LineContext where
  /-- The class of the character before the place, or of the one that it is attached to. -/
  last : Option LineClass
  /-- The class of the last character that is no space. -/
  solid : Option LineClass
  /-- The last character that is no space is a quotation mark that opens. -/
  opening : Bool
  /-- The last character follows a Hebrew letter. -/
  afterHebrew : Bool
  /-- The regional indicators right before the place are odd in number. -/
  halfFlag : Bool
  /-- A joiner stands right before the place. -/
  joined : Bool
  deriving DecidableEq, Repr

namespace LineContext

/-- The context at the start of a text. -/
def start : LineContext := ⟨none, none, false, false, false, false⟩

/-- Whether a character attaches to the one before it. -/
def attaches (x : LineContext) (k : LineClass) : Bool := k.isMark && x.last.any LineClass.takesMarks

/-- The context behind one more character. -/
def add (x : LineContext) (k : LineClass) : LineContext :=
  if x.attaches k then { x with joined := k == .zeroWidthJoiner }
  else
    { last := some k.settled
      solid := if k == .space then x.solid else some k.settled
      opening := if k == .space then x.opening
        else k == .initialQuotation && x.last.all LineClass.leadsQuotation
      afterHebrew := x.last == some .hebrewLetter
      halfFlag := k == .regionalIndicator && !x.halfFlag
      joined := k == .zeroWidthJoiner }

/-- Whether a character stays with the last one that is no space, whatever spaces stand between
them. -/
def staysAcrossSpaces (x : LineContext) (k : LineClass) : Bool :=
  match x.solid with
  | none => false
  | some s =>
    s == .openingBracket || x.opening
      || (s.isQuotation && k == .openingBracket)
      || ([.closingBracket, .closingParenthesis].contains s && k == .nonstarter)
      || (s == .breakAround && k == .breakAround)

/-- Whether a character stays with its neighbour for the sake of what stands before that. -/
def staysInContext (x : LineContext) (a k : LineClass) : Bool :=
  (x.afterHebrew && [.hyphen, .breakBehind].contains a) || (x.halfFlag && k == .regionalIndicator)

/-- Whether a line may be broken before a character. -/
def breaksBefore (x : LineContext) (k : LineClass) : Bool :=
  match x.last with
  | none => false
  | some a =>
    if a == .carriageReturn then k != .lineFeed
    else if LineClass.lineEnds.contains a then true
    else if LineClass.spacing.contains k then false
    else if x.solid == some .zeroWidthSpace then true
    else if x.joined || x.attaches k then false
    else
      let b := k.settled
      if a.tied b || x.staysAcrossSpaces b then false
      else if a == .space then true
      else if a.isQuotation || b.isQuotation then false
      else if a == .embedded || b == .embedded then true
      else !(a.bonded b || x.staysInContext a b)

/-- Whether a line may be broken behind each of some characters; it may behind the last one. -/
def breaksBehind (x : LineContext) : List LineClass → List Bool
  | [] => []
  | k :: rest => rest.head?.all (x.add k).breaksBefore :: breaksBehind (x.add k) rest

end LineContext

/-- Whether a line may be broken behind each of the characters of a text. -/
def breaksBehind (s : List Char) : List Bool := LineContext.start.breaksBehind (s.map lineClass)

end Phrasebook.Text
