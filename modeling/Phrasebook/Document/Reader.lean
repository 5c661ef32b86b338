import Phrasebook.Document
import Phrasebook.Document.Fault
import Phrasebook.Token.Lexer

/-!
# Phrasebook.Document.Reader

From tokens to a document.

```text
document ::= object endOfText
object   ::= "{" [ member { "," member } [ "," ] ] "}"
member   ::= ( string | identifier ) ":" value
array    ::= "[" [ value { "," value } [ "," ] ] "]"
value    ::= object | array | string | number | boolean | null
```

1. The reader goes from token to token.  Its `Place` says what may come next and holds the
   containers that are open, the innermost first, each with what has been read of it.
2. The first token that cannot come next ends the reading with a `Fault`.
3. A `Reader` can be asked again.  It goes on at the token where it stopped, and a failed reading
   leaves its open containers counted, so that later ones may nest less deep.
-/

namespace Phrasebook

/-- A container that is open while a value inside it is read. -/
inductive Container where
  /-- An object that starts at `start`, its members so far, and the name of the value being read. -/
  | object (start : Nat) (members : List Property) (name : String) (nameSpan : Span)
  /-- An array that starts at `start`, and its elements so far. -/
  | array (start : Nat) (elements : List Node)

/-- A place between two tokens of a document: what has been read, and so what may come next. -/
inductive Place where
  /-- Nothing has been read. -/
  | document
  /-- In an object, a name or the closing brace comes next. -/
  | name (start : Nat) (members : List Property) (outer : List Container)
  /-- In an object, the colon behind a name comes next. -/
  | colon (start : Nat) (members : List Property) (name : String) (nameSpan : Span)
    (outer : List Container)
  /-- A value comes next; in an array the closing bracket may come instead. -/
  | value (open_ : List Container)
  /-- In an object, a comma or the closing brace comes next. -/
  | memberEnd (start : Nat) (members : List Property) (outer : List Container)
  /-- In an array, a comma or the closing bracket comes next. -/
  | elementEnd (start : Nat) (elements : List Node) (outer : List Container)
  /-- The root object is closed. -/
  | finished (root : Node)

/-- Where a token leads. -/
inductive Step where
  | next (place : Place)
  | done (root : Node)
  | unexpected
  | tooDeep

namespace Place

/-- What may come next, as a fault names it. -/
def expectation : Place → Expectation
  | document => .document
  | name _ _ _ => .name
  | colon _ _ _ _ _ => .colon
  | value _ => .value
  | memberEnd _ _ _ => .memberEnd
  | elementEnd _ _ _ => .elementEnd
  | finished _ => .endOfText

/-- The number of open containers. -/
def depth : Place → Nat
  | document => 0
  | name _ _ outer | colon _ _ _ _ outer | memberEnd _ _ outer | elementEnd _ _ outer =>
    outer.length + 1
  | value open_ => open_.length
  | finished _ => 0

/-- The member that a value completes, behind the members before it. -/
def property (members : List Property) (label : String) (labelSpan : Span)
    (value : Node) : Property :=
  ⟨label, labelSpan, value, members.any (·.name == label)⟩

/-- The place behind a value that stands inside the open containers. -/
def afterValue (value : Node) : List Container → Place
  | [] => finished value
  | .object start members label labelSpan :: outer =>
    memberEnd start (members ++ [property members label labelSpan value]) outer
  | .array start elements :: outer => elementEnd start (elements ++ [value]) outer

/-- The step over an opening brace or bracket, where at most `room` containers may be open at
once. -/
def enter (room : Nat) (open_ : List Container) (inside : Place) : Step :=
  if room < open_.length + 1 then .tooDeep else .next inside

/-- The step over a token where an object starts or a value inside one of the open containers. -/
def stepValue (room : Nat) (open_ : List Container) (t : Token) : Step :=
  match t.kind with
  | .openBrace => enter room open_ (name t.span.offset [] open_)
  | .openBracket => enter room open_ (value (.array t.span.offset [] :: open_))
  | .string s => .next (afterValue (.string t.span s) open_)
  | .number x => .next (afterValue (.number t.span x) open_)
  | .boolean b => .next (afterValue (.boolean t.span b) open_)
  | .null => .next (afterValue (.null t.span) open_)
  | .closeBracket =>
    match open_ with
    | .array start elements :: outer =>
      .next (afterValue (.array (.between start t.span.stop) elements) outer)
    | _ => .unexpected
  | _ => .unexpected

/-- The step over a token. -/
def step (room : Nat) (t : Token) : Place → Step
  | document =>
    match t.kind with
    | .openBrace => enter room [] (name t.span.offset [] [])
    | _ => .unexpected
  | name start members outer =>
    match t.kind with
    | .closeBrace => .next (afterValue (.object (.between start t.span.stop) members) outer)
    | .string s => .next (colon start members s t.span outer)
    | .identifier s => .next (colon start members s t.span outer)
    | _ => .unexpected
  | colon start members s nameSpan outer =>
    match t.kind with
    | .colon => .next (value (.object start members s nameSpan :: outer))
    | _ => .unexpected
  | value open_ => stepValue room open_ t
  | memberEnd start members outer =>
    match t.kind with
    | .comma => .next (name start members outer)
    | .closeBrace => .next (afterValue (.object (.between start t.span.stop) members) outer)
    | _ => .unexpected
  | elementEnd start elements outer =>
    match t.kind with
    | .comma => .next (value (.array start elements :: outer))
    | .closeBracket => .next (afterValue (.array (.between start t.span.stop) elements) outer)
    | _ => .unexpected
  | finished root =>
    match t.kind with
    | .endOfText => .done root
    | _ => .unexpected

end Place

/-- How a reading went: its result, how many tokens it passed, and how many levels count as open
after it. -/
structure Reading where
  result : Except Fault Node
  passed : Nat
  depth : Nat

/-- The reading of `tokens` from a place, where `base` levels count as open beside the containers of
the place and leave that much less room, and `size` is the size of the text. -/
def Place.read (base size : Nat) (place : Place) : List Token → Reading
  | [] => ⟨.error (.unexpectedEnd ⟨size, 0⟩ .moreInput), 0, base + place.depth⟩
  | t :: rest =>
    match place.step (maxDepth - base) t with
    | .next place =>
      let reading := place.read base size rest
      { reading with passed := reading.passed + 1 }
    | .done root => ⟨.ok root, 1, base⟩
    | .unexpected => ⟨.error (t.fault place.expectation), 0, base + place.depth⟩
    | .tooDeep => ⟨.error (.nestingTooDeep t.span), 0, base + place.depth + 1⟩

/-- A reader of documents: the tokens of a text that are not trivia, how many of them have been
passed, and how many levels count as open. -/
structure Reader where
  tokens : List Token
  size : Nat
  position : Nat
  depth : Nat

namespace Reader

/-- The reader at the start of a text. -/
def ofString (text : String) : Reader :=
  ⟨(tokenize text).filter (!·.isTrivia), Text.byteSize text.toList, 0, 0⟩

/-- Reads a document from where the reader stands. -/
def read (r : Reader) : Except Fault Node × Reader :=
  let reading := Place.document.read r.depth r.size (r.tokens.drop r.position)
  (reading.result, { r with position := r.position + reading.passed, depth := reading.depth })

/-- The results of reading `count` documents, one after the other. -/
def readMany : Nat → Reader → List (Except Fault Node)
  | 0, _ => []
  | count + 1, r => r.read.1 :: readMany count r.read.2

end Reader

/-- Reads the document that a text holds. -/
def readDocument (text : String) : Except Fault Node := (Reader.ofString text).read.1

end Phrasebook
