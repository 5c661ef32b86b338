import Phrasebook.Json
import Phrasebook.Json.Token

/-!
# Phrasebook.Json.Reader

From the tokens of strict JSON to a value.

The reader goes from token to token; its `JsonPlace` says what may come next and holds the
containers that are open, the innermost first.  Unlike the documents of this library, strict JSON
has no comma before a closing bracket, and there is no limit on nesting.
-/

namespace Phrasebook

/-- A container that is open while a value inside it is read. -/
inductive JsonContainer where
  | object (members : List (Option String × Json)) (name : Option String)
  | array (elements : List Json)

/-- A place between two tokens. -/
inductive JsonPlace where
  /-- A value comes next. -/
  | value (outer : List JsonContainer)
  /-- Behind an opening bracket, a value or the closing bracket comes next. -/
  | firstElement (outer : List JsonContainer)
  /-- Behind an opening brace, a name or the closing brace comes next. -/
  | firstName (outer : List JsonContainer)
  /-- Behind a comma of an object, a name comes next. -/
  | name (members : List (Option String × Json)) (outer : List JsonContainer)
  | colon (members : List (Option String × Json)) (name : Option String)
    (outer : List JsonContainer)
  | memberEnd (members : List (Option String × Json)) (outer : List JsonContainer)
  | elementEnd (elements : List Json) (outer : List JsonContainer)
  /-- The whole value has been read. -/
  | finished (root : Json)

namespace JsonPlace

/-- The place behind a value that stands inside the open containers. -/
def afterValue (j : Json) : List JsonContainer → JsonPlace
  | [] => finished j
  | .object members label :: outer => memberEnd (members ++ [(label, j)]) outer
  | .array elements :: outer => elementEnd (elements ++ [j]) outer

/-- The place behind a token where a value starts. -/
def stepValue (t : JsonToken) (outer : List JsonContainer) : Option JsonPlace :=
  match t with
  | .openBrace => some (firstName outer)
  | .openBracket => some (firstElement outer)
  | .null => some (afterValue .null outer)
  | .boolean b => some (afterValue (.boolean b) outer)
  | .number literal => some (afterValue (.number literal) outer)
  | .string text => some (afterValue (.string text) outer)
  | _ => none

/-- The place behind a token, if the token may come next. -/
def step (t : JsonToken) : JsonPlace → Option JsonPlace
  | value outer => stepValue t outer
  | firstElement outer =>
    if t = .closeBracket then some (afterValue (.array []) outer)
    else stepValue t (.array [] :: outer)
  | firstName outer =>
    match t with
    | .closeBrace => some (afterValue (.object []) outer)
    | .string label => some (colon [] label outer)
    | _ => none
  | name members outer =>
    match t with
    | .string label => some (colon members label outer)
    | _ => none
  | colon members label outer =>
    match t with
    | .colon => some (value (.object members label :: outer))
    | _ => none
  | memberEnd members outer =>
    match t with
    | .comma => some (name members outer)
    | .closeBrace => some (afterValue (.object members) outer)
    | _ => none
  | elementEnd elements outer =>
    match t with
    | .comma => some (value (.array elements :: outer))
    | .closeBracket => some (afterValue (.array elements) outer)
    | _ => none
  | finished _ => none

/-- The value that is complete when the tokens have been read from a place. -/
def read : JsonPlace → List JsonToken → Option Json
  | finished root, [] => some root
  | _, [] => none
  | place, t :: rest => (place.step t).bind (·.read rest)

end JsonPlace

/-- The value that a text of strict JSON writes. -/
def Json.ofText? (text : String) : Option Json :=
  (JsonToken.tokenize text.toList).bind (JsonPlace.value []).read

end Phrasebook
