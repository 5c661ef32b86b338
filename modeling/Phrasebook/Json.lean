/-!
# Phrasebook.Json

Values of strict JSON, and reading structures out of them.

1. A number keeps its spelling, so that no digit is lost.
2. A string that holds one half of a surrogate pair without the other stands for no text (`none`).
   Such a string is no error as long as nobody asks for its text.
3. A structure is written as an object, or as an array of its fields in order (`fields?`).  Names
   that are not fields are passed over; a field that occurs twice is an error.
4. One of a set of names is written as a string, or as an object with that name alone and the value
   `null` (`choice?`).
-/

namespace Phrasebook

/-- A value of strict JSON. -/
inductive Json where
  | null
  | boolean (value : Bool)
  | number (literal : String)
  | string (text : Option String)
  | array (elements : List Json)
  | object (members : List (Option String × Json))

namespace Json

/-- What holds of a value if it holds of the values inside it holds of every value. -/
@[elab_as_elim]
theorem inductionOn {P : Json → Prop} (j : Json) (null : P .null)
    (boolean : ∀ value, P (.boolean value)) (number : ∀ literal, P (.number literal))
    (string : ∀ text, P (.string text))
    (array : ∀ elements, (∀ j ∈ elements, P j) → P (.array elements))
    (object : ∀ members : List (Option String × Json), (∀ m ∈ members, P m.2) →
      P (.object members)) :
    P j := by
  match j with
  | .null => exact null
  | .boolean value => exact boolean value
  | .number literal => exact number literal
  | .string text => exact string text
  | .array elements =>
      exact array elements fun j hj => j.inductionOn null boolean number string array object
  | .object members =>
      exact object members fun m hm => m.2.inductionOn null boolean number string array object
termination_by sizeOf j
decreasing_by
  · have hsize := List.sizeOf_lt_of_mem hj
    simp only [Json.array.sizeOf_spec]
    omega
  · have hsize := List.sizeOf_lt_of_mem hm
    obtain ⟨name, value⟩ := m
    simp only [Prod.mk.sizeOf_spec, Json.object.sizeOf_spec] at hsize ⊢
    omega

/-- A string with a text. -/
def ofString (text : String) : Json := string (some text)

/-- A natural number in decimal digits. -/
def ofNat (n : Nat) : Json := number (toString n)

/-- An object with ordinary names. -/
def ofMembers (members : List (String × Json)) : Json :=
  object (members.map fun m => (some m.1, m.2))

/-- The text of a string. -/
def text? : Json → Option String
  | string text => text
  | _ => none

/-- The value of a boolean. -/
def boolean? : Json → Option Bool
  | boolean value => some value
  | _ => none

/-- The elements of an array. -/
def elements? : Json → Option (List Json)
  | array elements => some elements
  | _ => none

/-- The largest number of 64 bits. -/
def largestWord : Nat := 0xFFFFFFFFFFFFFFFF

/-- A natural number of 64 bits, written in digits alone. -/
def natural? : Json → Option Nat
  | number literal =>
    if literal.toList.all Char.isDigit then
      let n := literal.toList.foldl (fun n c => 10 * n + (c.toNat - '0'.toNat)) 0
      if n ≤ largestWord then some n else none
    else none
  | _ => none

/-- One of the names that `ofName?` knows. -/
def choice? {α : Type} (ofName? : String → Option α) : Json → Option α
  | string (some name) => ofName? name
  | object [(some name, null)] => ofName? name
  | _ => none

/-- A list of what `read` reads. -/
def list? {α : Type} (read : Json → Option α) (j : Json) : Option (List α) :=
  j.elements?.bind (·.mapM read)

/-- An object whose values are texts, as a list of entries. -/
def entries? : Json → Option (List (String × String))
  | object members => members.mapM fun m => m.1.bind fun name => m.2.text?.map (name, ·)
  | _ => none

/-- The only value that a name has among the members of an object: `some none` if there is none, and
`none` if there are several. -/
def single? (members : List (Option String × Json)) (name : String) : Option (Option Json) :=
  match members.filter (·.1 == some name) with
  | [] => some none
  | [member] => some (some member.2)
  | _ => none

/-- The values of the fields of a structure, each with `none` if it is not given. -/
def fields? (names : List String) : Json → Option (List (Option Json))
  | object members =>
    if members.all (·.1.isSome) then names.mapM (single? members) else none
  | array elements =>
    if elements.length ≤ names.length then
      some (elements.map some ++ List.replicate (names.length - elements.length) none)
    else none
  | _ => none

/-- The values of the fields of a structure that must all be given. -/
def allFields? (names : List String) (j : Json) : Option (List Json) :=
  (j.fields? names).bind (·.mapM id)

end Json

end Phrasebook
