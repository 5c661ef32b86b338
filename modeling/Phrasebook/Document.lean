import Phrasebook.Token

/-!
# Phrasebook.Document

The tree that a document is read into.

1. Every node knows the span of its own text.
2. An object keeps all its members in the order of the text.  A member whose name an earlier member
   of the same object has is marked as repeated; looking a name up finds the first member with it.
-/

namespace Phrasebook

/-- A member of an object: a name, where the name stands, and a value. -/
structure Member (α : Type) where
  name : String
  nameSpan : Span
  value : α
  /-- An earlier member of the same object has the same name. -/
  repeated : Bool

/-- A value of a document, with the span of its text. -/
inductive Node where
  | string (span : Span) (value : String)
  | number (span : Span) (value : Binary64)
  | boolean (span : Span) (value : Bool)
  | null (span : Span)
  | object (span : Span) (members : List (Member Node))
  | array (span : Span) (elements : List Node)

/-- A named value of a document. -/
abbrev Property := Member Node

namespace Node

/-- Where the text of a node stands. -/
def span : Node → Span
  | string span _ | number span _ | boolean span _ | null span | object span _ | array span _ =>
    span

/-- The text of a string. -/
def text? : Node → Option String
  | string _ value => some value
  | _ => none

/-- The members of an object, repeated ones included. -/
def members? : Node → Option (List Property)
  | object _ members => some members
  | _ => none

/-- The elements of an array. -/
def elements? : Node → Option (List Node)
  | array _ elements => some elements
  | _ => none

/-- Whether a node is an object. -/
def isObject : Node → Bool
  | object _ _ => true
  | _ => false

/-- The value of the first member with a name. -/
def get? (n : Node) (name : String) : Option Node :=
  (n.members?.getD []).find? (·.name == name) |>.map (·.value)

/-- The members of an object whose name no earlier member has. -/
def properties (n : Node) : List Property := (n.members?.getD []).filter (!·.repeated)

/-- The kind of value, as messages name it. -/
def typeName : Node → String
  | string _ _ => "string"
  | number _ _ => "number"
  | boolean _ _ => "boolean"
  | null _ => "null"
  | object _ _ => "object"
  | array _ _ => "array"

end Node

/-- What holds of a node if it holds of the nodes inside it holds of every node. -/
@[elab_as_elim]
theorem Node.inductionOn {P : Node → Prop} (n : Node)
    (string : ∀ span value, P (.string span value)) (number : ∀ span value, P (.number span value))
    (boolean : ∀ span value, P (.boolean span value)) (null : ∀ span, P (.null span))
    (object : ∀ span (ms : List Property), (∀ m ∈ ms, P m.value) → P (.object span ms))
    (array : ∀ span (ns : List Node), (∀ e ∈ ns, P e) → P (.array span ns)) : P n := by
  match n with
  | .string span value => exact string span value
  | .number span value => exact number span value
  | .boolean span value => exact boolean span value
  | .null span => exact null span
  | .object span ms =>
      exact object span ms fun m hm => m.value.inductionOn string number boolean null object array
  | .array span ns =>
      exact array span ns fun e he => e.inductionOn string number boolean null object array
termination_by sizeOf n
decreasing_by
  · have hsize := List.sizeOf_lt_of_mem hm
    obtain ⟨name, nameSpan, value, repeated⟩ := m
    simp only [Member.mk.sizeOf_spec, Node.object.sizeOf_spec] at hsize ⊢
    omega
  · have hsize := List.sizeOf_lt_of_mem he
    simp only [Node.array.sizeOf_spec]
    omega

mutual

/-- The members anywhere below a node whose name an earlier member of the same object has, in the
order of the text. -/
def Node.repetitions : Node → List Property
  | .object _ members => repetitionsOfMembers members
  | .array _ elements => repetitionsOfElements elements
  | _ => []

/-- The repeated members among `members` and below their values. -/
def repetitionsOfMembers : List Property → List Property
  | [] => []
  | m :: rest =>
    (if m.repeated then [m] else []) ++ m.value.repetitions ++ repetitionsOfMembers rest

/-- The repeated members below the elements of an array. -/
def repetitionsOfElements : List Node → List Property
  | [] => []
  | n :: rest => n.repetitions ++ repetitionsOfElements rest

end

end Phrasebook
