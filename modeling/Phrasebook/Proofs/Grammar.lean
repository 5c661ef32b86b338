import Phrasebook.Document

/-!
# Phrasebook.Proofs.Grammar

The grammar of documents, as a relation between tokens and what they stand for.

```text
document ::= object endOfText
object   ::= "{" [ member { "," member } [ "," ] ] "}"
member   ::= ( string | identifier ) ":" value
array    ::= "[" [ value { "," value } [ "," ] ] "]"
value    ::= object | array | string | number | boolean | null
```

`Derives s ts x` says that the tokens `ts` can be derived from the symbol `s`, and that this
derivation stands for `x`.  Each constructor is one production.  How deep a document nests is no
matter of the grammar: `Node.height` counts it.
-/

namespace Phrasebook

/-! ## nesting -/

mutual

/-- How deep objects and arrays nest in a node, the node included. -/
def Node.height : Node → Nat
  | .object _ members => heightOfMembers members + 1
  | .array _ elements => heightOfElements elements + 1
  | _ => 0

/-- The height of the highest value among members. -/
def heightOfMembers : List Property → Nat
  | [] => 0
  | m :: rest => max m.value.height (heightOfMembers rest)

/-- The height of the highest element. -/
def heightOfElements : List Node → Nat
  | [] => 0
  | n :: rest => max n.height (heightOfElements rest)

end

theorem heightOfMembers_append (ms : List Property) (m : Property) :
    heightOfMembers (ms ++ [m]) = max (heightOfMembers ms) m.value.height := by
  induction ms with
  | nil => simp [heightOfMembers]
  | cons head rest ih => rw [List.cons_append, heightOfMembers, heightOfMembers, ih, Nat.max_assoc]

theorem heightOfElements_append (ns : List Node) (n : Node) :
    heightOfElements (ns ++ [n]) = max (heightOfElements ns) n.height := by
  induction ns with
  | nil => simp [heightOfElements]
  | cons head rest ih =>
      rw [List.cons_append, heightOfElements, heightOfElements, ih, Nat.max_assoc]

namespace Grammar

/-! ## symbols -/

/-- The symbols of the grammar.  `objectBody` and `arrayBody` are what may stand between the
brackets, `members` and `elements` the lists of at least one item without a comma behind them. -/
inductive Symbol where
  | document
  | object
  | objectBody
  | members
  | member
  | array
  | arrayBody
  | elements
  | value

/-- What the tokens of a symbol stand for. -/
def Symbol.Meaning : Symbol → Type
  | .document | .object | .array | .value => Node
  | .objectBody | .members => List Property
  | .member => Property
  | .arrayBody | .elements => List Node

/-- A token that names a member. -/
inductive Names : Token → String → Prop where
  | string {t : Token} {s : String} : t.kind = .string s → Names t s
  | identifier {t : Token} {s : String} : t.kind = .identifier s → Names t s

/-- An optional comma. -/
inductive Trailing : List Token → Prop where
  | none : Trailing []
  | comma {t : Token} : t.kind = .comma → Trailing [t]

/-- A member behind others, marked as repeated if one of them has its name. -/
def mark (earlier : List Property) (m : Property) : Property :=
  { m with repeated := earlier.any (·.name == m.name) }

@[simp] theorem height_mark (earlier : List Property) (m : Property) :
    (Member.value (mark earlier m)).height = (Member.value m).height := rfl

/-! ## productions -/

/-- The tokens `ts` can be derived from the symbol `s`, and stand for `x`. -/
inductive Derives : (s : Symbol) → List Token → s.Meaning → Prop where
  | document {ts : List Token} {e : Token} {root : Node} :
      Derives .object ts root → e.kind = .endOfText → Derives .document (ts ++ [e]) root
  | object {o c : Token} {ts : List Token} {ms : List Property} :
      o.kind = .openBrace → Derives .objectBody ts ms → c.kind = .closeBrace →
      Derives .object (o :: ts ++ [c]) (Node.object (.between o.span.offset c.span.stop) ms)
  | noMembers : Derives .objectBody [] []
  | someMembers {ts us : List Token} {ms : List Property} :
      Derives .members ts ms → Trailing us → Derives .objectBody (ts ++ us) ms
  | firstMember {ts : List Token} {m : Property} :
      Derives .member ts m → Derives .members ts [mark [] m]
  | nextMember {ts us : List Token} {c : Token} {ms : List Property} {m : Property} :
      Derives .members ts ms → c.kind = .comma → Derives .member us m →
      Derives .members (ts ++ c :: us) (ms ++ [mark ms m])
  | member {k c : Token} {name : String} {ts : List Token} {v : Node} :
      Names k name → c.kind = .colon → Derives .value ts v →
      Derives .member (k :: c :: ts) (Member.mk name k.span v false)
  | array {o c : Token} {ts : List Token} {ns : List Node} :
      o.kind = .openBracket → Derives .arrayBody ts ns → c.kind = .closeBracket →
      Derives .array (o :: ts ++ [c]) (Node.array (.between o.span.offset c.span.stop) ns)
  | noElements : Derives .arrayBody [] []
  | someElements {ts us : List Token} {ns : List Node} :
      Derives .elements ts ns → Trailing us → Derives .arrayBody (ts ++ us) ns
  | firstElement {ts : List Token} {n : Node} :
      Derives .value ts n → Derives .elements ts [n]
  | nextElement {ts us : List Token} {c : Token} {ns : List Node} {n : Node} :
      Derives .elements ts ns → c.kind = .comma → Derives .value us n →
      Derives .elements (ts ++ c :: us) (ns ++ [n])
  | objectValue {ts : List Token} {n : Node} : Derives .object ts n → Derives .value ts n
  | arrayValue {ts : List Token} {n : Node} : Derives .array ts n → Derives .value ts n
  | string {t : Token} {s : String} :
      t.kind = .string s → Derives .value [t] (Node.string t.span s)
  | number {t : Token} {x : Binary64} :
      t.kind = .number x → Derives .value [t] (Node.number t.span x)
  | boolean {t : Token} {b : Bool} :
      t.kind = .boolean b → Derives .value [t] (Node.boolean t.span b)
  | null {t : Token} : t.kind = .null → Derives .value [t] (Node.null t.span)

/-- A document is an object and the end of the text. -/
theorem of_derives_document {us : List Token} {e : Token} {root : Node}
    (h : Derives .document (us ++ [e]) root) : Derives .object us root := by
  generalize hts : us ++ [e] = ts at h
  cases h with
  | document hobject _ =>
      obtain ⟨rfl, -⟩ := List.append_inj' hts rfl
      exact hobject

end Grammar

end Phrasebook
