import Phrasebook.Document.Reader
import Phrasebook.Proofs.Grammar
import Phrasebook.Proofs.Tokens

/-!
# Phrasebook.Proofs.Reading

The reader accepts exactly the documents of the grammar.

The reader goes from place to place, one token at a time.  Two invariants tie it to the grammar:

* what can be derived from a symbol takes the reader over it, to the place behind what the tokens
  stand for (`progress_of_derives`);
* what has been read up to a place is spelled out by that place: its open containers and what has
  been read of each (`Spells`).

The room for open containers is a parameter in both.  With room for 64 this gives what the reader
accepts, and with enough room for any two given trees it shows that the grammar is not ambiguous.
-/

namespace Phrasebook

open Grammar

/-! ## going over several tokens -/

/-- The place behind some tokens, if each of them leads to a next place. -/
def Place.advance (room : Nat) (p : Place) : List Token → Option Place
  | [] => some p
  | t :: rest =>
    match p.step room t with
    | .next q => q.advance room rest
    | _ => none

namespace Place

variable {room : Nat} {p q : Place} {t : Token} {ts us : List Token}

@[simp] theorem advance_nil : p.advance room [] = some p := rfl

theorem advance_cons (h : p.step room t = .next q) :
    p.advance room (t :: ts) = q.advance room ts := by
  rw [advance, h]

theorem advance_append :
    p.advance room (ts ++ us) = (p.advance room ts).bind (·.advance room us) := by
  induction ts generalizing p with
  | nil => rfl
  | cons t rest ih =>
      rw [List.cons_append, advance, advance]
      split
      · exact ih
      · rfl

theorem advance_append_of_some (h : p.advance room ts = some q) :
    p.advance room (ts ++ us) = q.advance room us := by
  rw [advance_append, h, Option.bind_some]

/-! ## single steps -/

section step

variable {start : Nat} {ms : List Property} {ns : List Node} {outer open_ : List Container}

theorem enter_of_le (h : open_.length + 1 ≤ room) : enter room open_ p = .next p := by
  rw [enter, if_neg (by omega)]

theorem step_document_open (ht : t.kind = .openBrace) (h : 1 ≤ room) :
    document.step room t = .next (name t.span.offset [] []) := by
  rw [step, ht]
  exact enter_of_le h

theorem step_name_close (ht : t.kind = .closeBrace) :
    (name start ms outer).step room t =
      .next (afterValue (.object (.between start t.span.stop) ms) outer) := by
  rw [step, ht]

theorem step_name_of_names {s : String} (ht : Names t s) :
    (name start ms outer).step room t = .next (colon start ms s t.span outer) := by
  cases ht with
  | string hs => rw [step, hs]
  | identifier hs => rw [step, hs]

theorem step_colon {s : String} {span : Span} (ht : t.kind = .colon) :
    (colon start ms s span outer).step room t =
      .next (value (.object start ms s span :: outer)) := by
  rw [step, ht]

theorem step_memberEnd_comma (ht : t.kind = .comma) :
    (memberEnd start ms outer).step room t = .next (name start ms outer) := by
  rw [step, ht]

theorem step_memberEnd_close (ht : t.kind = .closeBrace) :
    (memberEnd start ms outer).step room t =
      .next (afterValue (.object (.between start t.span.stop) ms) outer) := by
  rw [step, ht]

theorem step_value_openBrace (ht : t.kind = .openBrace) (h : open_.length + 1 ≤ room) :
    (value open_).step room t = .next (name t.span.offset [] open_) := by
  simp only [step, stepValue, ht]
  exact enter_of_le h

theorem step_value_openBracket (ht : t.kind = .openBracket) (h : open_.length + 1 ≤ room) :
    (value open_).step room t = .next (value (.array t.span.offset [] :: open_)) := by
  simp only [step, stepValue, ht]
  exact enter_of_le h

theorem step_value_close (ht : t.kind = .closeBracket) :
    (value (.array start ns :: outer)).step room t =
      .next (afterValue (.array (.between start t.span.stop) ns) outer) := by
  rw [step, stepValue, ht]

theorem step_elementEnd_comma (ht : t.kind = .comma) :
    (elementEnd start ns outer).step room t = .next (value (.array start ns :: outer)) := by
  rw [step, ht]

theorem step_elementEnd_close (ht : t.kind = .closeBracket) :
    (elementEnd start ns outer).step room t =
      .next (afterValue (.array (.between start t.span.stop) ns) outer) := by
  rw [step, ht]

end step

/-! ## what can be derived takes the reader over it -/

/-- Where the reader gets over tokens that stand for `x`. -/
def Progress (room : Nat) : (s : Symbol) → List Token → s.Meaning → Prop
  | .document, ts, root => Node.height root ≤ room →
      ∃ us e, ts = us ++ [e] ∧ e.kind = .endOfText ∧ advance room document us = some (finished root)
  | .object, ts, n => ∃ o us, ts = o :: us ∧ o.kind = .openBrace ∧ 1 ≤ Node.height n ∧
      ∀ open_ : List Container, open_.length + Node.height n ≤ room →
        (name o.span.offset [] open_).advance room us = some (afterValue n open_)
  | .objectBody, ts, ms => ∀ start (open_ : List Container) (c : Token), c.kind = .closeBrace →
      open_.length + 1 + heightOfMembers ms ≤ room →
        (name start [] open_).advance room (ts ++ [c]) =
          some (afterValue (.object (.between start c.span.stop) ms) open_)
  | .members, ts, ms => ∀ start (open_ : List Container),
      open_.length + 1 + heightOfMembers ms ≤ room →
        (name start [] open_).advance room ts = some (memberEnd start ms open_)
  | .member, ts, m => ∀ start ms (open_ : List Container),
      open_.length + 1 + (Member.value m).height ≤ room →
        (name start ms open_).advance room ts = some (memberEnd start (ms ++ [mark ms m]) open_)
  | .array, ts, n => ∃ o us, ts = o :: us ∧ o.kind = .openBracket ∧ 1 ≤ Node.height n ∧
      ∀ open_ : List Container, open_.length + Node.height n ≤ room →
        (value (.array o.span.offset [] :: open_)).advance room us = some (afterValue n open_)
  | .arrayBody, ts, ns => ∀ start (open_ : List Container) (c : Token), c.kind = .closeBracket →
      open_.length + 1 + heightOfElements ns ≤ room →
        (value (.array start [] :: open_)).advance room (ts ++ [c]) =
          some (afterValue (.array (.between start c.span.stop) ns) open_)
  | .elements, ts, ns => ∀ start (open_ : List Container),
      open_.length + 1 + heightOfElements ns ≤ room →
        (value (.array start [] :: open_)).advance room ts = some (elementEnd start ns open_)
  | .value, ts, n => ∀ open_ : List Container, open_.length + Node.height n ≤ room →
      (value open_).advance room ts = some (afterValue n open_)

/-- Whatever can be derived from a symbol takes the reader over it. -/
theorem progress_of_derives (room : Nat) {s : Symbol} {x : s.Meaning} (h : Derives s ts x) :
    Progress room s ts x := by
  induction h with
  | document _ he ih =>
      intro hroom
      obtain ⟨o, us, rfl, ho, hpos, hread⟩ := ih
      refine ⟨o :: us, _, rfl, he, ?_⟩
      rw [advance_cons (step_document_open ho (by omega))]
      exact hread [] (by simpa using hroom)
  | object ho _ hc ih =>
      refine ⟨_, _, rfl, ho, by simp [Node.height], fun open_ hroom => ?_⟩
      rw [Node.height] at hroom
      exact ih _ open_ _ hc (by omega)
  | noMembers =>
      intro start open_ c hc _
      rw [List.nil_append, advance_cons (step_name_close hc), advance_nil]
  | someMembers _ hus ih =>
      intro start open_ c hc hroom
      rw [List.append_assoc, advance_append_of_some (ih start open_ hroom)]
      cases hus with
      | none => rw [List.nil_append, advance_cons (step_memberEnd_close hc), advance_nil]
      | comma hcomma =>
          rw [List.singleton_append, advance_cons (step_memberEnd_comma hcomma),
            advance_cons (step_name_close hc), advance_nil]
  | firstMember _ ih =>
      intro start open_ hroom
      exact ih start [] open_ (by simpa [heightOfMembers, mark] using hroom)
  | nextMember _ hc _ ihs ih =>
      intro start open_ hroom
      rw [heightOfMembers_append, height_mark] at hroom
      rw [advance_append_of_some (ihs start open_ (by omega)),
        advance_cons (step_memberEnd_comma hc)]
      exact ih start _ open_ (by omega)
  | member hk hc _ ih =>
      intro start ms open_ hroom
      rw [advance_cons (step_name_of_names hk), advance_cons (step_colon hc), ih]
      · rfl
      · rw [List.length_cons]
        exact hroom
  | array ho _ hc ih =>
      refine ⟨_, _, rfl, ho, by simp [Node.height], fun open_ hroom => ?_⟩
      rw [Node.height] at hroom
      exact ih _ open_ _ hc (by omega)
  | noElements =>
      intro start open_ c hc _
      rw [List.nil_append, advance_cons (step_value_close hc), advance_nil]
  | someElements _ hus ih =>
      intro start open_ c hc hroom
      rw [List.append_assoc, advance_append_of_some (ih start open_ hroom)]
      cases hus with
      | none => rw [List.nil_append, advance_cons (step_elementEnd_close hc), advance_nil]
      | comma hcomma =>
          rw [List.singleton_append, advance_cons (step_elementEnd_comma hcomma),
            advance_cons (step_value_close hc), advance_nil]
  | firstElement _ ih =>
      intro start open_ hroom
      rw [ih (.array start [] :: open_) (by simpa [heightOfElements] using hroom)]
      rfl
  | nextElement _ hc _ ihs ih =>
      intro start open_ hroom
      rw [heightOfElements_append] at hroom
      rw [advance_append_of_some (ihs start open_ (by omega)),
        advance_cons (step_elementEnd_comma hc), ih (.array start _ :: open_)
          (by rw [List.length_cons]; omega)]
      rfl
  | objectValue _ ih =>
      intro open_ hroom
      obtain ⟨o, us, rfl, ho, hpos, hread⟩ := ih
      rw [advance_cons (step_value_openBrace ho (by omega))]
      exact hread open_ hroom
  | arrayValue _ ih =>
      intro open_ hroom
      obtain ⟨o, us, rfl, ho, hpos, hread⟩ := ih
      rw [advance_cons (step_value_openBracket ho (by omega))]
      exact hread open_ hroom
  | string ht | number ht | boolean ht | null ht =>
      intro open_ _
      simp only [advance, step, stepValue, ht]

/-! ## what has been read is spelled out by the place -/

/-- What stands before a member of an object: nothing, or members and a comma. -/
inductive BeforeMember : List Token → List Property → Prop where
  | start : BeforeMember [] []
  | comma {ts : List Token} {c : Token} {ms : List Property} :
      Derives .members ts ms → c.kind = .comma → BeforeMember (ts ++ [c]) ms

/-- What stands before an element of an array: nothing, or elements and a comma. -/
inductive BeforeElement : List Token → List Node → Prop where
  | start : BeforeElement [] []
  | comma {ts : List Token} {c : Token} {ns : List Node} :
      Derives .elements ts ns → c.kind = .comma → BeforeElement (ts ++ [c]) ns

theorem BeforeMember.append {ms : List Property} {m : Property} (h : BeforeMember ts ms)
    (hm : Derives .member us m) : Derives .members (ts ++ us) (ms ++ [mark ms m]) := by
  cases h with
  | start => exact .firstMember hm
  | comma hms hc =>
      rw [List.append_assoc, List.singleton_append]
      exact .nextMember hms hc hm

theorem BeforeElement.append {ns : List Node} {n : Node} (h : BeforeElement ts ns)
    (hn : Derives .value us n) : Derives .elements (ts ++ us) (ns ++ [n]) := by
  cases h with
  | start => exact .firstElement hn
  | comma hns hc =>
      rw [List.append_assoc, List.singleton_append]
      exact .nextElement hns hc hn

theorem BeforeMember.body {ms : List Property} (h : BeforeMember ts ms) :
    Derives .objectBody ts ms := by
  cases h with
  | start => exact .noMembers
  | comma hms hc => exact .someMembers hms (.comma hc)

theorem BeforeElement.body {ns : List Node} (h : BeforeElement ts ns) :
    Derives .arrayBody ts ns := by
  cases h with
  | start => exact .noElements
  | comma hns hc => exact .someElements hns (.comma hc)

/-- The tokens read since the start of the document, where these containers are open and a value
comes next.  What has been read of each container fits into the room. -/
inductive Opened (room : Nat) : List Container → List Token → Prop where
  | nothing : Opened room [] []
  | object {outer : List Container} {us ts : List Token} {o k c : Token} {ms : List Property}
      {name : String} :
      Opened room outer us → o.kind = .openBrace → BeforeMember ts ms →
      outer.length + 1 + heightOfMembers ms ≤ room → Names k name → c.kind = .colon →
      Opened room (.object o.span.offset ms name k.span :: outer) (us ++ o :: (ts ++ [k, c]))
  | array {outer : List Container} {us ts : List Token} {o : Token} {ns : List Node} :
      Opened room outer us → outer ≠ [] → o.kind = .openBracket → BeforeElement ts ns →
      outer.length + 1 + heightOfElements ns ≤ room →
      Opened room (.array o.span.offset ns :: outer) (us ++ o :: ts)

/-- The tokens read since the start of the document spell out the place. -/
inductive Spells (room : Nat) : Place → List Token → Prop where
  | document : Spells room document []
  | name {outer : List Container} {us ts : List Token} {o : Token} {ms : List Property} :
      Opened room outer us → o.kind = .openBrace → BeforeMember ts ms →
      outer.length + 1 + heightOfMembers ms ≤ room →
      Spells room (name o.span.offset ms outer) (us ++ o :: ts)
  | colon {outer : List Container} {us ts : List Token} {o k : Token} {ms : List Property}
      {name : String} :
      Opened room outer us → o.kind = .openBrace → BeforeMember ts ms →
      outer.length + 1 + heightOfMembers ms ≤ room → Names k name →
      Spells room (colon o.span.offset ms name k.span outer) (us ++ o :: (ts ++ [k]))
  | value {open_ : List Container} {us : List Token} :
      Opened room open_ us → open_ ≠ [] → Spells room (value open_) us
  | memberEnd {outer : List Container} {us ts : List Token} {o : Token} {ms : List Property} :
      Opened room outer us → o.kind = .openBrace → Derives .members ts ms →
      outer.length + 1 + heightOfMembers ms ≤ room →
      Spells room (memberEnd o.span.offset ms outer) (us ++ o :: ts)
  | elementEnd {outer : List Container} {us ts : List Token} {o : Token} {ns : List Node} :
      Opened room outer us → outer ≠ [] → o.kind = .openBracket → Derives .elements ts ns →
      outer.length + 1 + heightOfElements ns ≤ room →
      Spells room (elementEnd o.span.offset ns outer) (us ++ o :: ts)
  | finished {us : List Token} {root : Node} :
      Derives .object us root → Node.height root ≤ room → Spells room (finished root) us

/-- A value completes its place in the innermost open container; at the root it must be an
object. -/
theorem spells_afterValue {open_ : List Container} {v : Node} (h : Opened room open_ us)
    (hv : Derives .value ts v) (hroot : open_ = [] → Derives .object ts v)
    (hroom : open_.length + v.height ≤ room) : Spells room (afterValue v open_) (us ++ ts) := by
  cases h with
  | nothing => exact .finished (hroot rfl) (by simpa using hroom)
  | object hopened ho hms hfit hk hc =>
      rw [List.length_cons] at hroom
      rw [List.append_assoc, List.cons_append, List.append_assoc]
      exact .memberEnd hopened ho (hms.append (.member hk hc hv))
        (by rw [heightOfMembers_append]; show _ + 1 + max _ v.height ≤ room; omega)
  | array hopened hne ho hns hfit =>
      rw [List.length_cons] at hroom
      rw [List.append_assoc, List.cons_append]
      exact .elementEnd hopened hne ho (hns.append hv) (by rw [heightOfElements_append]; omega)

/-- An object that closes completes its place. -/
theorem spells_object {outer : List Container} {o c : Token} {ms : List Property}
    (h : Opened room outer us) (ho : o.kind = .openBrace) (hms : Derives .objectBody ts ms)
    (hfit : outer.length + 1 + heightOfMembers ms ≤ room) (hc : c.kind = .closeBrace) :
    Spells room (afterValue (.object (.between o.span.offset c.span.stop) ms) outer)
      (us ++ o :: ts ++ [c]) := by
  have hobject := Derives.object ho hms hc
  rw [List.append_assoc]
  exact spells_afterValue h (.objectValue hobject) (fun _ => hobject) (by rw [Node.height]; omega)

/-- An array that closes completes its place. -/
theorem spells_array {outer : List Container} {o c : Token} {ns : List Node}
    (h : Opened room outer us) (hne : outer ≠ []) (ho : o.kind = .openBracket)
    (hns : Derives .arrayBody ts ns) (hfit : outer.length + 1 + heightOfElements ns ≤ room)
    (hc : c.kind = .closeBracket) :
    Spells room (afterValue (.array (.between o.span.offset c.span.stop) ns) outer)
      (us ++ o :: ts ++ [c]) := by
  have harray := Derives.array ho hns hc
  rw [List.append_assoc]
  exact spells_afterValue h (.arrayValue harray) (fun hnil => absurd hnil hne)
    (by rw [Node.height]; omega)

theorem of_enter {open_ : List Container} (h : enter room open_ p = .next q) :
    open_.length + 1 ≤ room ∧ p = q := by
  rw [enter] at h
  split at h
  · cases h
  · cases h
    exact ⟨by omega, rfl⟩

theorem Opened.length_le {open_ : List Container} (h : Opened room open_ us) :
    open_.length ≤ room := by
  cases h with
  | nothing => exact Nat.zero_le _
  | object _ _ _ hfit _ _ => rw [List.length_cons]; omega
  | array _ _ _ _ hfit => rw [List.length_cons]; omega

theorem spells_stepValue {open_ : List Container} (h : Opened room open_ us) (hne : open_ ≠ [])
    (hs : stepValue room open_ t = .next q) : Spells room q (us ++ [t]) := by
  have hroom := h.length_le
  cases ht : t.kind <;> simp only [stepValue, ht] at hs <;> try cases hs
  case openBrace =>
    obtain ⟨hfit, rfl⟩ := of_enter hs
    exact .name h ht .start (by simpa [heightOfMembers] using hfit)
  case openBracket =>
    obtain ⟨hfit, rfl⟩ := of_enter hs
    exact .value (.array h hne ht .start (by simpa [heightOfElements] using hfit)) (by simp)
  case string => exact spells_afterValue h (.string ht) (fun hnil => absurd hnil hne) hroom
  case number => exact spells_afterValue h (.number ht) (fun hnil => absurd hnil hne) hroom
  case boolean => exact spells_afterValue h (.boolean ht) (fun hnil => absurd hnil hne) hroom
  case null => exact spells_afterValue h (.null ht) (fun hnil => absurd hnil hne) hroom
  case closeBracket =>
    cases h with
    | nothing => cases hs
    | object => cases hs
    | array hopened houter ho hns hfit =>
        cases hs
        exact spells_array hopened houter ho hns.body hfit ht

/-- One step keeps the place spelled out. -/
theorem spells_step (h : Spells room p ts) (hs : p.step room t = .next q) :
    Spells room q (ts ++ [t]) := by
  cases h with
  | document =>
      rw [step] at hs
      split at hs
      next ht =>
        obtain ⟨hfit, rfl⟩ := of_enter hs
        exact .name .nothing ht .start (by simpa [heightOfMembers] using hfit)
      next => cases hs
  | name hopened ho hms hfit =>
      rw [step] at hs
      split at hs
      next ht => cases hs; exact spells_object hopened ho hms.body hfit ht
      next ht => cases hs; rw [List.append_assoc]; exact .colon hopened ho hms hfit (.string ht)
      next ht => cases hs; rw [List.append_assoc]; exact .colon hopened ho hms hfit (.identifier ht)
      next => cases hs
  | colon hopened ho hms hfit hk =>
      rw [step] at hs
      split at hs
      next ht =>
        cases hs
        rw [List.append_assoc, List.cons_append, List.append_assoc]
        exact .value (.object hopened ho hms hfit hk ht) (by simp)
      next => cases hs
  | value hopened hne => exact spells_stepValue hopened hne hs
  | memberEnd hopened ho hms hfit =>
      rw [step] at hs
      split at hs
      next ht =>
        cases hs
        rw [List.append_assoc]
        exact .name hopened ho (.comma hms ht) hfit
      next ht =>
        cases hs
        have hbody := Derives.someMembers hms .none
        rw [List.append_nil] at hbody
        exact spells_object hopened ho hbody hfit ht
      next => cases hs
  | elementEnd hopened hne ho hns hfit =>
      rw [step] at hs
      split at hs
      next ht =>
        cases hs
        rw [List.append_assoc]
        exact .value (.array hopened hne ho (.comma hns ht) hfit) (by simp)
      next ht =>
        cases hs
        have hbody := Derives.someElements hns .none
        rw [List.append_nil] at hbody
        exact spells_array hopened hne ho hbody hfit ht
      next => cases hs
  | finished hroot hfit =>
      rw [step] at hs
      split at hs <;> cases hs

/-- Reading on keeps the place spelled out. -/
theorem spells_advance (h : Spells room p us) (hs : p.advance room ts = some q) :
    Spells room q (us ++ ts) := by
  induction ts generalizing p us with
  | nil =>
      cases hs
      rwa [List.append_nil]
  | cons t rest ih =>
      rw [advance] at hs
      split at hs
      next hstep =>
        rw [← List.singleton_append, ← List.append_assoc]
        exact ih (spells_step h hstep) hs
      next => cases hs

/-! ## reading a whole document -/

theorem enter_ne_done {open_ : List Container} {root : Node} : enter room open_ p ≠ .done root := by
  rw [enter]
  split <;> exact Step.noConfusion

theorem stepValue_ne_done {open_ : List Container} {root : Node} :
    stepValue room open_ t ≠ .done root := by
  unfold stepValue
  split
  case h_1 | h_2 => exact enter_ne_done
  case h_7 => split <;> exact Step.noConfusion
  all_goals exact Step.noConfusion

/-- Only a closed root can be the last place, and only before the end of the text. -/
theorem of_step_eq_done {root : Node} (h : p.step room t = .done root) :
    p = finished root ∧ t.kind = .endOfText := by
  cases p with
  | finished =>
      rw [step] at h
      split at h
      next ht => cases h; exact ⟨rfl, ht⟩
      next => cases h
  | value => exact absurd h stepValue_ne_done
  | document =>
      rw [step] at h
      split at h
      · exact absurd h enter_ne_done
      · cases h
  | name | colon | memberEnd | elementEnd =>
      rw [step] at h
      split at h <;> cases h

/-- How the reading of some tokens from `p` ends.  Over the tokens that it passes it comes to a
place, and there the next token ends it, or that there is none. -/
inductive Reads (base size : Nat) (p : Place) : List Token → Reading → Prop where
  | ok {us rest : List Token} {e : Token} {root : Node} :
      p.advance (maxDepth - base) us = some (finished root) → e.kind = .endOfText →
      Reads base size p (us ++ e :: rest) ⟨.ok root, us.length + 1, base⟩
  | unexpected {us rest : List Token} {t : Token} {q : Place} :
      p.advance (maxDepth - base) us = some q → q.step (maxDepth - base) t = .unexpected →
      Reads base size p (us ++ t :: rest)
        ⟨.error (t.fault q.expectation), us.length, base + q.depth⟩
  | tooDeep {us rest : List Token} {t : Token} {q : Place} :
      p.advance (maxDepth - base) us = some q → q.step (maxDepth - base) t = .tooDeep →
      Reads base size p (us ++ t :: rest)
        ⟨.error (.nestingTooDeep t.span), us.length, base + q.depth + 1⟩
  | exhausted {us : List Token} {q : Place} : p.advance (maxDepth - base) us = some q →
      Reads base size p us ⟨.error (.unexpectedEnd ⟨size, 0⟩ .moreInput), us.length, base + q.depth⟩

section reads

variable {base size : Nat} {reading : Reading} {root : Node}

theorem Reads.cons (hstep : p.step (maxDepth - base) t = .next q)
    (h : Reads base size q ts reading) :
    Reads base size p (t :: ts) { reading with passed := reading.passed + 1 } := by
  cases h with
  | @ok us rest e root hadvance he =>
      exact @Reads.ok _ _ _ (t :: us) rest e root (by rw [advance_cons hstep, hadvance]) he
  | @unexpected us rest u last hadvance hlast =>
      exact @Reads.unexpected _ _ _ (t :: us) rest u last
        (by rw [advance_cons hstep, hadvance]) hlast
  | @tooDeep us rest u last hadvance hlast =>
      exact @Reads.tooDeep _ _ _ (t :: us) rest u last (by rw [advance_cons hstep, hadvance]) hlast
  | exhausted hadvance => exact .exhausted (by rw [advance_cons hstep, hadvance])

/-- Every reading ends in one of these ways. -/
theorem reads_read (base size : Nat) (p : Place) (ts : List Token) :
    Reads base size p ts (p.read base size ts) := by
  induction ts generalizing p with
  | nil => exact .exhausted rfl
  | cons t rest ih =>
      rw [read]
      split
      next q hstep => exact (ih q).cons hstep
      next root hstep =>
        obtain ⟨rfl, ht⟩ := of_step_eq_done hstep
        exact @Reads.ok _ _ _ [] rest t root rfl ht
      next hstep => exact @Reads.unexpected _ _ _ [] rest t p rfl hstep
      next hstep => exact @Reads.tooDeep _ _ _ [] rest t p rfl hstep

/-- A reading succeeds where the tokens lead to a closed root and the text ends behind it. -/
theorem read_eq_ok_iff :
    (p.read base size ts).result = .ok root ↔
      ∃ us e rest, ts = us ++ e :: rest ∧ e.kind = .endOfText ∧
        p.advance (maxDepth - base) us = some (finished root) := by
  constructor
  · intro h
    have hreads := reads_read base size p ts
    generalize p.read base size ts = reading at h hreads
    cases hreads with
    | ok hadvance he =>
        cases h
        exact ⟨_, _, _, rfl, he, hadvance⟩
    | unexpected | tooDeep | exhausted => cases h
  · rintro ⟨us, e, rest, rfl, he, hadvance⟩
    induction us generalizing p with
    | nil =>
        cases hadvance
        rw [List.nil_append, read]
        simp only [step, he]
    | cons t us ih =>
        rw [advance] at hadvance
        split at hadvance
        next q hstep =>
          rw [List.cons_append, read, hstep]
          exact ih hadvance
        next => cases hadvance

end reads

/-- The reader gets over all tokens but the last one of a document, and over nothing else, from the
start to a closed root. -/
theorem advance_eq_finished_iff {e : Token} {root : Node} (he : e.kind = .endOfText) :
    document.advance room us = some (finished root) ↔
      Derives .document (us ++ [e]) root ∧ Node.height root ≤ room := by
  constructor
  · intro h
    have hspells := spells_advance .document h
    rw [List.nil_append] at hspells
    cases hspells with
    | finished hroot hfit => exact ⟨.document hroot he, hfit⟩
  · rintro ⟨hroot, hfit⟩
    obtain ⟨us', e', heq, _, hadvance⟩ := progress_of_derives room hroot hfit
    obtain ⟨rfl, _⟩ := List.append_inj' heq rfl
    exact hadvance

end Place

/-! ## documents -/

/-- The reader returns the root of the one tree that the tokens stand for. -/
theorem readDocument_eq_ok_iff (text : String) (root : Node) :
    readDocument text = .ok root ↔
      Derives .document (significantTokens text) root ∧ root.height ≤ maxDepth := by
  obtain ⟨us, e, heq, he, hus⟩ := significantTokens_eq_append text
  have hread : readDocument text = (Place.document.read 0 (Text.byteSize text.toList)
      (significantTokens text)).result := rfl
  rw [hread, heq, Place.read_eq_ok_iff, ← Place.advance_eq_finished_iff he]
  constructor
  · rintro ⟨us', e', rest, heq', he', hadvance⟩
    obtain ⟨rfl, -⟩ := eq_nil_of_endOfText hus heq' he'
    exact hadvance
  · intro hadvance
    exact ⟨us, e, [], rfl, he, hadvance⟩

/-- Tokens stand for one document at most. -/
theorem document_unique {ts : List Token} {root root' : Node} (h : Derives .document ts root)
    (h' : Derives .document ts root') : root = root' := by
  obtain ⟨us, e, rfl, he, hroot⟩ :=
    Place.progress_of_derives (max root.height root'.height) h (by omega)
  obtain ⟨us', e', heq, -, hroot'⟩ :=
    Place.progress_of_derives (max root.height root'.height) h' (by omega)
  obtain ⟨rfl, -⟩ := List.append_inj' heq rfl
  rw [hroot] at hroot'
  cases hroot'
  rfl

/-- The reader accepts exactly the texts whose tokens can be derived as a document with objects and
arrays at most `maxDepth` deep, and returns the tree that they stand for, the only one. -/
theorem readDocument_accepts_documents (text : String) :
    (∀ root, readDocument text = .ok root ↔
      Derives .document (significantTokens text) root ∧ root.height ≤ maxDepth) ∧
    ∀ root root' : Node, Derives .document (significantTokens text) root →
      Derives .document (significantTokens text) root' → root = root' := by
  refine ⟨fun root => readDocument_eq_ok_iff text root, fun root root' h h' => document_unique h h'⟩

/-- A document with a bare name, a comment, a repeated member and commas at both ends. -/
def lenientText : String := "\x7b on: [true,], /* again */ 'on': null, \x7d"

/-- What `lenientText` stands for. -/
def lenientRoot : Node :=
  .object ⟨0, 40⟩ [
    ⟨"on", ⟨2, 2⟩, .array ⟨6, 7⟩ [.boolean ⟨7, 4⟩ true], false⟩,
    ⟨"on", ⟨27, 4⟩, .null ⟨33, 4⟩, true⟩]

theorem readDocument_accepts_lenientText :
    Derives .document (significantTokens lenientText) lenientRoot ∧ lenientRoot.height ≤ maxDepth ∧
    ∀ root, Derives .document (significantTokens lenientText) root → root = lenientRoot := by
  have haccepts := readDocument_accepts_documents lenientText
  obtain ⟨hderives, hheight⟩ := (haccepts.1 lenientRoot).1 (by with_unfolding_all rfl)
  exact ⟨hderives, hheight, fun root hroot => haccepts.2 root lenientRoot hroot hderives⟩

end Phrasebook
