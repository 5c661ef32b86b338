import Phrasebook.Proofs.Reading
import Phrasebook.Proofs.Spans

/-!
# Phrasebook.Proofs.FirstFault

The reader reports the first token that cannot stand where it stands.

* What stands before the faulty token can still be completed: from every place some tokens lead to a
  closed root (`Place.advance_completion`).
* The faulty token cannot follow: what is accepted takes the reader over it, and the reader has one
  way only.
* Whether a token is out of place or opens one container too many shows when the reader has more
  room: only then is there a step over it.
-/

namespace Phrasebook

open Grammar

/-! ## tokens that open and close -/

namespace Token

/-- Whether a token opens an object or an array. -/
def opens (t : Token) : Bool := t.kind == .openBrace || t.kind == .openBracket

/-- Whether a token closes an object or an array. -/
def closes (t : Token) : Bool := t.kind == .closeBrace || t.kind == .closeBracket

theorem opens_iff {t : Token} : t.opens = true ↔ t.kind = .openBrace ∨ t.kind = .openBracket := by
  rw [opens, Bool.or_eq_true, beq_iff_eq, beq_iff_eq]

theorem closes_eq_false_of_opens {t : Token} (h : t.opens = true) : t.closes = false := by
  obtain hk | hk := opens_iff.1 h <;> rw [closes, hk] <;> rfl

/-- A token that stands in no text. -/
def bare (kind : TokenKind) : Token := ⟨kind, ⟨0, 0⟩⟩

end Token

namespace Place

variable {room more : Nat} {p q : Place} {t : Token} {ts us : List Token}

/-! ## how many containers are open -/

section depth

variable (start : Nat) (ms : List Property) (ns : List Node) (label : String) (span : Span)
  (open_ outer : List Container) (v : Node)

@[simp] theorem depth_name : (name start ms outer).depth = outer.length + 1 := rfl

@[simp] theorem depth_colon : (colon start ms label span outer).depth = outer.length + 1 := rfl

@[simp] theorem depth_value : (value open_).depth = open_.length := rfl

@[simp] theorem depth_memberEnd : (memberEnd start ms outer).depth = outer.length + 1 := rfl

@[simp] theorem depth_elementEnd : (elementEnd start ns outer).depth = outer.length + 1 := rfl

@[simp] theorem depth_afterValue : (afterValue v open_).depth = open_.length := by
  cases open_ with
  | nil => rfl
  | cons container outer => cases container <;> rfl

end depth

/-- A token that opens a container enters it if there is room, or it is out of place however much
room there is. -/
theorem step_of_opens (p : Place) (ht : t.opens = true) :
    (∃ open_ inside, open_.length = p.depth ∧ inside.depth = p.depth + 1 ∧
      ∀ room, p.step room t = enter room open_ inside) ∨ ∀ room, p.step room t = .unexpected := by
  obtain hk | hk := Token.opens_iff.1 ht
  · cases p with
    | document => exact .inl ⟨[], name t.span.offset [] [], rfl, rfl, fun _ => by rw [step, hk]⟩
    | value open_ =>
        exact .inl ⟨open_, name t.span.offset [] open_, rfl, rfl,
          fun _ => by simp only [step, stepValue, hk]⟩
    | name | colon | memberEnd | elementEnd | finished => exact .inr fun _ => by rw [step, hk]
  · cases p with
    | value open_ =>
        exact .inl ⟨open_, value (.array t.span.offset [] :: open_), rfl, rfl,
          fun _ => by simp only [step, stepValue, hk]⟩
    | document | name | colon | memberEnd | elementEnd | finished =>
        exact .inr fun _ => by rw [step, hk]

/-- A step over any other token does not ask for room. -/
theorem step_of_not_opens (ht : t.opens = false) (h : p.step room t = .next q) :
    (∀ room, p.step room t = .next q) ∧ q.depth + (if t.closes then 1 else 0) = p.depth := by
  cases p with
  | document =>
      cases hk : t.kind <;> simp only [step, hk] at h <;> try cases h
      case openBrace => simp [Token.opens, hk] at ht
  | value open_ =>
      cases hk : t.kind <;> simp only [step, stepValue, hk] at h ⊢ <;> try cases h
      case openBrace | openBracket => simp [Token.opens, hk] at ht
      case closeBracket =>
        cases open_ with
        | nil => cases h
        | cons container outer => cases container <;> cases h; simp [Token.closes, hk]
      all_goals simp [Token.closes, hk]
  | name | colon | memberEnd | elementEnd | finished =>
      cases hk : t.kind <;> simp only [step, hk] at h ⊢ <;> cases h <;> simp [Token.closes, hk]

theorem opens_of_step_eq_tooDeep (h : p.step room t = .tooDeep) : t.opens = true := by
  cases p with
  | document =>
      cases hk : t.kind <;> simp only [step, hk] at h <;> try cases h
      case openBrace => simp [Token.opens, hk]
  | value open_ =>
      cases hk : t.kind <;> simp only [step, stepValue, hk] at h <;> try cases h
      case openBrace | openBracket => simp [Token.opens, hk]
      case closeBracket => split at h <;> cases h
  | name | colon | memberEnd | elementEnd | finished =>
      cases hk : t.kind <;> simp only [step, hk] at h <;> cases h

/-- The end of the text leads to no further place. -/
theorem step_endOfText_ne_next (ht : t.kind = .endOfText) : p.step room t ≠ .next q := by
  intro h
  cases p <;> simp only [step, stepValue, ht] at h <;> cases h

theorem depth_step (h : p.step room t = .next q) :
    q.depth + (if t.closes then 1 else 0) = p.depth + (if t.opens then 1 else 0) := by
  cases ht : t.opens with
  | false => simpa [ht] using (step_of_not_opens ht h).2
  | true =>
      obtain ⟨open_, inside, hlength, hdepth, hstep⟩ | hstep := step_of_opens p ht
      · rw [hstep] at h
        obtain ⟨-, rfl⟩ := of_enter h
        simpa [Token.closes_eq_false_of_opens ht] using hdepth
      · rw [hstep] at h
        cases h

theorem depth_step_le (h : p.step room t = .next q) (hp : p.depth ≤ room) : q.depth ≤ room := by
  cases ht : t.opens with
  | false =>
      have hdepth := (step_of_not_opens ht h).2
      omega
  | true =>
      obtain ⟨open_, inside, hlength, hdepth, hstep⟩ | hstep := step_of_opens p ht
      · rw [hstep] at h
        obtain ⟨hroom, rfl⟩ := of_enter h
        omega
      · rw [hstep] at h
        cases h

/-- More room takes no step away. -/
theorem step_mono (h : p.step room t = .next q) (hle : room ≤ more) : p.step more t = .next q := by
  cases ht : t.opens with
  | false => exact (step_of_not_opens ht h).1 more
  | true =>
      obtain ⟨open_, inside, -, -, hstep⟩ | hstep := step_of_opens p ht
      · rw [hstep] at h ⊢
        obtain ⟨hroom, rfl⟩ := of_enter h
        exact enter_of_le (Nat.le_trans hroom hle)
      · rw [hstep] at h
        cases h

/-! ## going over several tokens -/

theorem advance_mono (h : p.advance room ts = some q) (hle : room ≤ more) :
    p.advance more ts = some q := by
  induction ts generalizing p with
  | nil => exact h
  | cons t rest ih =>
      rw [advance] at h
      split at h
      next hstep =>
        rw [advance_cons (step_mono hstep hle)]
        exact ih h
      next => cases h

/-- The containers open behind some tokens are those open before them and those that they open and
do not close. -/
theorem depth_advance (h : p.advance room ts = some q) :
    q.depth + ts.countP Token.closes = p.depth + ts.countP Token.opens := by
  induction ts generalizing p with
  | nil =>
      cases h
      rfl
  | cons t rest ih =>
      rw [advance] at h
      split at h
      next hstep =>
        have hfirst := depth_step hstep
        have hrest := ih h
        rw [List.countP_cons, List.countP_cons]
        omega
      next => cases h

theorem depth_advance_le (h : p.advance room ts = some q) (hp : p.depth ≤ room) :
    q.depth ≤ room := by
  induction ts generalizing p with
  | nil =>
      cases h
      exact hp
  | cons t rest ih =>
      rw [advance] at h
      split at h
      next hstep => exact ih h (depth_step_le hstep hp)
      next => cases h

/-! ## completing what has been read -/

/-- The brace or bracket that closes a container. -/
def closing : Container → Token
  | .object _ _ _ _ => .bare .closeBrace
  | .array _ _ => .bare .closeBracket

/-- The shortest way from a place to a closed root. -/
def completion : Place → List Token
  | document => [.bare .openBrace, .bare .closeBrace]
  | name _ _ outer => .bare .closeBrace :: outer.map closing
  | colon _ _ _ _ outer => .bare .colon :: .bare .null :: .bare .closeBrace :: outer.map closing
  | value open_ => .bare .null :: open_.map closing
  | memberEnd _ _ outer => .bare .closeBrace :: outer.map closing
  | elementEnd _ _ outer => .bare .closeBracket :: outer.map closing
  | finished _ => []

/-- Behind a value, closing all containers leads to a closed root. -/
theorem advance_closing (v : Node) (open_ : List Container) :
    ∃ root, (afterValue v open_).advance room (open_.map closing) = some (finished root) := by
  induction open_ generalizing v with
  | nil => exact ⟨v, rfl⟩
  | cons container outer ih =>
      cases container with
      | object start ms label span =>
          rw [afterValue, List.map_cons, closing, advance_cons (step_memberEnd_close rfl)]
          exact ih _
      | array start ns =>
          rw [afterValue, List.map_cons, closing, advance_cons (step_elementEnd_close rfl)]
          exact ih _

theorem advance_null (open_ : List Container) :
    ∃ root, (value open_).advance room (.bare .null :: open_.map closing) =
      some (finished root) := by
  rw [advance_cons (q := afterValue (.null ⟨0, 0⟩) open_) rfl]
  exact advance_closing _ open_

/-- From every place some tokens lead to a closed root. -/
theorem advance_completion (hroom : 1 ≤ room) (p : Place) :
    ∃ root, p.advance room p.completion = some (finished root) := by
  cases p with
  | document =>
      rw [completion, advance_cons (step_document_open rfl hroom),
        advance_cons (step_name_close rfl)]
      exact ⟨_, rfl⟩
  | name start ms outer =>
      rw [completion, advance_cons (step_name_close rfl)]
      exact advance_closing _ outer
  | colon start ms label span outer =>
      rw [completion, advance_cons (step_colon rfl)]
      exact advance_null (.object start ms label span :: outer)
  | value open_ => exact advance_null open_
  | memberEnd start ms outer =>
      rw [completion, advance_cons (step_memberEnd_close rfl)]
      exact advance_closing _ outer
  | elementEnd start ns outer =>
      rw [completion, advance_cons (step_elementEnd_close rfl)]
      exact advance_closing _ outer
  | finished root => exact ⟨root, rfl⟩

/-- What takes the reader from the start to some place can be completed to a document. -/
theorem derives_completion (hroom : 1 ≤ room) (h : document.advance room ts = some p) :
    ∃ root, Derives .document (ts ++ (p.completion ++ [.bare .endOfText])) root ∧
      Node.height root ≤ room := by
  obtain ⟨root, hroot⟩ := advance_completion hroom p
  rw [← List.append_assoc]
  exact ⟨root, (advance_eq_finished_iff rfl).1 (by rw [advance_append_of_some h, hroot])⟩

/-- What a document begins with leads to a place, and its next token leads on or ends the
reading. -/
theorem step_of_derives {root : Node} (h : Derives .document (ts ++ t :: us) root)
    (hroom : root.height ≤ room) (hp : document.advance room ts = some p) :
    (∃ q, p.step room t = .next q) ∨ p.step room t = .done root := by
  obtain ⟨all, e, heq, he, hadvance⟩ := progress_of_derives room h hroom
  obtain rfl | ⟨rest, last, rfl⟩ := List.eq_nil_or_concat us
  · obtain ⟨rfl, hlast⟩ := List.append_inj' heq rfl
    cases hlast
    rw [hp] at hadvance
    cases hadvance
    exact .inr (by rw [step, he])
  · rw [List.concat_eq_append, ← List.cons_append, ← List.append_assoc] at heq
    obtain ⟨rfl, -⟩ := List.append_inj' heq rfl
    rw [advance_append_of_some hp, advance] at hadvance
    split at hadvance
    next q hstep => exact .inl ⟨q, hstep⟩
    next => cases hadvance

/-! ## where the reading stops -/

/-- The reader never passes the end of the text. -/
theorem advance_endOfText (ht : t.kind = .endOfText) : p.advance room (ts ++ t :: us) = none := by
  rw [advance_append, Option.bind_eq_none_iff]
  intro q _
  rw [advance]
  split
  next hstep => exact absurd hstep (step_endOfText_ne_next ht)
  next => rfl

/-- A reading fails at a token that has no step, or behind all tokens. -/
theorem exists_of_read_eq_error {base size : Nat} {f : Fault}
    (h : (p.read base size ts).result = .error f) :
    (∃ us t rest q, ts = us ++ t :: rest ∧ p.advance (maxDepth - base) us = some q ∧
      (q.step (maxDepth - base) t = .unexpected ∧ f = t.fault q.expectation ∨
        q.step (maxDepth - base) t = .tooDeep ∧ f = .nestingTooDeep t.span)) ∨
    ∃ q, p.advance (maxDepth - base) ts = some q := by
  have hreads := reads_read base size p ts
  generalize p.read base size ts = reading at h hreads
  cases hreads with
  | ok => cases h
  | unexpected hadvance hstep =>
      cases h
      exact .inl ⟨_, _, _, _, rfl, hadvance, .inl ⟨hstep, rfl⟩⟩
  | tooDeep hadvance hstep =>
      cases h
      exact .inl ⟨_, _, _, _, rfl, hadvance, .inr ⟨hstep, rfl⟩⟩
  | exhausted hadvance => exact .inr ⟨_, hadvance⟩

end Place

/-! ## what a fault says -/

/-- The grammar accepts tokens as a document with objects and arrays at most `maxDepth` deep. -/
def Grammar.Accepted (ts : List Token) : Prop :=
  ∃ root, Derives .document ts root ∧ Node.height root ≤ maxDepth

/-- Behind the tokens `before`, the token `t` opens an object or an array in a place where the
grammar, which does not count levels, has one; and as many are open already as may be. -/
structure OpensTooDeep (before : List Token) (t : Token) : Prop where
  opens : t.opens = true
  inPlace : ∃ rest root, Derives .document (before ++ t :: rest) root
  level : before.countP Token.opens = before.countP Token.closes + maxDepth

/-- A fault is that of a token of this kind which is out of place. -/
def Fault.Tells (f : Fault) (t : Token) : Prop :=
  match t.kind with
  | .endOfText => ∃ expected, f = .unexpectedEnd t.span expected
  | .unterminatedString => f = .unterminatedString t.span
  | .unterminatedComment => f = .unterminatedComment t.span
  | .invalidEscape sequence => f = .invalidEscape t.span sequence
  | _ => ∃ expected, f = .unexpectedToken t.span expected

theorem tells_fault (t : Token) (expected : Expectation) : (t.fault expected).Tells t := by
  cases hk : t.kind <;> simp [Token.fault, Fault.Tells, hk]

theorem span_fault (t : Token) (expected : Expectation) : (t.fault expected).span = t.span := by
  unfold Token.fault
  split <;> rfl

theorem fault_ne_nestingTooDeep (t : Token) (expected : Expectation) (span : Span) :
    t.fault expected ≠ .nestingTooDeep span := by
  unfold Token.fault
  split <;> exact Fault.noConfusion

theorem kind_of_fault_eq_unexpectedEnd {t : Token} {expected expected' : Expectation} {span : Span}
    (h : t.fault expected = .unexpectedEnd span expected') : t.kind = .endOfText := by
  cases hk : t.kind <;> simp [Token.fault, hk] at h ⊢

/-- The token `t` behind the tokens `before` is the first with which no document begins, and the
fault says what is wrong with it. -/
structure FirstFault (before : List Token) (t : Token) (f : Fault) : Prop where
  span : f.span = t.span
  completable : ∃ u rest, Accepted (before ++ u :: rest)
  impossible : ∀ rest, ¬ Accepted (before ++ t :: rest)
  tooDeep : (∃ span, f = .nestingTooDeep span) ↔ OpensTooDeep before t
  outOfPlace : ¬ OpensTooDeep before t → f.Tells t

section firstFault

variable {before : List Token} {p : Place} {t : Token}

theorem completable_of_advance (h : Place.document.advance maxDepth before = some p) :
    ∃ u rest, Accepted (before ++ u :: rest) := by
  obtain ⟨root, hroot, hheight⟩ := Place.derives_completion (by decide) h
  cases hrest : p.completion ++ [Token.bare .endOfText] with
  | nil => exact absurd hrest (by simp)
  | cons u rest => exact ⟨u, rest, root, hrest ▸ hroot, hheight⟩

theorem not_accepted_of_step (h : Place.document.advance maxDepth before = some p)
    (hnext : ∀ q, p.step maxDepth t ≠ .next q) (hdone : ∀ root, p.step maxDepth t ≠ .done root)
    (rest : List Token) : ¬ Accepted (before ++ t :: rest) := by
  rintro ⟨root, hroot, hheight⟩
  obtain ⟨q, hstep⟩ | hstep := Place.step_of_derives hroot hheight h
  · exact hnext q hstep
  · exact hdone root hstep

/-- A container is one too many where the reader has no room for it: with more room it could go
on. -/
theorem opensTooDeep_of_step (h : Place.document.advance maxDepth before = some p)
    (hstep : p.step maxDepth t = .tooDeep) : OpensTooDeep before t := by
  have hopens := Place.opens_of_step_eq_tooDeep hstep
  obtain ⟨open_, inside, hlength, hdepth, henter⟩ | hout := Place.step_of_opens p hopens
  · have hle := Place.depth_advance_le h (Nat.zero_le _)
    have hfull : open_.length = maxDepth := by
      rw [henter, Place.enter] at hstep
      split at hstep
      · omega
      · cases hstep
    refine ⟨hopens, ?_, ?_⟩
    · have hmore : Place.document.advance (maxDepth + 1) (before ++ [t]) = some inside := by
        rw [Place.advance_append_of_some (Place.advance_mono h (Nat.le_succ _)),
          Place.advance_cons (by rw [henter, Place.enter_of_le (by omega)])]
        rfl
      obtain ⟨root, hroot, -⟩ := Place.derives_completion (by decide) hmore
      rw [List.append_assoc] at hroot
      exact ⟨_, root, hroot⟩
    · have hcount := Place.depth_advance h
      have hzero : Place.document.depth = 0 := rfl
      omega
  · rw [hout] at hstep
    cases hstep

theorem step_of_opensTooDeep (h : Place.document.advance maxDepth before = some p)
    (hdeep : OpensTooDeep before t) : p.step maxDepth t = .tooDeep := by
  obtain ⟨hopens, ⟨rest, root, hroot⟩, hlevel⟩ := hdeep
  obtain ⟨open_, inside, hlength, hdepth, henter⟩ | hout := Place.step_of_opens p hopens
  · have hcount := Place.depth_advance h
    have hzero : Place.document.depth = 0 := rfl
    rw [henter, Place.enter, if_pos (by omega)]
  · -- out of place, however much room there is, although a document goes on here
    have hmore := Place.advance_mono h (Nat.le_max_left maxDepth root.height)
    obtain ⟨q, hstep⟩ | hstep := Place.step_of_derives hroot (Nat.le_max_right _ _) hmore
    · rw [hout] at hstep
      cases hstep
    · rw [hout] at hstep
      cases hstep

theorem firstFault_of_unexpected (h : Place.document.advance maxDepth before = some p)
    (hstep : p.step maxDepth t = .unexpected) : FirstFault before t (t.fault p.expectation) where
  span := span_fault t _
  completable := completable_of_advance h
  impossible := not_accepted_of_step h (by simp [hstep]) (by simp [hstep])
  tooDeep := by
    constructor
    · rintro ⟨span, hspan⟩
      exact absurd hspan (fault_ne_nestingTooDeep t _ span)
    · intro hdeep
      rw [step_of_opensTooDeep h hdeep] at hstep
      cases hstep
  outOfPlace _ := tells_fault t _

theorem firstFault_of_tooDeep (h : Place.document.advance maxDepth before = some p)
    (hstep : p.step maxDepth t = .tooDeep) : FirstFault before t (.nestingTooDeep t.span) where
  span := rfl
  completable := completable_of_advance h
  impossible := not_accepted_of_step h (by simp [hstep]) (by simp [hstep])
  tooDeep := iff_of_true ⟨_, rfl⟩ (opensTooDeep_of_step h hstep)
  outOfPlace hnot := absurd (opensTooDeep_of_step h hstep) hnot

end firstFault

/-- Where a text is no document, the reading fails at one of its tokens. -/
theorem exists_of_readDocument_eq_error {text : String} {f : Fault}
    (h : readDocument text = .error f) :
    ∃ before t behind p, significantTokens text = before ++ t :: behind ∧
      Place.document.advance maxDepth before = some p ∧
      (p.step maxDepth t = .unexpected ∧ f = t.fault p.expectation ∨
        p.step maxDepth t = .tooDeep ∧ f = .nestingTooDeep t.span) := by
  have hread : (Place.document.read 0 (Text.byteSize text.toList) (significantTokens text)).result =
      .error f := h
  obtain ⟨before, t, behind, p, heq, hadvance, hfault⟩ | ⟨p, hall⟩ :=
    Place.exists_of_read_eq_error hread
  · exact ⟨before, t, behind, p, heq, hadvance, hfault⟩
  · obtain ⟨us, e, heq, he, -⟩ := significantTokens_eq_append text
    rw [heq, Place.advance_endOfText he] at hall
    cases hall

/-- A fault stands where one of the tokens does. -/
theorem exists_span_of_readDocument_eq_error {text : String} {f : Fault}
    (h : readDocument text = .error f) :
    ∃ t ∈ significantTokens text, f.span = t.span := by
  obtain ⟨before, t, behind, p, heq, -, hfault⟩ := exists_of_readDocument_eq_error h
  refine ⟨t, by rw [heq]; simp, ?_⟩
  obtain ⟨-, rfl⟩ | ⟨-, rfl⟩ := hfault
  · exact span_fault t _
  · rfl

/-- **A fault is at the first impossible token**: where a text is no document, the fault stands at
the one token of the text up to which, and not before, it is clear that no document begins like
this.  Where this is the end of the text, the fault stands behind all characters. -/
theorem readDocument_refuses_first_impossible (text : String) (f : Fault)
    (h : readDocument text = .error f) :
    ∃ before t behind, significantTokens text = before ++ t :: behind ∧
      (∀ u ∈ before ++ behind, u.span ≠ t.span) ∧ FirstFault before t f ∧
      ∀ span expected, f = .unexpectedEnd span expected →
        t.kind = .endOfText ∧ span = ⟨Text.byteSize text.toList, 0⟩ := by
  obtain ⟨before, t, behind, p, heq, hadvance, hfault⟩ := exists_of_readDocument_eq_error h
  have hfirst : FirstFault before t f := by
    obtain ⟨hstep, rfl⟩ | ⟨hstep, rfl⟩ := hfault
    · exact firstFault_of_unexpected hadvance hstep
    · exact firstFault_of_tooDeep hadvance hstep
  refine ⟨before, t, behind, heq, ?_, hfirst, ?_⟩
  · have hne := pairwise_span_ne text
    rw [heq, List.pairwise_append, List.pairwise_cons] at hne
    obtain ⟨-, ⟨hbehind, -⟩, hbefore⟩ := hne
    intro u hu
    obtain hu | hu := List.mem_append.1 hu
    · exact hbefore u hu t List.mem_cons_self
    · exact (hbehind u hu).symm
  · rintro span expected rfl
    have hend : t.kind = .endOfText := by
      obtain ⟨-, hfault⟩ | ⟨-, hfault⟩ := hfault
      · exact kind_of_fault_eq_unexpectedEnd hfault.symm
      · cases hfault
    refine ⟨hend, ?_⟩
    have hspan : span = t.span := hfirst.span
    rw [hspan]
    exact (inOrder_significantTokens text).ends t (by rw [heq]; simp) hend

/-- An array whose elements lack a comma. -/
def commalessText : String := "\x7ba: [1, 'b' /* no comma */ \x7b\x7d,],\x7d"

theorem readDocument_refuses_commalessText :
    readDocument commalessText = .error (.unexpectedToken ⟨27, 1⟩ .elementEnd) ∧
    ∃ before t behind, significantTokens commalessText = before ++ t :: behind ∧
      (∀ u ∈ before ++ behind, u.span ≠ t.span) ∧
      FirstFault before t (.unexpectedToken ⟨27, 1⟩ .elementEnd) ∧
      ∀ span expected, Fault.unexpectedToken ⟨27, 1⟩ .elementEnd = .unexpectedEnd span expected →
        t.kind = .endOfText ∧ span = ⟨Text.byteSize commalessText.toList, 0⟩ := by
  have hread : readDocument commalessText = .error (.unexpectedToken ⟨27, 1⟩ .elementEnd) := by
    with_unfolding_all rfl
  exact ⟨hread, readDocument_refuses_first_impossible commalessText _ hread⟩

end Phrasebook
