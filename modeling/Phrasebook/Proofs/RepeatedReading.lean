import Mathlib.Order.Monotone.Basic
import Phrasebook.Proofs.FirstFault

/-!
# Phrasebook.Proofs.RepeatedReading

What becomes of a reader that is asked again and again.

A reader counts the containers that are open and gives up counting where it fails, so a later
reading starts among tokens, and at a depth, that an earlier one has left.  What one reading does
from there:

* behind all tokens it asks for more input and changes nothing (`Reader.Within.read_of_exhausted`);
* before the end it passes all tokens and leaves the depth alone, or it stops before the token that
  its fault names, and counts the brackets that it has opened and not closed
  (`Reader.Within.read_cases`).

Any number of readings keeps the reader among the tokens of its text (`Reader.within_after`), so
this is what each of them does.
-/

namespace Phrasebook

open Text

/-! ## the brackets that are open -/

/-- The brackets that are open behind a token, the innermost first, where `open_` are those before
it. -/
def Token.nest (open_ : List Token) (t : Token) : List Token :=
  if t.opens then t :: open_ else if t.closes then open_.tail else open_

/-- The brackets that some tokens open and do not close, the innermost first. -/
def leftOpen (ts : List Token) : List Token := ts.foldl Token.nest []

namespace Place

variable {room : Nat} {p q : Place} {t : Token} {ts open_ : List Token}

theorem length_nest (h : p.step room t = .next q) (hopen : open_.length = p.depth) :
    (Token.nest open_ t).length = q.depth := by
  have hdepth := depth_step h
  rw [Token.nest]
  split
  next ht =>
    rw [Token.closes_eq_false_of_opens ht, ht] at hdepth
    simpa [hopen] using hdepth.symm
  next ht =>
    rw [if_neg ht] at hdepth
    split
    next hc =>
      rw [if_pos hc] at hdepth
      rw [List.length_tail]
      omega
    next hc =>
      rw [if_neg hc] at hdepth
      omega

theorem length_foldl_nest (h : p.advance room ts = some q) (hopen : open_.length = p.depth) :
    (ts.foldl Token.nest open_).length = q.depth := by
  induction ts generalizing p open_ with
  | nil =>
      cases h
      exact hopen
  | cons t rest ih =>
      rw [advance] at h
      split at h
      next hstep => exact ih h (length_nest hstep hopen)
      next => cases h

/-- As many containers are open as the tokens of a document have opened and not closed. -/
theorem length_leftOpen (h : document.advance room ts = some q) : (leftOpen ts).length = q.depth :=
  length_foldl_nest h rfl

end Place

/-! ## the token that a fault names -/

/-- A fault is that of this token: the token opens one level too many, or it is out of place. -/
def Fault.Blames (f : Fault) (t : Token) : Prop :=
  f = .nestingTooDeep t.span ∧ t.opens = true ∨ f.Tells t

/-- No token makes the reader ask for more input. -/
theorem fault_ne_moreInput (t : Token) (p : Place) (span : Span) :
    t.fault p.expectation ≠ .unexpectedEnd span .moreInput := by
  have hne : p.expectation ≠ .moreInput := by cases p <;> exact Expectation.noConfusion
  cases hk : t.kind <;> simp [Token.fault, hk, hne]

/-- At least the end of the text is a token of it. -/
theorem length_significantTokens_pos (text : String) : 0 < (significantTokens text).length := by
  obtain ⟨us, e, heq, -⟩ := significantTokens_eq_append text
  rw [heq]
  simp

/-- The span of a token tells where among the tokens of the text it is. -/
theorem span_eq_span_iff {text : String} {i j : Nat} {t u : Token}
    (ht : (significantTokens text)[i]? = some t) (hu : (significantTokens text)[j]? = some u) :
    u.span = t.span ↔ j = i := by
  have hne := List.pairwise_iff_getElem.1 (pairwise_span_ne text)
  obtain ⟨hi, rfl⟩ := List.getElem?_eq_some_iff.1 ht
  obtain ⟨hj, rfl⟩ := List.getElem?_eq_some_iff.1 hu
  constructor
  · intro hspan
    obtain hlt | heq | hlt := Nat.lt_trichotomy j i
    · exact absurd hspan (hne j i hj hi hlt)
    · exact heq
    · exact absurd hspan.symm (hne i j hi hj hlt)
  · rintro rfl
    rfl

namespace Reader

variable {text : String} {r : Reader} {f : Fault} {passed : List Token} {t : Token}

/-! ## one reading -/

/-- Where a reader stands among the tokens of a text. -/
structure Within (text : String) (r : Reader) : Prop where
  tokens : r.tokens = significantTokens text
  size : r.size = byteSize text.toList
  position : r.position ≤ (significantTokens text).length

theorem within_ofString (text : String) : (ofString text).Within text := ⟨rfl, rfl, Nat.zero_le _⟩

/-- What a reading that fails with `f` leaves behind: it has passed some tokens, and stands before
the one that the fault names. -/
structure Refuses (r : Reader) (f : Fault) (passed : List Token) (t : Token) : Prop where
  result : r.read.1 = .error f
  /-- The reader has not looked behind the end of the text. -/
  inside : ∀ span, f ≠ .unexpectedEnd span .moreInput
  ahead : ∃ behind, r.tokens.drop r.position = passed ++ t :: behind
  blames : f.Blames t
  /-- The reader stands where the span of the fault is, and there only. -/
  names : ∀ i u, r.tokens[i]? = some u → (u.span = f.span ↔ i = r.read.2.position)
  position : r.read.2.position = r.position + passed.length
  /-- The level that is one too many counts, although its bracket is not passed. -/
  depth : r.read.2.depth =
    r.depth + (leftOpen passed).length + if f = .nestingTooDeep t.span then 1 else 0

/-- Behind all tokens a reader asks for more input, and stays as it is. -/
theorem Within.read_of_exhausted (h : r.Within text)
    (hall : r.position = (significantTokens text).length) :
    r.read = (.error (.unexpectedEnd ⟨byteSize text.toList, 0⟩ .moreInput), r) := by
  rw [← h.size, Reader.read, hall, h.tokens, List.drop_length, ← hall, ← h.tokens]
  rfl

/-- The tokens before a reader are some that are not the end of the text, and the end of the
text. -/
theorem Within.drop_position (h : r.Within text)
    (hlt : r.position < (significantTokens text).length) :
    ∃ us e, r.tokens.drop r.position = us ++ [e] ∧ e.kind = .endOfText ∧
      ∀ u ∈ us, u.kind ≠ .endOfText := by
  obtain ⟨us, e, heq, he, hus⟩ := significantTokens_eq_append text
  rw [heq, List.length_append, List.length_singleton] at hlt
  refine ⟨us.drop r.position, e, ?_, he, fun u hu => hus u (List.mem_of_mem_drop hu)⟩
  rw [h.tokens, heq, List.drop_append_of_le_length (by omega)]

/-- The span of a token ahead of a reader tells where it is. -/
theorem Within.span_eq_iff {behind : List Token} {i : Nat} {u : Token} (h : r.Within text)
    (hahead : r.tokens.drop r.position = passed ++ t :: behind) (hu : r.tokens[i]? = some u) :
    u.span = t.span ↔ i = r.position + passed.length := by
  have ht : r.tokens[r.position + passed.length]? = some t := by
    rw [← List.getElem?_drop, hahead]
    simp
  rw [h.tokens] at ht hu
  exact span_eq_span_iff ht hu

theorem Within.refuses {room : Nat} {q : Place} {behind : List Token} (h : r.Within text)
    (hahead : r.tokens.drop r.position = passed ++ t :: behind)
    (hadvance : Place.document.advance room passed = some q) (hspan : f.span = t.span)
    (hblames : f.Blames t) (hinside : ∀ span, f ≠ .unexpectedEnd span .moreInput)
    (hread : r.read = (.error f, { r with
      position := r.position + passed.length
      depth := r.depth + q.depth + if f = .nestingTooDeep t.span then 1 else 0 })) :
    r.Refuses f passed t where
  result := by rw [hread]
  inside := hinside
  ahead := ⟨behind, hahead⟩
  blames := hblames
  names i u hu := by
    rw [hspan, hread]
    exact h.span_eq_iff hahead hu
  position := by rw [hread]
  depth := by rw [hread, Place.length_leftOpen hadvance]

/-- **One reading where tokens remain** passes all of them, or stops before the token that its fault
names. -/
theorem Within.read_cases (h : r.Within text) (hlt : r.position < (significantTokens text).length) :
    (∃ root, r.read = (.ok root, { r with position := (significantTokens text).length })) ∨
      ∃ f passed t, r.Refuses f passed t := by
  obtain ⟨us, e, hdrop, he, hus⟩ := h.drop_position hlt
  have hreads := Place.reads_read r.depth r.size .document (r.tokens.drop r.position)
  generalize hts : r.tokens.drop r.position = ts at hreads
  generalize hreading : Place.document.read r.depth r.size ts = reading at hreads
  have hread : r.read = (reading.result,
      { r with position := r.position + reading.passed, depth := reading.depth }) := by
    rw [read, hts, hreading]
  cases hreads with
  | @ok front rest last root hadvance hlast =>
      obtain ⟨rfl, rfl⟩ := eq_nil_of_endOfText hus (hdrop.symm.trans hts) hlast
      have hlength := congrArg List.length hts
      rw [h.tokens, List.length_drop, List.length_append, List.length_singleton] at hlength
      refine .inl ⟨root, ?_⟩
      rw [hread, show r.position + (us.length + 1) = (significantTokens text).length by omega]
  | @unexpected front rest u q hadvance hstep =>
      refine .inr ⟨_, front, u, h.refuses hts hadvance (span_fault u _) (.inr (tells_fault u _))
        (fault_ne_moreInput u q) ?_⟩
      rw [hread, if_neg (fault_ne_nestingTooDeep u _ _)]
      rfl
  | @tooDeep front rest u q hadvance hstep =>
      have hopens := Place.opens_of_step_eq_tooDeep hstep
      refine .inr ⟨_, front, u, h.refuses hts hadvance rfl (.inl ⟨rfl, hopens⟩)
        (fun _ => Fault.noConfusion) ?_⟩
      rw [hread, if_pos rfl]
  | exhausted hadvance =>
      -- the reader would have passed the end of the text
      rw [← hts, hdrop, Place.advance_endOfText he] at hadvance
      cases hadvance

/-- A reading that succeeds leaves no tokens. -/
theorem Within.read_of_ok {root : Node} (h : r.Within text) (hok : r.read.1 = .ok root) :
    r.read.2 = { r with position := (significantTokens text).length } := by
  obtain hall | hlt := Nat.eq_or_lt_of_le h.position
  · rw [h.read_of_exhausted hall] at hok
    cases hok
  · obtain ⟨root, hread⟩ | ⟨f, passed, t, hrefuses⟩ := h.read_cases hlt
    · rw [hread]
    · rw [hrefuses.result] at hok
      cases hok

/-- A reading that fails where tokens remain stops before one of them. -/
theorem Within.refuses_of_error (h : r.Within text) (herror : r.read.1 = .error f)
    (hlt : r.position < (significantTokens text).length) : ∃ passed t, r.Refuses f passed t := by
  obtain ⟨root, hread⟩ | ⟨f', passed, t, hrefuses⟩ := h.read_cases hlt
  · rw [hread] at herror
    cases herror
  · rw [hrefuses.result] at herror
    cases herror
    exact ⟨passed, t, hrefuses⟩

theorem Within.position_lt (h : r.Within text) (hrefuses : r.Refuses f passed t) :
    r.read.2.position < (significantTokens text).length := by
  obtain ⟨behind, hahead⟩ := hrefuses.ahead
  have hlength := congrArg List.length hahead
  rw [h.tokens, List.length_drop, List.length_append, List.length_cons] at hlength
  rw [hrefuses.position]
  omega

/-- A reading keeps the reader among the tokens. -/
theorem Within.read (h : r.Within text) : r.read.2.Within text where
  tokens := h.tokens
  size := h.size
  position := by
    obtain hall | hlt := Nat.eq_or_lt_of_le h.position
    · rw [h.read_of_exhausted hall]
      exact h.position
    · obtain ⟨root, hread⟩ | ⟨f, passed, t, hrefuses⟩ := h.read_cases hlt
      · rw [hread]
      · exact Nat.le_of_lt (h.position_lt hrefuses)

/-! ## any number of readings -/

/-- The reader behind so many readings. -/
def after (r : Reader) (count : Nat) : Reader := (fun r => r.read.2)^[count] r

theorem after_succ (r : Reader) (count : Nat) : r.after (count + 1) = (r.after count).read.2 :=
  Function.iterate_succ_apply' _ _ _

theorem after_add (r : Reader) (more count : Nat) :
    r.after (more + count) = (r.after count).after more :=
  Function.iterate_add_apply _ _ _ _

/-- What several readings give is what each of them gives, behind those before it. -/
theorem readMany_eq_map (r : Reader) (count : Nat) :
    r.readMany count = (List.range count).map fun n => (r.after n).read.1 := by
  induction count generalizing r with
  | zero => rfl
  | succ count ih =>
      rw [readMany, ih, List.range_succ_eq_map, List.map_cons, List.map_map]
      rfl

theorem within_after (text : String) (count : Nat) : ((ofString text).after count).Within text := by
  induction count with
  | zero => exact within_ofString text
  | succ count ih =>
      rw [after_succ]
      exact ih.read

/-- A reader that has passed all tokens stays as it is. -/
theorem Within.after_of_exhausted (h : r.Within text)
    (hall : r.position = (significantTokens text).length) (count : Nat) : r.after count = r := by
  refine Function.iterate_fixed ?_ count
  rw [h.read_of_exhausted hall]

/-- **Readings resume where one fails**: over any number of readings of a text, the reader never
goes back and never leaves the tokens.  A reading that succeeds leaves the depth alone and all
tokens behind, so that every later one asks for more input and changes nothing.  One that fails
where tokens remain leaves the reader before the token that the fault names, with the brackets
counted that it has opened and not closed, and one more where the nesting is too deep.  The first
reading never looks behind the end of the text. -/
theorem repeated_readings_resume (text : String) :
    Monotone (fun count => ((ofString text).after count).position) ∧
    (∀ count, ((ofString text).after count).tokens = significantTokens text ∧
      ((ofString text).after count).position ≤ (significantTokens text).length) ∧
    (∀ count root, ((ofString text).after count).read.1 = .ok root →
      ((ofString text).after (count + 1)).depth = ((ofString text).after count).depth ∧
      ((ofString text).after (count + 1)).position = (significantTokens text).length ∧
      ∀ later, count < later → ((ofString text).after later).read =
        (.error (.unexpectedEnd ⟨byteSize text.toList, 0⟩ .moreInput),
          (ofString text).after later)) ∧
    (∀ count f, ((ofString text).after count).read.1 = .error f →
      ((ofString text).after count).position < (significantTokens text).length →
      ∃ passed t, ((ofString text).after count).Refuses f passed t) ∧
    ∀ span, (ofString text).read.1 ≠ .error (.unexpectedEnd span .moreInput) := by
  have hwithin := within_after text
  refine ⟨?_, fun count => ⟨(hwithin count).tokens, (hwithin count).position⟩, ?_, ?_, ?_⟩
  · refine monotone_nat_of_le_succ fun count => ?_
    rw [after_succ]
    exact Nat.le_add_right _ _
  · intro count root hok
    have hread := (hwithin count).read_of_ok hok
    rw [← after_succ] at hread
    have hall : ((ofString text).after (count + 1)).position = (significantTokens text).length := by
      rw [hread]
    refine ⟨by rw [hread], hall, fun later hlater => ?_⟩
    obtain ⟨more, rfl⟩ := Nat.exists_eq_add_of_le' (Nat.succ_le_of_lt hlater)
    rw [after_add, (hwithin (count + 1)).after_of_exhausted hall,
      (hwithin (count + 1)).read_of_exhausted hall]
  · intro count f herror hlt
    exact (hwithin count).refuses_of_error herror hlt
  · intro span herror
    obtain ⟨passed, t, hrefuses⟩ := (within_ofString text).refuses_of_error herror
      (length_significantTokens_pos text)
    exact hrefuses.inside span rfl

/-- Brackets that are left open, and a colon that is missing before an object. -/
def brokenOffText : String := "\x7ba: [\x7bb \x7b\x7d"

theorem repeated_readings_resume_brokenOffText :
    let r := ofString brokenOffText
    r.read.1 = .error (.unexpectedToken ⟨8, 1⟩ .colon) ∧
    (∃ passed t, r.Refuses (.unexpectedToken ⟨8, 1⟩ .colon) passed t) ∧
    (r.after 1).read.1 = .ok (.object ⟨8, 2⟩ []) ∧ (r.after 2).depth = (r.after 1).depth ∧
    ∀ later, 1 < later →
      (r.after later).read = (.error (.unexpectedEnd ⟨10, 0⟩ .moreInput), r.after later) := by
  intro r
  obtain ⟨-, -, hok, hrefuses, -⟩ := repeated_readings_resume brokenOffText
  have hfirst : r.read.1 = .error (.unexpectedToken ⟨8, 1⟩ .colon) := by
    with_unfolding_all rfl
  have hsecond : (r.after 1).read.1 = .ok (.object ⟨8, 2⟩ []) := by
    with_unfolding_all rfl
  obtain ⟨hdepth, -, hlater⟩ := hok 1 _ hsecond
  exact ⟨hfirst, hrefuses 0 _ hfirst (length_significantTokens_pos _), hsecond, hdepth, hlater⟩

end Reader

end Phrasebook
