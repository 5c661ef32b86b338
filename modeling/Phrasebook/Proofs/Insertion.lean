import Phrasebook.Proofs.Excerpts
import Phrasebook.Proofs.Lexemes

/-!
# Phrasebook.Proofs.Insertion

Blanks and comments between the tokens of a document change nothing but places.

`insertAt text place piece` puts a piece into a text.  Where a token ends or begins
(`BetweenTokens`), blanks may be inserted, and a block comment too, unless a line comment ends there
(`Filler`).

1. A filler is read as no significant token: from behind it on, the same tokens follow as without it
   (`Filler.skipped`).
2. The tokens before it stay as they are.  Only blanks or a line comment could take it in, and both
   take no significant token with it (`skipped_behind_trivia`).
3. So the significant tokens are the same ones, those from the place on moved
   (`significantTokens_insertAt`), and the document is the same tree.
-/

namespace Phrasebook

open Text TokenKind Grammar

/-! ## fillers -/

/-- A text with a piece put in at a byte offset. -/
def insertAt (text : String) (place : Nat) (piece : String) : String :=
  String.ofList (takeBytes place text.toList ++ piece.toList ++ dropBytes place text.toList)

/-- A place between two consecutive tokens of a text, or at one of its ends. -/
inductive BetweenTokens (text : String) : Nat → Prop where
  | start : BetweenTokens text 0
  | between {front back : List Token} {t u : Token} :
      tokenize text = front ++ t :: u :: back → BetweenTokens text t.span.stop
  | stop : BetweenTokens text (byteSize text.toList)

/-- The token that ends at a place begins with two slashes: it is a line comment. -/
def EndsLineComment (text : String) (place : Nat) : Prop :=
  ∃ t ∈ tokenize text, t.span.stop = place ∧ ['/', '/'] <+: (t.span.cut text).toList

instance (text : String) (place : Nat) : Decidable (EndsLineComment text place) :=
  inferInstanceAs (Decidable (∃ t ∈ tokenize text, _))

/-- What may be put in at a place of a text: blanks, and a block comment unless a line comment ends
there. -/
inductive Filler (text : String) (place : Nat) : List Char → Prop where
  | blanks {w : List Char} : (∀ c ∈ w, isBlank c = true) → Filler text place w
  | blockComment {body : List Char} :
      ¬ EndsLineComment text place → CommentBody body →
      Filler text place ('/' :: '*' :: (body ++ ['*', '/']))

/-- A span in a text where room is made at a place.  Its start moves if it is the place or lies
behind it, its end if it lies behind the place. -/
def Span.makeRoom (place bytes : Nat) (s : Span) : Span :=
  .between (if place ≤ s.offset then s.offset + bytes else s.offset)
    (if place < s.stop then s.stop + bytes else s.stop)

/-- A token in a text where room is made at a place: it moves if it starts at the place or
behind. -/
def Token.makeRoom (place bytes : Nat) (t : Token) : Token :=
  if place ≤ t.span.offset then ⟨t.kind, t.span.shift bytes⟩ else t

/-! ## what is skipped -/

/-- The significant tokens from an offset on. -/
def significantFrom (offset : Nat) (s : List Char) : List Token :=
  (Cursor.mk offset s).tokens.filter (!·.isTrivia)

section skipped

variable {text : String} {place offset : Nat} {kind : TokenKind} {s w body behind : List Char}

theorem significantFrom_of_lexes {stretch : List Char} {ts : List Token}
    (h : Lexes behind offset stretch ts) :
    significantFrom offset (stretch ++ behind) =
      ts.filter (!·.isTrivia) ++ significantFrom (offset + byteSize stretch) behind := by
  rw [significantFrom, h.tokens_eq, List.filter_append, significantFrom]

/-- A trivial token is skipped. -/
theorem significantFrom_of_lexeme (h : Lexeme kind s behind)
    (hkind : kind.isTrivia = true) (offset : Nat) :
    significantFrom offset (s ++ behind) = significantFrom (offset + byteSize s) behind := by
  obtain ⟨c, taken, rfl⟩ := List.exists_cons_of_ne_nil h.ne_nil
  rw [significantFrom, tokens_of_scan (scan_of_lexeme h)]
  exact List.filter_cons_of_neg (by simp [Token.isTrivia, hkind])

/-- Blanks in front are skipped. -/
theorem significantFrom_dropWhile (offset : Nat) (s : List Char) :
    significantFrom offset s =
      significantFrom (offset + byteSize (s.takeWhile isBlank)) (s.dropWhile isBlank) := by
  by_cases hnone : s.takeWhile isBlank = []
  · have hdrop := @List.takeWhile_append_dropWhile _ isBlank s
    rw [hnone, List.nil_append] at hdrop
    rw [hnone, hdrop, byteSize_nil, Nat.add_zero]
  · have hblank : Lexeme .blank (s.takeWhile isBlank) (s.dropWhile isBlank) :=
      .blank hnone (List.all_eq_true.1 List.all_takeWhile) (head?_dropWhile_not s)
    have hskipped := significantFrom_of_lexeme hblank rfl offset
    rwa [List.takeWhile_append_dropWhile] at hskipped

/-- Blanks are skipped, whatever stands behind them. -/
theorem significantFrom_blanks (h : ∀ c ∈ w, isBlank c = true) (offset : Nat) (s : List Char) :
    significantFrom offset (w ++ s) = significantFrom (offset + byteSize w) s := by
  rw [significantFrom_dropWhile, List.takeWhile_append_of_pos h, List.dropWhile_append_of_pos h,
    byteSize_append, ← Nat.add_assoc, ← significantFrom_dropWhile]

/-- A filler is skipped, where a token begins. -/
theorem Filler.skipped (h : Filler text place w) (offset : Nat) (s : List Char) :
    significantFrom offset (w ++ s) = significantFrom (offset + byteSize w) s := by
  cases h with
  | blanks hblank => exact significantFrom_blanks hblank offset s
  | blockComment _ hbody => exact significantFrom_of_lexeme (.blockComment hbody) rfl offset

/-- Blanks behind a line comment belong to it up to the first line feed, and are skipped with it. -/
theorem significantFrom_lineComment (hbody : '\n' ∉ body) (hbehind : EndsBefore (· != '\n') behind)
    (hw : ∀ c ∈ w, isBlank c = true) (offset : Nat) :
    significantFrom offset ('/' :: '/' :: body ++ (w ++ behind)) =
      significantFrom (offset + byteSize ('/' :: '/' :: body) + byteSize w) behind := by
  obtain ⟨hline, hrest⟩ := exists_line w
  have hsplit := @List.takeWhile_append_dropWhile _ (· != '\n') w
  generalize w.takeWhile (· != '\n') = taken at hline hsplit
  generalize w.dropWhile (· != '\n') = left at hrest hsplit
  subst hsplit
  have hends : EndsBefore (· != '\n') (left ++ behind) := by
    cases left with
    | nil => exact hbehind
    | cons c left => exact hrest
  have hcomment : Lexeme _ ('/' :: '/' :: (body ++ taken)) (left ++ behind) :=
    .lineComment (fun hmem => (List.mem_append.1 hmem).elim hbody hline) hends
  have hskipped := significantFrom_of_lexeme hcomment rfl offset
  rw [significantFrom_blanks fun c hc => hw c (List.mem_append_right _ hc)] at hskipped
  have htext : '/' :: '/' :: (body ++ taken) ++ (left ++ behind) =
      '/' :: '/' :: body ++ (taken ++ left ++ behind) := by simp
  have hsize : offset + byteSize ('/' :: '/' :: (body ++ taken)) + byteSize left =
      offset + byteSize ('/' :: '/' :: body) + byteSize (taken ++ left) := by
    simp only [byteSize_cons, byteSize_append]
    omega
  rwa [htext, hsize] at hskipped

/-- Behind a trivial token a filler is skipped, though it may become part of it. -/
theorem skipped_behind_trivia (h : Lexeme kind s behind) (hkind : kind.isTrivia = true)
    (hfiller : Filler text place w) (hline : ['/', '/'] <+: s → EndsLineComment text place)
    (offset : Nat) :
    significantFrom offset (s ++ (w ++ behind)) =
      significantFrom (offset + byteSize s + byteSize w) behind := by
  cases h with
  | blank _ hblank _ => rw [significantFrom_blanks hblank, hfiller.skipped]
  | blockComment hbody => rw [significantFrom_of_lexeme (.blockComment hbody) rfl, hfiller.skipped]
  | lineComment hbody hbehind =>
      cases hfiller with
      | blanks hw => exact significantFrom_lineComment hbody hbehind hw offset
      | blockComment hnone _ => exact absurd (hline ⟨_, rfl⟩) hnone
  | punctuation hc =>
      have hnone : ∀ p ∈ punctuation, p.2.isTrivia = false := by decide
      cases (hnone _ hc).symm.trans hkind
  | keyword hword _ =>
      have hnone : ∀ p ∈ keywords, p.2.isTrivia = false := by decide
      cases (hnone _ hword).symm.trans hkind
  | _ => cases hkind

end skipped

/-! ## tokens around a place -/

/-- Cut into lexemes further on, a text gives the same tokens, moved. -/
theorem Tokenizes.shift {offset : Nat} {s : List Char} {ts : List Token} (h : Tokenizes offset s ts)
    (bytes : Nat) :
    Tokenizes (offset + bytes) s (ts.map fun t => ⟨t.kind, t.span.shift bytes⟩) := by
  induction h with
  | last => exact .last
  | token hlexeme _ ih =>
      rw [Nat.add_right_comm] at ih
      exact .token hlexeme ih

theorem tokens_shift (offset bytes : Nat) (s : List Char) : (Cursor.mk (offset + bytes) s).tokens =
    (Cursor.mk offset s).tokens.map fun t => ⟨t.kind, t.span.shift bytes⟩ :=
  ((tokenizes_tokens ⟨offset, s⟩).shift bytes).eq_tokens.symm

theorem significantFrom_shift (offset bytes : Nat) (s : List Char) :
    significantFrom (offset + bytes) s =
      (significantFrom offset s).map fun t => ⟨t.kind, t.span.shift bytes⟩ := by
  rw [significantFrom, tokens_shift, List.filter_map, significantFrom]
  rfl

section around

variable {text : String} {place : Nat} {root : Node} {piece : String}

/-- Up to a place between tokens, a text is a stretch. -/
theorem BetweenTokens.exists_lexes (h : BetweenTokens text place) :
    ∃ before behind front, text.toList = before ++ behind ∧ byteSize before = place ∧
      Lexes behind 0 before front := by
  cases h with
  | start => exact ⟨[], text.toList, [], rfl, rfl, .nil⟩
  | @between front back t u hsplit =>
      rw [List.append_cons] at hsplit
      obtain ⟨before, behind, htext, hlexes, -⟩ := Cursor.exists_lexes hsplit (List.cons_ne_nil _ _)
      have hstop := hlexes.stop_getLast? List.getLast?_concat
      exact ⟨before, behind, _, htext, by rw [hstop, Cursor.ofString, Nat.zero_add], hlexes⟩
  | stop =>
      obtain ⟨front, e, hsplit, he, -⟩ := (Cursor.ofString text).tokens_eq_append
      obtain ⟨before, behind, htext, hlexes, hend⟩ :=
        Cursor.exists_lexes hsplit (List.cons_ne_nil _ _)
      have htiles :=
        (Cursor.mk ((Cursor.ofString text).offset + byteSize before) behind).tiles_tokens
      rw [hend] at htiles
      cases htiles with
      | last =>
          have hbefore : text.toList = before := htext.trans (List.append_nil _)
          exact ⟨before, [], front, htext, by rw [hbefore], hlexes⟩
      | cons hkind => exact absurd he hkind

theorem tokenize_eq_append {before behind : List Char} {front : List Token}
    (htext : text.toList = before ++ behind) (h : Lexes behind 0 before front) :
    tokenize text = front ++ (Cursor.mk (byteSize before) behind).tokens := by
  have htokens := h.tokens_eq
  rwa [← htext, Nat.zero_add] at htokens

/-- A token of a text ends before a place between tokens, or begins behind it. -/
theorem BetweenTokens.apart (h : BetweenTokens text place) :
    ∀ t ∈ tokenize text, t.span.stop ≤ place ∨ place ≤ t.span.offset := by
  obtain ⟨before, behind, front, htext, rfl, hlexes⟩ := h.exists_lexes
  intro t ht
  rw [tokenize_eq_append htext hlexes] at ht
  obtain ht | ht := List.mem_append.1 ht
  · have hle := (hlexes.stop_le_of_mem ht).1
    rw [Nat.zero_add] at hle
    exact .inl hle
  · exact .inr ((Cursor.tiles_tokens _).offset_le t ht)

/-- A token of a document is stopped by what goes on with no name, number or escape sequence. -/
theorem stops_of_derives {s : Symbol} {ts : List Token} {x : s.Meaning} (h : Derives s ts x) :
    ∀ t ∈ ts, t.kind.stops = breaks := by
  induction h with
  | document _ he ih =>
      exact List.forall_mem_append.2 ⟨ih, List.forall_mem_singleton.2 (by rw [he]; rfl)⟩
  | object ho _ hc ih | array ho _ hc ih =>
      refine List.forall_mem_append.2 ⟨List.forall_mem_cons.2 ⟨by rw [ho]; rfl, ih⟩, ?_⟩
      exact List.forall_mem_singleton.2 (by rw [hc]; rfl)
  | noMembers | noElements => exact List.forall_mem_nil _
  | someMembers _ hus ih | someElements _ hus ih =>
      refine List.forall_mem_append.2 ⟨ih, ?_⟩
      cases hus with
      | none => exact List.forall_mem_nil _
      | comma hc => exact List.forall_mem_singleton.2 (by rw [hc]; rfl)
  | firstMember _ ih | firstElement _ ih | objectValue _ ih | arrayValue _ ih => exact ih
  | nextMember _ hc _ ihs ih | nextElement _ hc _ ihs ih =>
      exact List.forall_mem_append.2 ⟨ihs, List.forall_mem_cons.2 ⟨by rw [hc]; rfl, ih⟩⟩
  | member hk hc _ ih =>
      exact List.forall_mem_cons.2 ⟨(closes_of_names hk).stops,
        List.forall_mem_cons.2 ⟨by rw [hc]; rfl, ih⟩⟩
  | string ht | number ht | boolean ht | null ht =>
      exact List.forall_mem_singleton.2 (by rw [ht]; rfl)

/-- A filler does not go on with a token that is not trivia. -/
theorem Filler.follows {t : Token} {w behind : List Char} (h : Filler text place w)
    (ht : t.kind.stops = breaks) : Follows t.kind behind (w ++ behind) := by
  intro c hc
  rw [ht]
  cases h with
  | blockComment =>
      cases hc
      exact .inr (by decide)
  | blanks hblank =>
      cases w with
      | nil => exact .inl hc
      | cons d w =>
          cases hc
          exact .inr (breaks_of_isBlank (hblank _ List.mem_cons_self))

/-- With a filler in it, a text has the significant tokens before the filler, and those behind it
further on. -/
theorem significantFrom_filler {before w behind : List Char} {front : List Token}
    (htext : text.toList = before ++ behind) (hlexes : Lexes behind 0 before front)
    (hfiller : Filler text (byteSize before) w)
    (hstops : ∀ t ∈ tokenize text, t.isTrivia = false → t.kind.stops = breaks) :
    significantFrom 0 (before ++ (w ++ behind)) =
      front.filter (!·.isTrivia) ++ significantFrom (byteSize before + byteSize w) behind := by
  obtain rfl | ⟨init, t, rfl⟩ := List.eq_nil_or_concat' front
  · cases hlexes
    exact hfiller.skipped 0 behind
  have ht : t ∈ tokenize text := by
    rw [tokenize_eq_append htext hlexes]
    simp
  cases htrivia : t.isTrivia with
  | true =>
      -- the last token before the filler may take it in, the others not
      obtain ⟨first, s, rfl, hinit, hlast⟩ := hlexes.of_append
      have hlexeme := lexeme_of_lexes hlast
      have hline : ['/', '/'] <+: s → EndsLineComment text (byteSize (first ++ s)) := by
        intro hs
        have hspan := hlast.span_eq
        rw [Nat.zero_add] at hspan
        refine ⟨t, ht, by rw [hspan, byteSize_append]; rfl, ?_⟩
        rwa [hspan, cut_eq htext, String.toList_ofList]
      have hinit' : Lexes (s ++ (w ++ behind)) 0 first init :=
        hinit.before fun _ _ => Follows.of_ne_nil hlexeme.ne_nil _ _ _
      rw [List.append_assoc, significantFrom_of_lexes hinit',
        skipped_behind_trivia hlexeme htrivia hfiller hline, List.filter_append,
        List.filter_cons_of_neg (by simp [htrivia])]
      simp
  | false =>
      have hall : Lexes (w ++ behind) 0 before (init ++ [t]) := by
        refine hlexes.before fun u hu => ?_
        rw [List.getLast?_concat] at hu
        cases hu
        exact hfiller.follows (hstops t ht htrivia)
      rw [significantFrom_of_lexes hall, hfiller.skipped, Nat.zero_add]

end around

/-! ## the document with a filler -/

section document

variable {text : String} {place bytes : Nat} {root : Node} {piece : String} {t : Token}

/-- The span of a token that ends before a place, or begins behind it. -/
theorem span_makeRoom (hlength : 0 < t.span.length)
    (h : t.span.stop ≤ place ∨ place ≤ t.span.offset) :
    (t.makeRoom place bytes).span = t.span.makeRoom place bytes := by
  obtain ⟨kind, offset, length⟩ := t
  have hlength : 0 < length := hlength
  have h : offset + length ≤ place ∨ place ≤ offset := h
  show Token.span (if place ≤ offset then _ else _) =
    Span.mk (if place ≤ offset then offset + bytes else offset)
      ((if place < offset + length then offset + length + bytes else offset + length) -
        (if place ≤ offset then offset + bytes else offset))
  by_cases hle : place ≤ offset
  · rw [if_pos hle, if_pos hle, if_pos (Nat.lt_of_le_of_lt hle (Nat.lt_add_of_pos_right hlength))]
    exact congrArg (Span.mk _) (show length = offset + length + bytes - (offset + bytes) by omega)
  · rw [if_neg hle, if_neg hle, if_neg (Nat.not_lt.2 (h.resolve_right hle))]
    exact congrArg (Span.mk _) (show length = offset + length - offset by omega)

theorem kind_makeRoom (place bytes : Nat) (t : Token) : (t.makeRoom place bytes).kind = t.kind := by
  unfold Token.makeRoom
  split <;> rfl

/-- The end of a span that takes up room moves as the end of its last token. -/
theorem stop_makeRoom {s : Span} (h : 0 < s.length) :
    (s.makeRoom place bytes).stop = if place < s.stop then s.stop + bytes else s.stop := by
  have hlt : s.offset < s.stop := Nat.lt_add_of_pos_right h
  refine Span.between_stop ?_
  split_ifs <;> omega

theorem agreeBetween_makeRoom (place bytes : Nat) :
    AgreeBetween (Span.makeRoom place bytes) id := by
  rintro o c _ _ - hc rfl rfl
  show Span.mk _ _ = Span.mk _ _
  rw [stop_makeRoom hc]
  refine congrArg (Span.mk _) ?_
  generalize c.stop = stop
  show (if place < o.offset + (stop - o.offset) then o.offset + (stop - o.offset) + bytes
      else o.offset + (stop - o.offset)) - (if place ≤ o.offset then o.offset + bytes
        else o.offset) =
    (if place < stop then stop + bytes else stop) - (if place ≤ o.offset then o.offset + bytes
      else o.offset)
  split_ifs <;> omega

/-- A token of a text is relocated where room is made between tokens. -/
theorem relocated_makeRoom (hplace : BetweenTokens text place) (ht : t ∈ significantTokens text)
    (hkind : t.kind ≠ .endOfText) :
    Relocated (Span.makeRoom place bytes) id t (t.makeRoom place bytes) := by
  have hlength := (inOrder_significantTokens text).length_pos t ht hkind
  have hapart := hplace.apart t (List.mem_of_mem_filter ht)
  exact ⟨(kind_makeRoom ..).symm, (span_makeRoom hlength hapart).symm, hlength⟩

/-- **The significant tokens of a document with a filler in it are the same ones**, those that start
at the place or behind moved. -/
theorem significantTokens_insertAt (h : readDocument text = .ok root)
    (hplace : BetweenTokens text place) (hpiece : Filler text place piece.toList) :
    significantTokens (insertAt text place piece) =
      (significantTokens text).map (Token.makeRoom place (byteSize piece.toList)) := by
  obtain ⟨before, behind, front, htext, rfl, hlexes⟩ := hplace.exists_lexes
  have hstops : ∀ t ∈ tokenize text, t.isTrivia = false → t.kind.stops = breaks :=
    fun t ht htrivia => stops_of_derives ((readDocument_eq_ok_iff text root).1 h).1 t
      (List.mem_filter.2 ⟨ht, by rw [htrivia]; rfl⟩)
  have hsame : significantTokens text =
      front.filter (!·.isTrivia) ++ significantFrom (byteSize before) behind := by
    rw [significantTokens, tokenize_eq_append htext hlexes, List.filter_append, significantFrom]
  have hmoved : significantTokens (insertAt text (byteSize before) piece) =
      significantFrom 0 (before ++ (piece.toList ++ behind)) := by
    rw [significantTokens, tokenize, Cursor.ofString, insertAt, String.toList_ofList, htext,
      takeBytes_byteSize, dropBytes_byteSize, List.append_assoc, significantFrom]
  have hfront : ∀ t ∈ front.filter (!·.isTrivia),
      t.makeRoom (byteSize before) (byteSize piece.toList) = t := by
    intro t ht
    obtain ⟨hstop, hlength⟩ := hlexes.stop_le_of_mem (List.mem_of_mem_filter ht)
    have hstop : t.span.offset + t.span.length ≤ 0 + byteSize before := hstop
    exact if_neg (by omega)
  have hbehind : ∀ t ∈ significantFrom (byteSize before) behind,
      t.makeRoom (byteSize before) (byteSize piece.toList) =
        ⟨t.kind, t.span.shift (byteSize piece.toList)⟩ :=
    fun t ht => if_pos ((Cursor.tiles_tokens _).offset_le t (List.mem_of_mem_filter ht))
  rw [hmoved, hsame, significantFrom_filler htext hlexes hpiece hstops, List.map_append,
    List.map_congr_left hfront, List.map_id', List.map_congr_left hbehind, significantFrom_shift]

/-- **Blanks and comments between tokens change nothing but places**: a document with a filler
between two of its tokens, or at one of its ends, is a document, and its tree is the same with room
made at the place. -/
theorem fillers_insignificant (h : readDocument text = .ok root) (hplace : BetweenTokens text place)
    (hpiece : Filler text place piece.toList) :
    significantTokens (insertAt text place piece) =
      (significantTokens text).map (Token.makeRoom place (byteSize piece.toList)) ∧
    readDocument (insertAt text place piece) =
      .ok (root.mapSpans (Span.makeRoom place (byteSize piece.toList))) := by
  have htokens := significantTokens_insertAt h hplace hpiece
  obtain ⟨hderives, hheight⟩ := (readDocument_eq_ok_iff text root).1 h
  refine ⟨htokens, (readDocument_eq_ok_iff _ _).2 ⟨?_, by rwa [height_mapSpans]⟩⟩
  obtain ⟨us, e, hsplit, he, hus⟩ := significantTokens_eq_append text
  have hrel : List.Forall₂ (Relocated (Span.makeRoom place (byteSize piece.toList)) id) us
      (us.map (Token.makeRoom place (byteSize piece.toList))) := by
    refine List.forall₂_map_right_iff.2 (List.forall₂_same.2 fun t ht => ?_)
    exact relocated_makeRoom hplace (hsplit ▸ List.mem_append_left _ ht) (hus t ht)
  rw [hsplit] at hderives
  obtain ⟨root', hroot', heq⟩ :=
    exists_document_of_relocated (agreeBetween_makeRoom _ _) hderives hrel
      ((kind_makeRoom ..).trans he)
  rw [mapSpans_id] at heq
  rw [htokens, hsplit, List.map_append, heq]
  exact hroot'

end document

/-- A document with a line comment behind a value. -/
def commentedText : String := "\x7ba: null//c\n\x7d"

/-- What `commentedText` is read as. -/
def commentedRoot : Node := .object ⟨0, 13⟩ [⟨"a", ⟨1, 1⟩, .null ⟨4, 4⟩, false⟩]

/-- Blanks are put in behind the line comment, and a block comment before it. -/
theorem fillers_insignificant_commentedText :
    readDocument commentedText = .ok commentedRoot ∧
    readDocument (insertAt commentedText 11 " \n") =
      .ok (.object ⟨0, 15⟩ [⟨"a", ⟨1, 1⟩, .null ⟨4, 4⟩, false⟩]) ∧
    readDocument (insertAt commentedText 3 "/*,*/") =
      .ok (.object ⟨0, 18⟩ [⟨"a", ⟨1, 1⟩, .null ⟨9, 4⟩, false⟩]) := by
  have hread : readDocument commentedText = .ok commentedRoot := by with_unfolding_all rfl
  have hcolon : tokenize commentedText =
      [⟨.openBrace, ⟨0, 1⟩⟩, ⟨.identifier "a", ⟨1, 1⟩⟩] ++ ⟨.colon, ⟨2, 1⟩⟩ :: ⟨.blank, ⟨3, 1⟩⟩ ::
        [⟨.null, ⟨4, 4⟩⟩, ⟨.comment "c", ⟨8, 3⟩⟩, ⟨.blank, ⟨11, 1⟩⟩, ⟨.closeBrace, ⟨12, 1⟩⟩,
          ⟨.endOfText, ⟨13, 0⟩⟩] := by
    decide +kernel
  have hline : tokenize commentedText =
      [⟨.openBrace, ⟨0, 1⟩⟩, ⟨.identifier "a", ⟨1, 1⟩⟩, ⟨.colon, ⟨2, 1⟩⟩, ⟨.blank, ⟨3, 1⟩⟩,
        ⟨.null, ⟨4, 4⟩⟩] ++ ⟨.comment "c", ⟨8, 3⟩⟩ :: ⟨.blank, ⟨11, 1⟩⟩ ::
          [⟨.closeBrace, ⟨12, 1⟩⟩, ⟨.endOfText, ⟨13, 0⟩⟩] := by
    decide +kernel
  have hblanks : Filler commentedText 11 " \n".toList := .blanks (List.all_eq_true.1 (by decide))
  have hbody : CommentBody [','] := commentBody_cons.2 ⟨commentBody_nil, fun _ hc => by cases hc⟩
  have hcomment : Filler commentedText 3 "/*,*/".toList :=
    @Filler.blockComment _ _ [','] (by decide +kernel) hbody
  exact ⟨hread, (fillers_insignificant hread (.between hline) hblanks).2,
    (fillers_insignificant hread (.between hcolon) hcomment).2⟩

end Phrasebook
