import Phrasebook.Proofs.Lookahead
import Phrasebook.Proofs.Relocation
import Phrasebook.Proofs.Spans

/-!
# Phrasebook.Proofs.Stretches

Stretches of a text, and their tokens.

`Lexes behind offset stretch ts` says that from an offset on, a stretch of text is read as the
tokens `ts` where `behind` stands behind it.  The tokens of a text can be cut between any two of
them (`Cursor.exists_lexes`) and put together again (`Lexes.tokens_eq`).  A stretch is read as the
same tokens

1. before any other text that may follow its last token (`Lexes.before`);
2. at any other offset, with the spans moved (`Lexes.relocated`).
-/

namespace Phrasebook

open Text

/-! ## one token -/

section scan

variable {offset : Nat} {c : Char} {taken rest rest' : List Char} {kind : TokenKind}

/-- A token is the same before another text that may follow it. -/
theorem scan_before (h : TokenKind.scan c (taken ++ rest) = (kind, rest))
    (hrest : Follows kind rest rest') : TokenKind.scan c (taken ++ rest') = (kind, rest') := by
  obtain ⟨front, hfront, hlocal⟩ := TokenKind.local_scan c (taken ++ rest)
  rw [h] at hfront hlocal
  rw [List.append_cancel_right hfront]
  exact hlocal rest' hrest

theorem next_of_scan (h : TokenKind.scan c (taken ++ rest) = (kind, rest)) :
    (Cursor.mk offset (c :: taken ++ rest)).next =
      (⟨kind, ⟨offset, byteSize (c :: taken)⟩⟩, ⟨offset + byteSize (c :: taken), rest⟩) := by
  have hlength : byteSize (c :: taken ++ rest) - byteSize rest = byteSize (c :: taken) := by
    rw [byteSize_append, Nat.add_sub_cancel]
  show (Token.mk (TokenKind.scan c (taken ++ rest)).1 ⟨offset, byteSize (c :: taken ++ rest) -
      byteSize (TokenKind.scan c (taken ++ rest)).2⟩,
    Cursor.mk (offset + (byteSize (c :: taken ++ rest) -
      byteSize (TokenKind.scan c (taken ++ rest)).2)) (TokenKind.scan c (taken ++ rest)).2) = _
  rw [h, hlength]

theorem tokens_of_scan (h : TokenKind.scan c (taken ++ rest) = (kind, rest)) :
    (Cursor.mk offset (c :: taken ++ rest)).tokens =
      ⟨kind, ⟨offset, byteSize (c :: taken)⟩⟩ ::
        (Cursor.mk (offset + byteSize (c :: taken)) rest).tokens := by
  rw [Cursor.tokens]
  show Prod.fst (Cursor.next _) :: (Prod.snd (Cursor.next _)).tokens = _
  rw [next_of_scan h]

theorem tokens_nil (offset : Nat) : (Cursor.mk offset []).tokens = [⟨.endOfText, ⟨offset, 0⟩⟩] := by
  rw [Cursor.tokens]
  rfl

end scan

/-! ## stretches -/

/-- From an offset on, a stretch of text before `behind` is read as these tokens. -/
inductive Lexes (behind : List Char) : Nat → List Char → List Token → Prop where
  | nil {offset : Nat} : Lexes behind offset [] []
  | cons {offset : Nat} {c : Char} {taken stretch : List Char}
      {kind : TokenKind} {ts : List Token} :
      TokenKind.scan c (taken ++ (stretch ++ behind)) = (kind, stretch ++ behind) →
      Lexes behind (offset + byteSize (c :: taken)) stretch ts →
      Lexes behind offset (c :: taken ++ stretch) (⟨kind, ⟨offset, byteSize (c :: taken)⟩⟩ :: ts)

namespace Lexes

variable {behind behind' stretch more : List Char} {offset : Nat} {ts us : List Token} {t : Token}

/-- A token of one character. -/
theorem cons_char {c : Char} {kind : TokenKind}
    (hscan : TokenKind.scan c (stretch ++ behind) = (kind, stretch ++ behind))
    (h : Lexes behind (offset + c.utf8Size) stretch ts) :
    Lexes behind offset (c :: stretch) (⟨kind, ⟨offset, c.utf8Size⟩⟩ :: ts) :=
  @cons behind offset c [] stretch kind ts hscan h

/-- The tokens of a text that begins with a stretch are those of the stretch, and those behind
it. -/
theorem tokens_eq (h : Lexes behind offset stretch ts) :
    (Cursor.mk offset (stretch ++ behind)).tokens =
      ts ++ (Cursor.mk (offset + byteSize stretch) behind).tokens := by
  induction h with
  | nil => rfl
  | cons hscan _ ih =>
      rw [List.append_assoc, tokens_of_scan hscan, ih, byteSize_append,
        Nat.add_assoc, List.cons_append]

/-- One stretch behind the other. -/
theorem append (h : Lexes (more ++ behind) offset stretch ts)
    (hmore : Lexes behind (offset + byteSize stretch) more us) :
    Lexes behind offset (stretch ++ more) (ts ++ us) := by
  induction h with
  | nil => exact hmore
  | cons hscan _ ih =>
      rw [byteSize_append, ← Nat.add_assoc] at hmore
      rw [List.append_assoc]
      refine .cons ?_ (ih hmore)
      rw [List.append_assoc]
      exact hscan

/-- A stretch is read as the same tokens before any text that may follow its last token. -/
theorem before (h : Lexes behind offset stretch ts)
    (hlast : ∀ t, ts.getLast? = some t → Follows t.kind behind behind') :
    Lexes behind' offset stretch ts := by
  induction h with
  | nil => exact .nil
  | @cons offset c taken stretch kind ts hscan hrest ih =>
      cases hrest with
      | nil => exact .cons (scan_before hscan (hlast _ rfl)) .nil
      | cons hscan' hrest' =>
          refine .cons (scan_before hscan (Follows.of_ne_nil (List.cons_ne_nil _ _) _ _ _))
            (ih fun t ht => ?_)
          exact hlast t (by rw [List.getLast?_cons_cons, ht])

/-- A stretch is read as the same tokens at every offset. -/
theorem relocated {offset' bytes bytes' : Nat} (h : Lexes behind offset stretch ts)
    (hoffset : offset + bytes = offset' + bytes') :
    ∃ ts', Lexes behind offset' stretch ts' ∧
      List.Forall₂ (Grammar.Relocated (·.shift bytes) (·.shift bytes')) ts ts' := by
  induction h generalizing offset' with
  | nil => exact ⟨[], .nil, .nil⟩
  | @cons offset c taken stretch kind ts hscan _ ih =>
      have hnext : offset + byteSize (c :: taken) + bytes =
          offset' + byteSize (c :: taken) + bytes' := by omega
      obtain ⟨ts', hts', hrel⟩ := ih hnext
      refine ⟨_, .cons hscan hts', .cons ⟨rfl, ?_, byteSize_pos (List.cons_ne_nil _ _)⟩ hrel⟩
      show Span.mk (offset + bytes) _ = Span.mk (offset' + bytes') _
      rw [hoffset]

/-- The tokens of a stretch can be cut between any two of them. -/
theorem of_append (h : Lexes behind offset stretch (ts ++ us)) :
    ∃ front rest, stretch = front ++ rest ∧ Lexes (rest ++ behind) offset front ts ∧
      Lexes behind (offset + byteSize front) rest us := by
  induction ts generalizing offset stretch with
  | nil => exact ⟨[], stretch, rfl, .nil, h⟩
  | cons t ts ih =>
      cases h with
      | @cons _ c taken stretch _ _ hscan hrest =>
          obtain ⟨front, rest, rfl, hfront, hlast⟩ := ih hrest
          refine ⟨c :: taken ++ front, rest, (List.append_assoc ..).symm, .cons ?_ hfront, ?_⟩
          · rw [← List.append_assoc front]
            exact hscan
          · rw [byteSize_append, ← Nat.add_assoc]
            exact hlast

/-- A stretch that is one token is the text of this token. -/
theorem span_eq (h : Lexes behind offset stretch [t]) : t.span = ⟨offset, byteSize stretch⟩ := by
  cases h with
  | cons _ hrest =>
      cases hrest
      rw [List.append_nil]

/-- The first token of a stretch begins where it begins. -/
theorem offset_head? (h : Lexes behind offset stretch ts) (ht : ts.head? = some t) :
    t.span.offset = offset := by
  cases h with
  | nil => cases ht
  | cons _ _ =>
      cases ht
      rfl

/-- The last token of a stretch ends where it ends. -/
theorem stop_getLast? (h : Lexes behind offset stretch ts) (ht : ts.getLast? = some t) :
    t.span.stop = offset + byteSize stretch := by
  induction h with
  | nil => cases ht
  | cons _ hrest ih =>
      cases hrest with
      | nil =>
          cases ht
          simp [Span.stop]
      | cons _ _ =>
          rw [List.getLast?_cons_cons] at ht
          rw [ih ht, Nat.add_assoc, ← byteSize_append]

/-- The tokens of a stretch stand in it, and none of them is empty. -/
theorem stop_le_of_mem (h : Lexes behind offset stretch ts) (ht : t ∈ ts) :
    t.span.stop ≤ offset + byteSize stretch ∧ 0 < t.span.length := by
  induction h with
  | nil => cases ht
  | cons _ _ ih =>
      rw [byteSize_append, ← Nat.add_assoc]
      obtain rfl | ht := List.mem_cons.1 ht
      · exact ⟨Nat.le_add_right _ _, byteSize_pos (List.cons_ne_nil _ _)⟩
      · exact ih ht

/-- The tokens of a text, from those of all of it as a stretch. -/
theorem tokenize_eq (h : Lexes [] 0 stretch ts) :
    tokenize (String.ofList stretch) = ts ++ [⟨.endOfText, ⟨byteSize stretch, 0⟩⟩] := by
  have htokens := h.tokens_eq
  rw [List.append_nil, tokens_nil, Nat.zero_add] at htokens
  rw [tokenize, Cursor.ofString, String.toList_ofList, htokens]

theorem significantTokens_eq (h : Lexes [] 0 stretch ts) :
    significantTokens (String.ofList stretch) =
      ts.filter (!·.isTrivia) ++ [⟨.endOfText, ⟨byteSize stretch, 0⟩⟩] := by
  rw [significantTokens, h.tokenize_eq, List.filter_append]
  rfl

end Lexes

namespace Cursor

/-- The tokens of a text can be cut wherever more of them follow. -/
theorem exists_lexes {p : Cursor} {ts us : List Token} (h : p.tokens = ts ++ us) (hus : us ≠ []) :
    ∃ stretch behind, p.rest = stretch ++ behind ∧ Lexes behind p.offset stretch ts ∧
      (Cursor.mk (p.offset + byteSize stretch) behind).tokens = us := by
  induction ts generalizing p with
  | nil => exact ⟨[], p.rest, rfl, .nil, h⟩
  | cons t ts ih =>
      obtain ⟨offset, rest⟩ := p
      cases rest with
      | nil =>
          rw [tokens_nil, List.cons_append] at h
          obtain ⟨-, hnil⟩ := List.cons.inj h
          exact absurd (List.append_eq_nil_iff.1 hnil.symm).2 hus
      | cons c s =>
          obtain ⟨taken, htaken⟩ := TokenKind.scan_suffix c s
          have hscan : TokenKind.scan c (taken ++ (TokenKind.scan c s).2) =
              ((TokenKind.scan c s).1, (TokenKind.scan c s).2) := by rw [htaken]
          have htokens := @tokens_of_scan offset _ _ _ _ hscan
          rw [List.cons_append, htaken, h, List.cons_append] at htokens
          obtain ⟨rfl, hrest⟩ := List.cons.inj htokens
          obtain ⟨stretch, behind, hsplit, hlexes, heq⟩ := ih hrest.symm
          have hsplit : (TokenKind.scan c s).2 = stretch ++ behind := hsplit
          refine ⟨c :: taken ++ stretch, behind, ?_, .cons ?_ hlexes, ?_⟩
          · show c :: s = _
            rw [List.append_assoc, ← hsplit, List.cons_append, htaken]
          · rw [← hsplit]
            exact hscan
          · rw [byteSize_append, ← Nat.add_assoc]
            exact heq

end Cursor

/-! ## significant tokens -/

/-- What stands together among the items of a kind stands together among all items, with others of
no such kind only between its first item and its last. -/
theorem exists_stretch_of_infix {α : Type} {p : α → Bool} {ts us : List α} (h : us <:+: ts.filter p)
    (hus : us ≠ []) :
    ∃ front stretch behind, ts = front ++ stretch ++ behind ∧ stretch.filter p = us ∧
      stretch.head? = us.head? ∧ stretch.getLast? = us.getLast? := by
  obtain ⟨before, after, heq⟩ := h
  obtain ⟨upto, behind, rfl, hupto, -⟩ := List.filter_eq_append_iff.1 heq.symm
  obtain ⟨front, within, rfl, -, hwithin⟩ := List.filter_eq_append_iff.1 hupto
  -- from the first item on
  obtain ⟨first, us', rfl⟩ := List.exists_cons_of_ne_nil hus
  obtain ⟨skipped, rest, rfl, -, hfirst, hrest⟩ := List.filter_eq_cons_iff.1 hwithin
  have hstart : (first :: rest).filter p = first :: us' := by
    rw [List.filter_cons_of_pos hfirst, hrest]
  -- up to the last one
  obtain ⟨init, last, hlast⟩ := List.eq_nil_or_concat (first :: us') |>.resolve_left hus
  rw [hlast, List.concat_eq_append] at hstart ⊢
  obtain ⟨most, end_, hsplit, hmost, hend⟩ := List.filter_eq_append_iff.1 hstart
  obtain ⟨between, behind', rfl, hbetween, hp, hnone⟩ := List.filter_eq_cons_iff.1 hend
  have hstretch : first :: rest = (most ++ between ++ [last]) ++ behind' := by simp [hsplit]
  have hhead : (most ++ between ++ [last]).head? = some first := by
    have hhead := congrArg List.head? hstretch
    rw [List.head?_append_of_ne_nil _ (by simp)] at hhead
    exact hhead.symm
  refine ⟨front ++ skipped, most ++ between ++ [last], behind' ++ behind, ?_, ?_, ?_, ?_⟩
  · simp [hstretch]
  · rw [List.filter_append, List.filter_append, hmost, List.filter_eq_nil_iff.2 hbetween,
      List.append_nil, List.filter_cons_of_pos hp, List.filter_nil]
  · rw [hhead, ← List.concat_eq_append, ← hlast]
    rfl
  · simp

/-- Tokens that stand together before the end of a text are those of a stretch of it. -/
theorem exists_lexes_between {text : String} {front ts back : List Token} {last : Token}
    (h : tokenize text = front ++ ts ++ back) (hlast : ts.getLast? = some last)
    (hkind : last.kind ≠ .endOfText) :
    ∃ before stretch behind, text.toList = before ++ stretch ++ behind ∧
      Lexes behind (byteSize before) stretch ts := by
  obtain ⟨most, e, heq, he, -⟩ := (Cursor.ofString text).tokens_eq_append
  have hback : back ≠ [] := by
    rintro rfl
    have hends := congrArg List.getLast? (heq.symm.trans h)
    simp only [List.append_nil, List.getLast?_append, hlast, List.getLast?_singleton,
      Option.some_or, Option.some.injEq] at hends
    exact hkind (hends ▸ he)
  rw [List.append_assoc] at h
  obtain ⟨before, rest, hbefore, -, hrest⟩ := Cursor.exists_lexes h (by simp [hback])
  obtain ⟨stretch, behind, hstretch, hlexes, -⟩ := Cursor.exists_lexes hrest hback
  refine ⟨before, stretch, behind, ?_, ?_⟩
  · rw [List.append_assoc, ← hstretch]
    exact hbefore
  · simpa [Cursor.ofString] using hlexes

/-- A token of a text, other than its end, is the token of a stretch. -/
theorem exists_lexes_of_mem {text : String} {t : Token} (ht : t ∈ tokenize text)
    (hkind : t.kind ≠ .endOfText) :
    ∃ before stretch behind, text.toList = before ++ stretch ++ behind ∧
      Lexes behind (byteSize before) stretch [t] := by
  obtain ⟨front, back, hsplit⟩ := List.append_of_mem ht
  rw [List.append_cons] at hsplit
  exact exists_lexes_between hsplit rfl hkind

/-- Tokens of a text that stand together, trivia left out, are those of a stretch of the text. -/
theorem exists_lexes_of_infix {text : String} {us : List Token} (h : us <:+: significantTokens text)
    {last : Token} (hlast : us.getLast? = some last) (hkind : last.kind ≠ .endOfText) :
    ∃ before stretch behind ts, text.toList = before ++ stretch ++ behind ∧
      Lexes behind (byteSize before) stretch ts ∧ ts.filter (!·.isTrivia) = us ∧
      ts.head? = us.head? ∧
      ts.getLast? = us.getLast? := by
  have hus : us ≠ [] := fun hnil => by
    rw [hnil] at hlast
    cases hlast
  obtain ⟨front, ts, back, hsplit, hfilter, hhead, hgetLast⟩ := exists_stretch_of_infix h hus
  obtain ⟨before, stretch, behind, htext, hlexes⟩ :=
    exists_lexes_between hsplit (hgetLast.trans hlast) hkind
  exact ⟨before, stretch, behind, ts, htext, hlexes, hfilter, hhead, hgetLast⟩

end Phrasebook
