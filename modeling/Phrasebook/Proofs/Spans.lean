import Phrasebook.Proofs.Tokens

/-!
# Phrasebook.Proofs.Spans

Where the tokens of a text stand.

A span *cuts* a piece out of a text when it begins and ends between two characters.  The tokens of a
text tile it (`Cursor.tiles_tokens`): each cuts out a piece of its own, the next one begins where it
ends, and the end of the text is marked behind all of them.  Of this, what stays when tokens are
left out is that they stand in the text, one behind the other (`InOrder`).
-/

namespace Phrasebook

open Text

/-! ## spans in a text -/

namespace Span

variable {source before piece : List Char} {span : Span}

/-- A span cuts a piece out of a text, behind the characters `before`. -/
structure Cuts (span : Span) (source before piece : List Char) : Prop where
  text : before ++ piece <+: source
  offset : byteSize before = span.offset
  length : byteSize piece = span.length

/-- A span begins and ends between characters of a text. -/
def Marks (span : Span) (source : List Char) : Prop := ∃ before piece, span.Cuts source before piece

theorem offset_le_stop (span : Span) : span.offset ≤ span.stop := Nat.le_add_right _ _

theorem Marks.boundary_offset (h : span.Marks source) : Boundary source span.offset := by
  obtain ⟨before, piece, hcuts⟩ := h
  exact ⟨before, (List.prefix_append before piece).trans hcuts.text, hcuts.offset⟩

theorem Marks.boundary_stop (h : span.Marks source) : Boundary source span.stop := by
  obtain ⟨before, piece, hcuts⟩ := h
  exact ⟨before ++ piece, hcuts.text, by rw [byteSize_append, hcuts.offset, hcuts.length, stop]⟩

theorem Marks.stop_le (h : span.Marks source) : span.stop ≤ byteSize source := h.boundary_stop.le

/-- The stretch between two boundaries is a span of the text. -/
theorem marks_between {start stop : Nat} (hstart : Boundary source start)
    (hstop : Boundary source stop) (hle : start ≤ stop) : (between start stop).Marks source := by
  obtain ⟨before, hbefore, rfl⟩ := hstart
  obtain ⟨upto, hupto, rfl⟩ := hstop
  obtain ⟨piece, rfl⟩ := prefix_of_byteSize_le hbefore hupto hle
  refine ⟨before, piece, hupto, rfl, ?_⟩
  rw [between, byteSize_append, Nat.add_sub_cancel_left]

theorem between_stop {start stop : Nat} (hle : start ≤ stop) : (between start stop).stop = stop :=
  Nat.add_sub_cancel' hle

end Span

/-! ## the tokens of a text -/

/-- Tokens tile what remains of a text from an offset on. -/
inductive Tiles : Nat → List Char → List Token → Prop where
  | last {offset : Nat} {t : Token} :
      t.kind = .endOfText → t.span = ⟨offset, 0⟩ → Tiles offset [] [t]
  | cons {offset : Nat} {piece rest : List Char} {t : Token} {ts : List Token} :
      t.kind ≠ .endOfText → piece ≠ [] → t.span = ⟨offset, byteSize piece⟩ →
      Tiles (offset + byteSize piece) rest ts → Tiles offset (piece ++ rest) (t :: ts)

namespace Cursor

/-- A token takes at least one character, and its length is the size of what it takes: what is left
is never larger than what was there. -/
theorem exists_piece {p : Cursor} {c : Char} {s : List Char} (hp : p.rest = c :: s) :
    ∃ piece, p.rest = piece ++ p.next.2.rest ∧ piece ≠ [] ∧
      p.next.1.span = ⟨p.offset, byteSize piece⟩ ∧ p.next.2.offset = p.offset + byteSize piece := by
  obtain ⟨offset, rest⟩ := p
  obtain rfl : rest = c :: s := hp
  obtain ⟨taken, htaken⟩ := TokenKind.scan_suffix c s
  have hrest : c :: s = c :: taken ++ (TokenKind.scan c s).2 := by rw [List.cons_append, htaken]
  have hlength : byteSize (c :: s) - byteSize (TokenKind.scan c s).2 = byteSize (c :: taken) := by
    rw [hrest, byteSize_append, Nat.add_sub_cancel]
  exact ⟨c :: taken, hrest, List.cons_ne_nil _ _, congrArg (Span.mk offset) hlength,
    congrArg (offset + ·) hlength⟩

/-- The tokens from a place on tile the rest of the text. -/
theorem tiles_tokens (p : Cursor) : Tiles p.offset p.rest p.tokens := by
  fun_induction tokens p with
  | case1 p hp =>
      rw [hp]
      exact .last (by rw [next, hp]) (by rw [next, hp])
  | case2 p c s hp ih =>
      obtain ⟨piece, hrest, hpiece, hspan, hoffset⟩ := exists_piece hp
      rw [hrest]
      refine .cons ?_ hpiece hspan (hoffset ▸ ih)
      rw [next, hp]
      exact TokenKind.scan_ne_endOfText c s

end Cursor

/-! ## tokens in order -/

/-- Tokens that stand in a text, one behind the other.  Only the end of the text takes no
characters. -/
structure InOrder (source : List Char) (ts : List Token) : Prop where
  marks : ∀ t ∈ ts, t.span.Marks source
  length_pos : ∀ t ∈ ts, t.kind ≠ .endOfText → 0 < t.span.length
  ends : ∀ t ∈ ts, t.kind = .endOfText → t.span = ⟨byteSize source, 0⟩
  ordered : ts.Pairwise (·.span.stop ≤ ·.span.offset)

namespace InOrder

variable {source : List Char} {ts us : List Token}

/-- Leaving tokens out keeps the others in order. -/
theorem sublist (h : InOrder source ts) (hsub : us.Sublist ts) : InOrder source us where
  marks t ht := h.marks t (hsub.subset ht)
  length_pos t ht := h.length_pos t (hsub.subset ht)
  ends t ht := h.ends t (hsub.subset ht)
  ordered := h.ordered.sublist hsub

theorem le_of_append (h : InOrder source (ts ++ us)) :
    ∀ t ∈ ts, ∀ u ∈ us, t.span.stop ≤ u.span.offset :=
  (List.pairwise_append.1 h.ordered).2.2

theorem le_of_cons {t : Token} (h : InOrder source (t :: ts)) :
    ∀ u ∈ ts, t.span.stop ≤ u.span.offset :=
  (List.pairwise_cons.1 h.ordered).1

end InOrder

theorem Tiles.offset_le {offset : Nat} {rest : List Char} {ts : List Token}
    (h : Tiles offset rest ts) : ∀ t ∈ ts, offset ≤ t.span.offset := by
  induction h with
  | last _ hspan =>
      intro t ht
      exact Nat.le_of_eq (by rw [List.mem_singleton.1 ht, hspan])
  | cons _ _ hspan _ ih =>
      rw [List.forall_mem_cons, hspan]
      exact ⟨Nat.le_refl _, fun t ht => Nat.le_trans (Nat.le_add_right _ _) (ih t ht)⟩

theorem Tiles.inOrder {before rest : List Char} {ts : List Token}
    (h : Tiles (byteSize before) rest ts) : InOrder (before ++ rest) ts := by
  generalize hoffset : byteSize before = offset at h
  induction h generalizing before with
  | @last offset t hkind hspan =>
      refine ⟨?_, ?_, ?_, List.pairwise_singleton _ _⟩ <;> rw [List.forall_mem_singleton]
      · exact ⟨before, [], List.prefix_refl _, by rw [hspan, hoffset], by rw [hspan, byteSize_nil]⟩
      · exact fun hne => absurd hkind hne
      · intro _
        rw [hspan, List.append_nil, hoffset]
  | @cons offset piece rest t ts hkind hpiece hspan htiles ih =>
      have hrest : InOrder (before ++ piece ++ rest) ts := ih (by rw [byteSize_append, hoffset])
      rw [List.append_assoc] at hrest
      refine ⟨?_, ?_, ?_, ?_⟩
      · refine List.forall_mem_cons.2 ⟨⟨before, piece, ?_, ?_, ?_⟩, hrest.marks⟩
        · rw [← List.append_assoc]
          exact List.prefix_append _ _
        · rw [hspan, hoffset]
        · rw [hspan]
      · refine List.forall_mem_cons.2 ⟨fun _ => ?_, hrest.length_pos⟩
        rw [hspan]
        exact byteSize_pos hpiece
      · exact List.forall_mem_cons.2 ⟨fun hend => absurd hend hkind, hrest.ends⟩
      · refine List.pairwise_cons.2 ⟨fun u hu => ?_, hrest.ordered⟩
        rw [hspan]
        exact htiles.offset_le u hu

/-- The tokens of a text stand in it in order. -/
theorem inOrder_tokenize (text : String) : InOrder text.toList (tokenize text) :=
  @Tiles.inOrder [] _ _ (Cursor.ofString text).tiles_tokens

/-- So do those that are not trivia. -/
theorem inOrder_significantTokens (text : String) :
    InOrder text.toList (significantTokens text) :=
  (inOrder_tokenize text).sublist List.filter_sublist

/-- No two of the tokens of a text have one span. -/
theorem pairwise_span_ne (text : String) :
    (significantTokens text).Pairwise (·.span ≠ ·.span) := by
  have horder := inOrder_significantTokens text
  obtain ⟨us, e, heq, -, hus⟩ := significantTokens_eq_append text
  rw [heq] at horder ⊢
  obtain ⟨hfront, -, hlast⟩ := List.pairwise_append.1 horder.ordered
  -- the token in front is never the end of the text, and so takes up room
  have hne {t u : Token} (ht : t ∈ us) (hle : t.span.stop ≤ u.span.offset) : t.span ≠ u.span := by
    intro hspan
    have hpos := horder.length_pos t (List.mem_append_left _ ht) (hus t ht)
    rw [← hspan, Span.stop] at hle
    omega
  refine List.pairwise_append.2 ⟨?_, List.pairwise_singleton _ _,
    fun t ht u hu => hne ht (hlast t ht u hu)⟩
  exact hfront.imp_of_mem fun ht _ hle => hne ht hle

end Phrasebook
