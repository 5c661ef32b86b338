import Mathlib.Order.Bounds.Defs
import Phrasebook.Proofs.Lines

/-!
# Phrasebook.Proofs.LineQueries

What may be asked of a line index, and how the answers fit together.

1. An offset is moved to the last boundary that is neither behind it nor behind the text
   (`isGreatest_clamp`).  Its position is what a scan of the text before that boundary counts, and
   positions ascend with the boundaries (`precedes_of_lt`).
2. Behind the text before an offset, a slice goes on to the text before its end
   (`takeBytes_append_slice`).  So slices that meet make up one slice, wherever they are cut, and an
   end that is moved back to a limit behind the text makes no difference.
-/

namespace Phrasebook.Text

/-! ## beginnings of a text -/

section beginnings

variable {source before s : List Char} {n : Nat}

/-- A beginning that ends at or before an offset begins the text before it. -/
theorem prefix_takeBytes (h : before <+: source) (hle : byteSize before ≤ n) :
    before <+: takeBytes n source := by
  obtain ⟨behind, rfl⟩ := h
  have hadd := LineIndex.takeBytes_prefix_add (byteSize before) (n - byteSize before)
    (before ++ behind)
  rwa [takeBytes_byteSize, Nat.add_sub_cancel' hle] at hadd

/-- The whole text stands before an offset behind it. -/
theorem takeBytes_eq_self (h : byteSize s ≤ n) : takeBytes n s = s :=
  (takeBytes_isPrefix n s).eq_of_length_le (prefix_takeBytes (List.prefix_refl s) h).length_le

end beginnings

/-! ## positions -/

section lastLine

variable {s piece : List Char}

/-- Without a further line feed, the last line goes on. -/
theorem lastLine_append (h : piece.count '\n' = 0) :
    lastLine (s ++ piece) = lastLine s ++ piece := by
  have hall : ∀ c ∈ piece.reverse, (c != '\n') = true := by
    intro c hc
    refine bne_iff_ne.2 ?_
    rintro rfl
    exact List.count_eq_zero.1 h (List.mem_reverse.1 hc)
  rw [lastLine, List.reverse_append, List.takeWhile_append_of_pos hall, List.reverse_append,
    List.reverse_reverse, lastLine]

end lastLine

namespace Position

/-- A position comes before another one: on an earlier line, or on the same line further to the
left. -/
def Precedes (p q : Position) : Prop := p.line < q.line ∨ p.line = q.line ∧ p.column < q.column

/-- The position behind a text, as a scan counts it: the line feeds, and the characters behind the
last of them. -/
def behind (s : List Char) : Position := ⟨s.count '\n', (lastLine s).length⟩

variable {p q : Position} {s piece : List Char}

theorem Precedes.asymm (h : p.Precedes q) : ¬ q.Precedes p := by
  unfold Precedes at *
  omega

theorem Precedes.irrefl (p : Position) : ¬ p.Precedes p := fun h => h.asymm h

/-- Every further character leads to a later position. -/
theorem precedes_behind_append (s : List Char) (h : piece ≠ []) :
    (behind s).Precedes (behind (s ++ piece)) := by
  simp only [Precedes, behind, List.count_append]
  obtain hzero | hpos := Nat.eq_zero_or_pos (piece.count '\n')
  · have hlength := List.length_pos_iff.2 h
    rw [lastLine_append hzero, List.length_append, hzero]
    exact .inr ⟨rfl, by omega⟩
  · exact .inl (by omega)

end Position

namespace LineIndex

variable (source : List Char) (offset length : Nat)

/-- An offset is moved to the last boundary that is neither behind it nor behind the text. -/
theorem isGreatest_clamp :
    IsGreatest {n | Boundary source n ∧ n ≤ min offset (byteSize source)}
      ((ofChars source).clamp offset) := by
  constructor
  · have hclamp := boundary_clamp source offset
    exact ⟨hclamp, Nat.le_min.2 ⟨byteSize_takeBytes_le offset source, hclamp.le⟩⟩
  · rintro n ⟨⟨before, hbefore, rfl⟩, hle⟩
    exact byteSize_le_of_prefix (prefix_takeBytes hbefore (Nat.le_min.1 hle).1)

variable {source} {m n : Nat}

/-- The position of a boundary is the one behind the text before it. -/
theorem position_byteSize {before : List Char} (h : before <+: source) :
    (ofChars source).position (byteSize before) = .behind before := by
  obtain ⟨behind, rfl⟩ := h
  rw [position_eq, takeBytes_byteSize, Position.behind]

/-- Positions ascend with the boundaries. -/
theorem precedes_of_lt (hm : Boundary source m) (hn : Boundary source n) (h : m < n) :
    ((ofChars source).position m).Precedes ((ofChars source).position n) := by
  obtain ⟨before, hbefore, rfl⟩ := hm
  obtain ⟨upto, hupto, rfl⟩ := hn
  obtain ⟨piece, rfl⟩ := prefix_of_byteSize_le hbefore hupto (Nat.le_of_lt h)
  rw [position_byteSize hbefore, position_byteSize hupto]
  refine Position.precedes_behind_append before ?_
  rintro rfl
  rw [List.append_nil] at h
  exact Nat.lt_irrefl _ h

/-- **Positions are counted, and ascend**: the position of every offset is what a scan of the text
before it counts, where an offset inside a character or behind the text stands for the boundary
before it; and on boundaries positions are in the order of the offsets, so that no two have the
same.  What is computed on the way takes nothing from zero and cuts at boundaries only. -/
theorem positions_counted_and_ascending (source : List Char) :
    (∀ offset, ∃ before, before <+: source ∧
      IsGreatest {n | Boundary source n ∧ n ≤ min offset (byteSize source)} (byteSize before) ∧
      (ofChars source).position offset = ⟨before.count '\n', (lastLine before).length⟩ ∧
      ∀ length, (ofChars source).Resolves offset length) ∧
    ∀ m n, Boundary source m → Boundary source n →
      (m < n ↔ ((ofChars source).position m).Precedes ((ofChars source).position n)) ∧
      ((ofChars source).position m = (ofChars source).position n → m = n) := by
  refine ⟨fun offset => ⟨takeBytes offset source, takeBytes_isPrefix offset source,
    isGreatest_clamp source offset, position_eq source offset, resolves source offset⟩, ?_⟩
  intro m n hm hn
  constructor
  · refine ⟨precedes_of_lt hm hn, fun h => Nat.not_le.1 fun hle => ?_⟩
    obtain rfl | hlt := Nat.eq_or_lt_of_le hle
    · exact Position.Precedes.irrefl _ h
    · exact h.asymm (precedes_of_lt hn hm hlt)
  · intro heq
    obtain hlt | rfl | hlt := Nat.lt_trichotomy m n
    · exact absurd (heq ▸ precedes_of_lt hm hn hlt) (Position.Precedes.irrefl _)
    · rfl
    · exact absurd (heq ▸ precedes_of_lt hn hm hlt) (Position.Precedes.irrefl _)

/-- Letters of two and three bytes around an empty line. -/
def spacedLines : List Char := ['é', '\n', '\n', '€', 'x']

theorem positions_counted_and_ascending_spacedLines :
    (Boundary spacedLines 3 ∧ Boundary spacedLines 7) ∧
      ((ofChars spacedLines).position 3).Precedes ((ofChars spacedLines).position 7) ∧
      ((ofChars spacedLines).position 3 = (ofChars spacedLines).position 7 → 3 = 7) := by
  have hthree : Boundary spacedLines 3 := ⟨['é', '\n'], ⟨['\n', '€', 'x'], rfl⟩, rfl⟩
  have hseven : Boundary spacedLines 7 := ⟨['é', '\n', '\n', '€'], ⟨['x'], rfl⟩, rfl⟩
  obtain ⟨horder, hsame⟩ := (positions_counted_and_ascending spacedLines).2 3 7 hthree hseven
  exact ⟨⟨hthree, hseven⟩, horder.1 (by decide), hsame⟩

/-! ## slices -/

section slices

variable (source)

/-- Behind the text before an offset, a slice goes on to the text before its end. -/
theorem takeBytes_append_slice :
    takeBytes offset source ++ (ofChars source).slice offset length =
      takeBytes (offset + length) source := by
  obtain ⟨piece, hpiece⟩ := takeBytes_prefix_add offset length source
  show _ ++ (takeBytes (offset + length) source).drop (takeBytes offset source).length = _
  rw [← hpiece, List.drop_left]

/-- Slices that meet make up one slice. -/
theorem slice_append_slice (a b : Nat) :
    (ofChars source).slice offset a ++ (ofChars source).slice (offset + a) b =
      (ofChars source).slice offset (a + b) := by
  refine List.append_cancel_left (?_ : takeBytes offset source ++ _ = takeBytes offset source ++ _)
  rw [← List.append_assoc, takeBytes_append_slice, takeBytes_append_slice, takeBytes_append_slice,
    Nat.add_assoc]

theorem slice_zero_eq_self (h : byteSize source ≤ length) :
    (ofChars source).slice 0 length = source := by
  have hnone : takeBytes 0 source = [] :=
    eq_nil_of_byteSize_eq_zero (Nat.le_zero.1 (byteSize_takeBytes_le 0 source))
  have hslice := takeBytes_append_slice source 0 length
  rwa [hnone, List.nil_append, Nat.zero_add, takeBytes_eq_self h] at hslice

/-- How a stretch of text is cut out where no offset is larger than `limit`: at two boundaries of
the text, the first one no later than the second, with the slice between them. -/
structure CutsOut (x : LineIndex) (limit offset length : Nat) : Prop where
  start : Boundary x.source (x.clamp offset)
  stop : Boundary x.source (x.clamp (min (offset + length) limit))
  start_le : x.clamp offset ≤ x.clamp (min (offset + length) limit)
  stop_le : x.clamp (min (offset + length) limit) ≤ byteSize x.source
  slice : ∃ before behind, x.source = before ++ x.slice offset length ++ behind ∧
    byteSize before = x.clamp offset ∧
    byteSize (before ++ x.slice offset length) = x.clamp (min (offset + length) limit)

variable {source}

/-- An end that is moved back to a limit behind the text stays where it was. -/
theorem clamp_min {limit : Nat} (h : byteSize source ≤ limit) (stop : Nat) :
    (ofChars source).clamp (min stop limit) = (ofChars source).clamp stop := by
  obtain hle | hle := Nat.le_total stop limit
  · rw [Nat.min_eq_left hle]
  · rw [Nat.min_eq_right hle, clamp_eq, clamp_eq, takeBytes_eq_self h,
      takeBytes_eq_self (Nat.le_trans h hle)]

theorem cutsOut {limit : Nat} (h : byteSize source ≤ limit) :
    (ofChars source).CutsOut limit offset length where
  start := boundary_clamp source offset
  stop := boundary_clamp source _
  start_le := by
    rw [clamp_min h]
    exact (resolves source offset length).clamp_le
  stop_le := (boundary_clamp source _).le
  slice := by
    refine ⟨takeBytes offset source, dropBytes (offset + length) source, ?_, rfl, ?_⟩
    · rw [takeBytes_append_slice, takeBytes_append_dropBytes]
      rfl
    · rw [takeBytes_append_slice, clamp_min h, clamp_eq]

/-- **Slices compose**: of two stretches that meet, the texts make up the text of the whole stretch
and the numbers of characters add up, wherever the cuts are.  A stretch from the start that is as
long as the text is the text.  And where offsets go no further than some limit behind the text,
every stretch is cut out at boundaries and in order. -/
theorem slices_compose (source : List Char) :
    (∀ offset a b, (ofChars source).slice offset a ++ (ofChars source).slice (offset + a) b =
      (ofChars source).slice offset (a + b)) ∧
    (∀ offset a b, (ofChars source).charCount offset a + (ofChars source).charCount (offset + a) b =
      (ofChars source).charCount offset (a + b)) ∧
    (∀ offset a, (ofChars source).charCount offset a = ((ofChars source).slice offset a).length) ∧
    (∀ length, byteSize source ≤ length → (ofChars source).slice 0 length = source) ∧
    ∀ limit, byteSize source ≤ limit →
      ∀ offset length, (ofChars source).CutsOut limit offset length := by
  refine ⟨slice_append_slice source, fun offset a b => ?_, fun _ _ => rfl,
    slice_zero_eq_self source, fun limit h offset length => cutsOut offset length h⟩
  rw [charCount, charCount, charCount, ← slice_append_slice, List.length_append]

theorem slices_compose_spacedLines :
    byteSize spacedLines ≤ 10 ∧ (ofChars spacedLines).slice 0 10 = spacedLines ∧
      byteSize spacedLines ≤ 0xFFFFFFFFFFFFFFFF ∧
      (ofChars spacedLines).CutsOut (0xFFFFFFFFFFFFFFFF) 5 (0xFFFFFFFFFFFFFFFF) := by
  obtain ⟨-, -, -, hwhole, hcuts⟩ := slices_compose spacedLines
  have hsize : byteSize spacedLines = 8 := rfl
  exact ⟨by omega, hwhole 10 (by omega), by omega, hcuts _ (by omega) 5 _⟩

end slices

end LineIndex

end Phrasebook.Text
