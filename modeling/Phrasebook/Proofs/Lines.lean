import Phrasebook.Text.LineIndex

/-!
# Phrasebook.Proofs.Lines

The line index tells the line and the column of every offset.

The line is the number of line feeds before the offset, and the column is the number of characters
behind the last of them.  Offsets inside a character or beyond the end are first moved back to a
boundary (`clamp`); after that every cut is made at a boundary, and no difference is taken of a
smaller number and a larger one (`resolves`).
-/

namespace Phrasebook

/-- Bisection finds where a property stops to hold. -/
theorem bisect_eq {before : Nat → Bool} {low high n : Nat} (hlow : low ≤ n) (hhigh : n ≤ high)
    (hbefore : ∀ i, i < n → before i = true) (hafter : ∀ i, n ≤ i → i < high → before i = false) :
    bisect before low high = n := by
  fun_induction bisect before low high with
  | case1 low high hlt middle hmiddle ih =>
      have hle : middle < n := by
        refine Nat.not_le.1 fun hge => ?_
        rw [hafter middle hge (by omega)] at hmiddle
        cases hmiddle
      exact ih (by omega) hhigh hafter
  | case2 low high hlt middle hmiddle ih =>
      have hle : n ≤ middle := Nat.not_lt.1 fun hgt => hmiddle (hbefore middle hgt)
      exact ih hlow hle fun i hi himiddle => hafter i hi (by omega)
  | case3 low high hge => omega

namespace Text

/-! ## line starts -/

theorem lineStartsFrom_append (offset : Nat) (s t : List Char) :
    lineStartsFrom offset (s ++ t) =
      lineStartsFrom offset s ++ lineStartsFrom (offset + byteSize s) t := by
  induction s generalizing offset with
  | nil => rfl
  | cons c s ih =>
      simp only [List.cons_append, lineStartsFrom, byteSize_cons, ih, Nat.add_assoc]
      split <;> rfl

theorem length_lineStartsFrom (offset : Nat) (s : List Char) :
    (lineStartsFrom offset s).length = s.count '\n' := by
  induction s generalizing offset with
  | nil => rfl
  | cons c s ih =>
      simp only [lineStartsFrom, List.count_cons, beq_iff_eq]
      split
      · rw [List.length_cons, ih]
      · rw [ih, Nat.add_zero]

theorem bounds_of_mem_lineStartsFrom {offset n : Nat} {s : List Char}
    (h : n ∈ lineStartsFrom offset s) : offset < n ∧ n ≤ offset + byteSize s := by
  induction s generalizing offset with
  | nil => cases h
  | cons c s ih =>
      have hpos := c.utf8Size_pos
      simp only [lineStartsFrom] at h
      rw [byteSize_cons]
      split at h
      · obtain rfl | h := List.mem_cons.1 h
        · omega
        · have hs := ih h
          omega
      · have hs := ih h
        omega

/-- The characters of a text behind its last line feed. -/
def lastLine (s : List Char) : List Char := (s.reverse.takeWhile (· != '\n')).reverse

/-- The characters of a text up to its last line feed. -/
def fullLines (s : List Char) : List Char := (s.reverse.dropWhile (· != '\n')).reverse

theorem fullLines_append_lastLine (s : List Char) : fullLines s ++ lastLine s = s := by
  rw [fullLines, lastLine, ← List.reverse_append, List.takeWhile_append_dropWhile,
    List.reverse_reverse]

theorem count_lastLine (s : List Char) : (lastLine s).count '\n' = 0 := by
  refine List.count_eq_zero.2 fun hmem => ?_
  have hne := List.all_eq_true.1 List.all_takeWhile _ (List.mem_reverse.1 hmem)
  exact bne_iff_ne.1 hne rfl

theorem fullLines_eq (s : List Char) : fullLines s = [] ∨ ∃ u, fullLines s = u ++ ['\n'] := by
  cases h : s.reverse.dropWhile (· != '\n') with
  | nil => exact .inl (by rw [fullLines, h, List.reverse_nil])
  | cons c rest =>
      have hc : c = '\n' := by simpa [h] using List.head?_dropWhile_not (· != '\n') s.reverse
      exact .inr ⟨rest.reverse, by rw [fullLines, h, List.reverse_cons, hc]⟩

/-- The last line of a text starts behind all the others. -/
theorem getElem?_lineStarts_count (s : List Char) :
    (0 :: lineStartsFrom 0 s)[s.count '\n']? = some (byteSize (fullLines s)) := by
  have hnone : lineStartsFrom (byteSize (fullLines s)) (lastLine s) = [] := by
    rw [← List.length_eq_zero_iff, length_lineStartsFrom, count_lastLine]
  have hstarts : lineStartsFrom 0 s = lineStartsFrom 0 (fullLines s) := by
    conv => lhs; rw [← fullLines_append_lastLine s]
    rw [lineStartsFrom_append, Nat.zero_add, hnone, List.append_nil]
  have hcount : s.count '\n' = (fullLines s).count '\n' := by
    conv => lhs; rw [← fullLines_append_lastLine s]
    rw [List.count_append, count_lastLine, Nat.add_zero]
  rw [hstarts, hcount]
  obtain hnil | ⟨u, hu⟩ := fullLines_eq s
  · rw [hnil]
    rfl
  · have hone : ['\n'].count '\n' = 1 := rfl
    rw [hu, List.count_append, hone, List.getElem?_cons_succ, lineStartsFrom_append,
      ← length_lineStartsFrom 0 u, List.getElem?_append_right (Nat.le_refl _), Nat.sub_self]
    simp [lineStartsFrom]

/-! ## looking offsets up -/

namespace LineIndex

variable (source : List Char) (offset length : Nat)

/-- What stands before the boundary that an offset is moved to. -/
theorem clamp_eq : (ofChars source).clamp offset = byteSize (takeBytes offset source) := rfl

theorem boundary_clamp : Boundary source ((ofChars source).clamp offset) :=
  ⟨takeBytes offset source, takeBytes_isPrefix offset source, rfl⟩

/-- The line starts of a text are those before an offset and those behind it. -/
theorem starts_eq :
    (ofChars source).starts = ((0 :: lineStartsFrom 0 (takeBytes offset source)) ++
      lineStartsFrom ((ofChars source).clamp offset) (dropBytes offset source)).toArray := by
  have hsplit := lineStartsFrom_append 0 (takeBytes offset source) (dropBytes offset source)
  rw [takeBytes_append_dropBytes, Nat.zero_add] at hsplit
  rw [ofChars, hsplit]
  rfl

theorem getD_starts_le {i : Nat} (hi : i < (takeBytes offset source).count '\n' + 1) :
    (ofChars source).starts.getD i 0 ≤ (ofChars source).clamp offset := by
  have hlength : i < (0 :: lineStartsFrom 0 (takeBytes offset source)).length := by
    rwa [List.length_cons, length_lineStartsFrom]
  have hmem :
      (ofChars source).starts.getD i 0 ∈ 0 :: lineStartsFrom 0 (takeBytes offset source) := by
    rw [starts_eq source offset, Array.getD_eq_getD_getElem?, List.getElem?_toArray,
      List.getElem?_append_left hlength, List.getElem?_eq_getElem hlength]
    exact List.getElem_mem hlength
  obtain hzero | hmem := List.mem_cons.1 hmem
  · omega
  · have hbounds := bounds_of_mem_lineStartsFrom hmem
    rw [clamp_eq]
    omega

theorem lt_getD_starts {i : Nat} (hi : (takeBytes offset source).count '\n' + 1 ≤ i)
    (hsize : i < (ofChars source).starts.size) :
    (ofChars source).clamp offset < (ofChars source).starts.getD i 0 := by
  have hlength : (0 :: lineStartsFrom 0 (takeBytes offset source)).length ≤ i := by
    rwa [List.length_cons, length_lineStartsFrom]
  have hmem : (ofChars source).starts.getD i 0 ∈
      lineStartsFrom ((ofChars source).clamp offset) (dropBytes offset source) := by
    rw [starts_eq source offset, List.size_toArray, List.length_append] at hsize
    rw [starts_eq source offset, Array.getD_eq_getD_getElem?, List.getElem?_toArray,
      List.getElem?_append_right hlength, List.getElem?_eq_getElem (by omega)]
    exact List.getElem_mem _
  exact (bounds_of_mem_lineStartsFrom hmem).1

/-- Bisection finds the line behind that of an offset. -/
theorem bisect_starts :
    bisect (fun i => (ofChars source).starts.getD i 0 ≤ (ofChars source).clamp offset) 0
      (ofChars source).starts.size = (takeBytes offset source).count '\n' + 1 := by
  apply bisect_eq (Nat.zero_le _)
  · rw [starts_eq source offset, List.size_toArray, List.length_append, List.length_cons,
      length_lineStartsFrom]
    omega
  · exact fun i hi => decide_eq_true (getD_starts_le source offset hi)
  · exact fun i hi hsize => decide_eq_false (Nat.not_le.2 (lt_getD_starts source offset hi hsize))

/-- The line of an offset is the number of line feeds before it. -/
theorem line_eq : (ofChars source).line offset = (takeBytes offset source).count '\n' := by
  rw [line, bisect_starts, Nat.add_sub_cancel]

/-- The line of an offset starts behind the last line feed before it. -/
theorem getD_starts_line :
    (ofChars source).starts.getD ((ofChars source).line offset) 0 =
      byteSize (fullLines (takeBytes offset source)) := by
  have hstart := getElem?_lineStarts_count (takeBytes offset source)
  obtain ⟨hlength, -⟩ := List.getElem?_eq_some_iff.1 hstart
  rw [line_eq, starts_eq source offset, Array.getD_eq_getD_getElem?, List.getElem?_toArray,
    List.getElem?_append_left hlength, hstart, Option.getD_some]

/-- Lines and columns are those that a scan of the text would count. -/
theorem position_eq :
    (ofChars source).position offset =
      ⟨(takeBytes offset source).count '\n', (lastLine (takeBytes offset source)).length⟩ := by
  have hcut := dropBytes_byteSize (fullLines (takeBytes offset source))
    (lastLine (takeBytes offset source))
  rw [fullLines_append_lastLine] at hcut
  rw [position, getD_starts_line, line_eq]
  exact congrArg (fun rest => Position.mk _ (List.length rest)) hcut

/-- What a lookup of a stretch of text computes on the way: the number from which one is taken is
not zero, and each cut is made at a boundary, the first one no later than the second. -/
structure Resolves (x : LineIndex) (offset length : Nat) : Prop where
  line : bisect (fun i => x.starts.getD i 0 ≤ x.clamp offset) 0 x.starts.size = x.line offset + 1
  start : Boundary x.source (x.starts.getD (x.line offset) 0)
  start_le : x.starts.getD (x.line offset) 0 ≤ x.clamp offset
  clamp : Boundary x.source (x.clamp offset)
  clamp_le : x.clamp offset ≤ x.clamp (offset + length)
  stop : Boundary x.source (x.clamp (offset + length))

theorem takeBytes_prefix_add (n m : Nat) (s : List Char) :
    takeBytes n s <+: takeBytes (n + m) s := by
  induction s generalizing n with
  | nil => exact List.prefix_refl _
  | cons c s ih =>
      rw [takeBytes, takeBytes]
      split
      · next hle =>
        rw [if_pos (by omega), Nat.sub_add_comm hle]
        exact (List.prefix_cons_inj c).2 (ih _)
      · exact List.nil_prefix

theorem resolves : (ofChars source).Resolves offset length where
  line := by rw [bisect_starts, line_eq]
  start := by
    rw [getD_starts_line]
    have hlines : fullLines (takeBytes offset source) <+: takeBytes offset source :=
      ⟨_, fullLines_append_lastLine _⟩
    exact ⟨_, hlines.trans (takeBytes_isPrefix offset source), rfl⟩
  start_le := by
    rw [line_eq]
    exact getD_starts_le source offset (Nat.lt_succ_self _)
  clamp := boundary_clamp source offset
  clamp_le := by
    rw [clamp_eq, clamp_eq]
    exact byteSize_le_of_prefix (takeBytes_prefix_add offset length source)
  stop := boundary_clamp source (offset + length)

end LineIndex

end Text

end Phrasebook
