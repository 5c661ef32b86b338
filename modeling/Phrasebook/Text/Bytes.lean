/-!
# Phrasebook.Text.Bytes

Byte offsets in a text: the offset of a character is the size in UTF-8 of the characters before it.

`takeBytes n s` and `dropBytes n s` cut a text at the byte offset `n`.  An offset inside a character
cuts before that character, and one beyond the end cuts at the end, so the two parts always make up
the text (`takeBytes_append_dropBytes`).  An offset that is neither is a `Boundary`.
-/

namespace Phrasebook.Text

/-- The size of a text in bytes. -/
def byteSize : List Char → Nat
  | [] => 0
  | c :: rest => c.utf8Size + byteSize rest

/-- The characters that end at or before the byte offset `n`. -/
def takeBytes (n : Nat) : List Char → List Char
  | [] => []
  | c :: rest => if c.utf8Size ≤ n then c :: takeBytes (n - c.utf8Size) rest else []

/-- The characters that do not end at or before the byte offset `n`. -/
def dropBytes (n : Nat) : List Char → List Char
  | [] => []
  | c :: rest => if c.utf8Size ≤ n then dropBytes (n - c.utf8Size) rest else c :: rest

@[simp] theorem byteSize_nil : byteSize [] = 0 := rfl

@[simp] theorem byteSize_cons (c : Char) (s : List Char) :
    byteSize (c :: s) = c.utf8Size + byteSize s := rfl

@[simp] theorem byteSize_append (s t : List Char) :
    byteSize (s ++ t) = byteSize s + byteSize t := by
  induction s with
  | nil => simp
  | cons c s ih => simp [ih, Nat.add_assoc]

/-- Cutting at an offset loses nothing. -/
theorem takeBytes_append_dropBytes (n : Nat) (s : List Char) :
    takeBytes n s ++ dropBytes n s = s := by
  induction s generalizing n with
  | nil => rfl
  | cons c s ih => by_cases h : c.utf8Size ≤ n <;> simp [takeBytes, dropBytes, h, ih]

theorem takeBytes_isPrefix (n : Nat) (s : List Char) : takeBytes n s <+: s :=
  ⟨dropBytes n s, takeBytes_append_dropBytes n s⟩

/-- The part before an offset is no longer than the offset. -/
theorem byteSize_takeBytes_le (n : Nat) (s : List Char) : byteSize (takeBytes n s) ≤ n := by
  induction s generalizing n with
  | nil => simp [takeBytes]
  | cons c s ih =>
    by_cases h : c.utf8Size ≤ n
    · have := ih (n - c.utf8Size)
      simp only [takeBytes, h, if_true, byteSize_cons]
      omega
    · simp [takeBytes, h]

theorem eq_nil_of_byteSize_eq_zero {s : List Char} (h : byteSize s = 0) : s = [] := by
  cases s with
  | nil => rfl
  | cons c rest =>
    have hpos := c.utf8Size_pos
    rw [byteSize_cons] at h
    omega

theorem byteSize_pos {s : List Char} (h : s ≠ []) : 0 < byteSize s :=
  Nat.pos_of_ne_zero fun hzero => h (eq_nil_of_byteSize_eq_zero hzero)

theorem utf8ByteSize_ofList (s : List Char) : (String.ofList s).utf8ByteSize = byteSize s := by
  induction s with
  | nil => rfl
  | cons c s ih =>
    rw [String.ofList_cons, String.utf8ByteSize_append, String.utf8ByteSize_singleton, ih,
      byteSize_cons]

/-- The size of the characters of a string is the size of the string in UTF-8. -/
theorem byteSize_toList (text : String) : byteSize text.toList = text.utf8ByteSize := by
  rw [← utf8ByteSize_ofList, String.ofList_toList]

theorem byteSize_le_of_prefix {s t : List Char} (h : s <+: t) : byteSize s ≤ byteSize t := by
  obtain ⟨piece, rfl⟩ := h
  rw [byteSize_append]
  exact Nat.le_add_right _ _

/-- Of two beginnings of a text, the smaller one begins the other. -/
theorem prefix_of_byteSize_le {source s t : List Char} (hs : s <+: source) (ht : t <+: source)
    (hle : byteSize s ≤ byteSize t) : s <+: t := by
  obtain h | ⟨piece, rfl⟩ := List.prefix_or_prefix_of_prefix hs ht
  · exact h
  · rw [byteSize_append] at hle
    have hnil : piece = [] := eq_nil_of_byteSize_eq_zero (by omega)
    exact ⟨[], by rw [hnil, List.append_nil, List.append_nil]⟩

/-- Cutting behind the first part of a text gives that part. -/
theorem takeBytes_byteSize (s t : List Char) : takeBytes (byteSize s) (s ++ t) = s := by
  induction s with
  | nil =>
    cases t with
    | nil => rfl
    | cons c rest => exact if_neg (Nat.not_le.2 c.utf8Size_pos)
  | cons c s ih =>
    rw [List.cons_append, takeBytes, byteSize_cons, if_pos (Nat.le_add_right _ _),
      Nat.add_sub_cancel_left, ih]

/-- Cutting behind the first part of a text leaves the other part. -/
theorem dropBytes_byteSize (s t : List Char) : dropBytes (byteSize s) (s ++ t) = t := by
  have h := takeBytes_append_dropBytes (byteSize s) (s ++ t)
  rw [takeBytes_byteSize] at h
  exact List.append_cancel_left h

/-- An offset between two characters of a text, or at one of its ends. -/
def Boundary (source : List Char) (offset : Nat) : Prop :=
  ∃ before, before <+: source ∧ byteSize before = offset

theorem Boundary.le {source : List Char} {offset : Nat} (h : Boundary source offset) :
    offset ≤ byteSize source := by
  obtain ⟨before, hbefore, rfl⟩ := h
  exact byteSize_le_of_prefix hbefore

end Phrasebook.Text
