import Phrasebook.Placeholder
import Phrasebook.Text.Bytes
import Mathlib.Data.List.DropRight

/-!
# Phrasebook.Proofs.Blocks

The placeholders of a text are its blocks.

A block is an opening brace and a closing one behind it with no brace between them (`IsBlock`); both
are given by their byte offsets.  The scan for placeholders is followed from the front of the text,
one character more at a time:

1. a name is open behind a text just if the text ends with an opening brace and this name
   (`opened_eq_some_iff`);
2. a further character completes a block just if it is a closing brace and a name is open
   (`isBlock_concat_iff`).
-/

namespace Phrasebook

open Text

/-! ## blocks -/

/-- Whether a character is a brace. -/
def isBrace (c : Char) : Bool := c = '{' || c = '}'

/-- No character of a text is a brace. -/
def Braceless (s : List Char) : Prop := ∀ c ∈ s, isBrace c = false

instance (s : List Char) : Decidable (Braceless s) := List.decidableBAll (isBrace · = false) s

/-- A character stands at a byte offset of a text. -/
def StandsAt (s : List Char) (offset : Nat) (c : Char) : Prop :=
  ∃ before behind, s = before ++ c :: behind ∧ byteSize before = offset

/-- The offsets of two braces that open and close a block of a text. -/
structure IsBlock (s : List Char) (start stop : Nat) : Prop where
  lt : start < stop
  opens : StandsAt s start '{'
  closes : StandsAt s stop '}'
  between : ∀ offset c, start < offset → offset < stop → StandsAt s offset c → isBrace c = false

/-- What stands between the braces of a block. -/
def blockName (s : List Char) (block : Nat × Nat) : List Char :=
  dropBytes (block.1 + 1) (takeBytes block.2 s)

section standsAt

variable {s t : List Char} {offset : Nat} {c : Char}

theorem Braceless.append (hs : Braceless s) (ht : Braceless t) : Braceless (s ++ t) :=
  List.forall_mem_append.2 ⟨hs, ht⟩

theorem Braceless.notMem (h : Braceless s) : '{' ∉ s ∧ '}' ∉ s :=
  ⟨fun hopen => absurd (h _ hopen) (by decide), fun hclose => absurd (h _ hclose) (by decide)⟩

theorem StandsAt.mem (h : StandsAt s offset c) : c ∈ s := by
  obtain ⟨before, behind, rfl, -⟩ := h
  simp

theorem StandsAt.lt (h : StandsAt s offset c) : offset < byteSize s := by
  obtain ⟨before, behind, rfl, rfl⟩ := h
  have hpos := c.utf8Size_pos
  rw [byteSize_append, byteSize_cons]
  omega

/-- A character of a text in two parts stands in one of them. -/
theorem standsAt_append_iff : StandsAt (s ++ t) offset c ↔
    StandsAt s offset c ∨ ∃ rest, StandsAt t rest c ∧ offset = byteSize s + rest := by
  constructor
  · rintro ⟨before, behind, heq, rfl⟩
    obtain ⟨piece, rfl, hbehind⟩ | ⟨piece, rfl, hpiece⟩ := List.append_eq_append_iff.1 heq
    · exact .inr ⟨_, ⟨piece, behind, hbehind, rfl⟩, byteSize_append _ _⟩
    · cases piece with
      | nil => exact .inr ⟨0, ⟨[], behind, by simpa using hpiece.symm, rfl⟩, by simp⟩
      | cons d piece =>
          obtain ⟨rfl, -⟩ := List.cons.inj hpiece
          exact .inl ⟨before, piece, rfl, rfl⟩
  · rintro (⟨before, behind, rfl, rfl⟩ | ⟨_, ⟨before, behind, rfl, rfl⟩, rfl⟩)
    · exact ⟨before, behind ++ t, by simp, rfl⟩
    · exact ⟨s ++ before, behind, by simp, byteSize_append _ _⟩

end standsAt

section isBlock

variable {s before name behind : List Char} {start stop : Nat} {c : Char}

theorem utf8Size_brace : '{'.utf8Size = 1 := rfl

/-- A text with a block in it, with more behind it. -/
theorem block_append (before name behind t : List Char) :
    before ++ '{' :: (name ++ '}' :: behind) ++ t =
      before ++ '{' :: (name ++ '}' :: (behind ++ t)) := by
  simp

/-- A text that ends with a block, up to its last brace and from there on. -/
theorem append_close (before name behind : List Char) :
    before ++ '{' :: name ++ '}' :: behind = before ++ '{' :: (name ++ '}' :: behind) := by simp

theorem isBlock_of_braceless (hname : Braceless name) :
    IsBlock (before ++ '{' :: (name ++ '}' :: behind)) (byteSize before)
      (byteSize (before ++ '{' :: name)) where
  lt := by
    rw [byteSize_append, byteSize_cons, utf8Size_brace]
    omega
  opens := ⟨before, _, rfl, rfl⟩
  closes := ⟨before ++ '{' :: name, behind, by simp, rfl⟩
  between offset c hstart hstop hc := by
    have heq : before ++ '{' :: (name ++ '}' :: behind) =
        (before ++ ['{']) ++ (name ++ '}' :: behind) := by
      simp
    rw [byteSize_append, byteSize_cons, utf8Size_brace] at hstop
    rw [heq] at hc
    obtain hfront | ⟨_, hrest, rfl⟩ := standsAt_append_iff.1 hc
    · have hlt := hfront.lt
      rw [byteSize_append, byteSize_cons, utf8Size_brace, byteSize_nil] at hlt
      omega
    · rw [byteSize_append, byteSize_cons, utf8Size_brace, byteSize_nil] at hstop
      obtain hin | ⟨_, -, rfl⟩ := standsAt_append_iff.1 hrest
      · exact hname c hin.mem
      · omega

/-- A block cuts its text into what stands before it, its name and what stands behind it. -/
theorem IsBlock.exists_eq (h : IsBlock s start stop) : ∃ before name behind,
    s = before ++ '{' :: (name ++ '}' :: behind) ∧ Braceless name ∧ start = byteSize before ∧
      stop = byteSize (before ++ '{' :: name) := by
  obtain ⟨before, rest, rfl, rfl⟩ := h.opens
  have hlt := h.lt
  have hcloses := h.closes
  have heq : before ++ '{' :: rest = (before ++ ['{']) ++ rest := by simp
  rw [heq] at hcloses
  obtain hfront | ⟨_, ⟨name, behind, rfl, rfl⟩, rfl⟩ := standsAt_append_iff.1 hcloses
  · have hle := hfront.lt
    rw [byteSize_append, byteSize_cons, utf8Size_brace, byteSize_nil] at hle
    omega
  refine ⟨before, name, behind, rfl, fun c hc => ?_, rfl, by simp [Nat.add_assoc]⟩
  obtain ⟨front, back, rfl⟩ := List.append_of_mem hc
  have hpos := c.utf8Size_pos
  refine h.between (byteSize (before ++ '{' :: front)) c ?_ ?_
    ⟨before ++ '{' :: front, back ++ '}' :: behind, by simp, rfl⟩
  · rw [byteSize_append, byteSize_cons, utf8Size_brace]
    omega
  · simp only [byteSize_append, byteSize_cons, byteSize_nil]
    omega

/-- A block of a text stays one when the text goes on. -/
theorem IsBlock.append (h : IsBlock s start stop) (t : List Char) :
    IsBlock (s ++ t) start stop := by
  obtain ⟨before, name, behind, rfl, hname, rfl, rfl⟩ := h.exists_eq
  rw [block_append]
  exact isBlock_of_braceless hname

/-- A text has the blocks that it has without its last character, and one more if this character
closes a name. -/
theorem isBlock_concat_iff : IsBlock (s ++ [c]) start stop ↔
    IsBlock s start stop ∨ c = '}' ∧ ∃ before name, s = before ++ '{' :: name ∧ Braceless name ∧
      start = byteSize before ∧ stop = byteSize s := by
  constructor
  · intro h
    obtain ⟨before, name, behind, heq, hname, rfl, rfl⟩ := h.exists_eq
    obtain rfl | ⟨behind, d, rfl⟩ := List.eq_nil_or_concat' behind
    · have hlast : s ++ [c] = (before ++ '{' :: name) ++ ['}'] := by simpa using heq
      obtain ⟨rfl, hc⟩ := List.append_inj' hlast rfl
      exact .inr ⟨List.singleton_inj.1 hc, before, name, rfl, hname, rfl, rfl⟩
    · have hlast : s ++ [c] = (before ++ '{' :: (name ++ '}' :: behind)) ++ [d] := by
        simpa using heq
      obtain ⟨rfl, -⟩ := List.append_inj' hlast rfl
      exact .inl (isBlock_of_braceless hname)
  · rintro (h | ⟨rfl, before, name, rfl, hname, rfl, rfl⟩)
    · exact h.append [c]
    · rw [append_close]
      exact isBlock_of_braceless hname

theorem blockName_eq (before name behind : List Char) :
    blockName (before ++ '{' :: (name ++ '}' :: behind))
      (byteSize before, byteSize (before ++ '{' :: name)) = name := by
  have htake := takeBytes_byteSize (before ++ '{' :: name) ('}' :: behind)
  have hdrop := dropBytes_byteSize (before ++ ['{']) name
  rw [append_close] at htake
  rw [byteSize_append, byteSize_cons, utf8Size_brace, byteSize_nil, List.append_assoc,
    List.singleton_append] at hdrop
  rw [blockName, htake, hdrop]

end isBlock

/-! ## the open name -/

/-- The name that is open behind one more character. -/
def openedBy (name? : Option (List Char)) (c : Char) : Option (List Char) :=
  if c = '{' then some [] else if c = '}' then none else name?.map (· ++ [c])

/-- The name that is open behind a text. -/
def opened (s : List Char) : Option (List Char) := s.foldl openedBy none

section opened

variable {s t name : List Char} {name? : Option (List Char)} {c : Char}

/-- Placeholders of a text in two parts: what the first part opens is open at the start of the
second. -/
theorem placeholdersFrom_append : placeholdersFrom name? (s ++ t) =
    placeholdersFrom name? s ++ placeholdersFrom (s.foldl openedBy name?) t := by
  induction s generalizing name? with
  | nil => rfl
  | cons c s ih =>
      rw [List.cons_append, placeholdersFrom, placeholdersFrom, List.foldl_cons, openedBy]
      by_cases hopen : c = '{'
      · rw [if_pos hopen, if_pos hopen, if_pos hopen, ih]
      rw [if_neg hopen, if_neg hopen, if_neg hopen]
      by_cases hclose : c = '}'
      · rw [if_pos hclose, if_pos hclose, if_pos hclose, ih, List.append_assoc]
      · rw [if_neg hclose, if_neg hclose, if_neg hclose, ih]

/-- One more character gives one more placeholder if it is a closing brace and a name is open. -/
theorem placeholdersFrom_concat : placeholdersFrom none (s ++ [c]) =
    placeholdersFrom none s ++ if c = '}' then (opened s).toList else [] := by
  rw [placeholdersFrom_append, ← opened]
  by_cases hclose : c = '}'
  · subst hclose
    simp [placeholdersFrom]
  · simp [placeholdersFrom, hclose]

theorem opened_concat : opened (s ++ [c]) = openedBy (opened s) c := by
  rw [opened, List.foldl_append]
  rfl

theorem openedBy_eq_some_iff : openedBy name? c = some name ↔
    c = '{' ∧ name = [] ∨
      isBrace c = false ∧ ∃ front, name? = some front ∧ name = front ++ [c] := by
  rw [openedBy, isBrace]
  by_cases hopen : c = '{'
  · simp [hopen, eq_comm]
  by_cases hclose : c = '}'
  · simp [hclose]
  · cases name? <;> simp [hopen, hclose, eq_comm]

theorem endsOpen_concat_iff : (∃ before, s ++ [c] = before ++ '{' :: name ∧ Braceless name) ↔
    c = '{' ∧ name = [] ∨ isBrace c = false ∧
      ∃ front, (∃ before, s = before ++ '{' :: front ∧ Braceless front) ∧ name = front ++ [c] := by
  constructor
  · rintro ⟨before, heq, hname⟩
    obtain rfl | ⟨front, d, rfl⟩ := List.eq_nil_or_concat' name
    · obtain ⟨-, hc⟩ := List.append_inj' heq rfl
      exact .inl ⟨List.singleton_inj.1 hc, rfl⟩
    · have hlast : s ++ [c] = (before ++ '{' :: front) ++ [d] := by simpa using heq
      obtain ⟨rfl, hc⟩ := List.append_inj' hlast rfl
      obtain rfl := List.singleton_inj.1 hc
      obtain ⟨hfront, hlast⟩ := List.forall_mem_append.1 hname
      exact .inr ⟨hlast c (List.mem_singleton_self c), front, ⟨before, rfl, hfront⟩, rfl⟩
  · rintro (⟨rfl, rfl⟩ | ⟨hc, front, ⟨before, rfl, hfront⟩, rfl⟩)
    · exact ⟨s, rfl, fun _ h => absurd h List.not_mem_nil⟩
    · exact ⟨before, by simp, hfront.append (List.forall_mem_singleton.2 hc)⟩

/-- A name is open behind a text just if the text ends with an opening brace and the name. -/
theorem opened_eq_some_iff :
    opened s = some name ↔ ∃ before, s = before ++ '{' :: name ∧ Braceless name := by
  induction s using List.reverseRecOn generalizing name with
  | nil => simp [opened]
  | append_singleton s c ih =>
      simp only [opened_concat, openedBy_eq_some_iff, endsOpen_concat_iff, ih]

/-- A name is open behind a text just if an opening brace stands behind its last closing one. -/
theorem isSome_opened_iff : (opened s).isSome = true ↔ '{' ∈ s.rtakeWhile (· != '}') := by
  induction s using List.reverseRecOn with
  | nil => simp [opened]
  | append_singleton s c ih =>
      rw [opened_concat, openedBy, List.rtakeWhile_concat]
      by_cases hopen : c = '{'
      · simp [hopen]
      by_cases hclose : c = '}'
      · simp [hclose]
      · simp [hopen, hclose, ih, Ne.symm hopen]

end opened

/-! ## all blocks -/

section blocks

variable {s before name front : List Char} {c : Char} {start stop : Nat}

theorem not_isBlock_nil : ¬ IsBlock [] start stop := fun h => List.not_mem_nil h.opens.mem

/-- A block of a text keeps its name when the text goes on. -/
theorem blockName_append (h : IsBlock s start stop) (t : List Char) :
    blockName (s ++ t) (start, stop) = blockName s (start, stop) := by
  obtain ⟨before, name, behind, rfl, -, rfl, rfl⟩ := h.exists_eq
  rw [block_append, blockName_eq, blockName_eq]

theorem IsBlock.braceless_blockName (h : IsBlock s start stop) :
    Braceless (blockName s (start, stop)) := by
  obtain ⟨before, name, behind, rfl, hname, rfl, rfl⟩ := h.exists_eq
  rwa [blockName_eq]

/-- The blocks of a text end in front of the name that is open behind it. -/
theorem IsBlock.stop_lt (h : IsBlock (before ++ '{' :: name) start stop) (hname : Braceless name) :
    stop < byteSize before := by
  obtain hfront | ⟨_, hrest, -⟩ := standsAt_append_iff.1 h.closes
  · exact hfront.lt
  · obtain hbrace | hin := List.mem_cons.1 hrest.mem
    · exact absurd hbrace (by decide)
    · exact absurd hin hname.notMem.2

/-- A closing brace behind an open name completes one block. -/
theorem isBlock_close_iff (hname : Braceless name) :
    IsBlock (before ++ '{' :: name ++ ['}']) start stop ↔
      IsBlock (before ++ '{' :: name) start stop ∨
        (start, stop) = (byteSize before, byteSize (before ++ '{' :: name)) := by
  rw [isBlock_concat_iff, Prod.mk.injEq]
  refine or_congr_right ⟨?_, fun ⟨hstart, hstop⟩ => ⟨rfl, before, name, rfl, hname, hstart, hstop⟩⟩
  rintro ⟨-, front, other, heq, hother, rfl, rfl⟩
  -- both names are the one that is open behind the text
  have hopened := opened_eq_some_iff.2 ⟨before, rfl, hname⟩
  obtain rfl := Option.some.inj (hopened.symm.trans (opened_eq_some_iff.2 ⟨front, heq, hother⟩))
  obtain rfl := List.append_cancel_right heq
  exact ⟨rfl, rfl⟩

/-- No other character does, nor does a closing brace where no name is open. -/
theorem isBlock_concat_iff_of_opened (h : c = '}' → opened s = none) :
    IsBlock (s ++ [c]) start stop ↔ IsBlock s start stop := by
  rw [isBlock_concat_iff, or_iff_left]
  rintro ⟨hclose, before, name, heq, hname, -, -⟩
  rw [opened_eq_some_iff.2 ⟨before, heq, hname⟩] at h
  cases h hclose

/-- The placeholders of a text are the names of its blocks, one behind the other. -/
theorem exists_blocks (s : List Char) : ∃ blocks : List (Nat × Nat),
    (∀ start stop, (start, stop) ∈ blocks ↔ IsBlock s start stop) ∧
      blocks.Pairwise (fun first second => first.2 < second.1) ∧
      placeholdersFrom none s = blocks.map (blockName s) := by
  induction s using List.reverseRecOn with
  | nil => exact ⟨[], fun _ _ => iff_of_false List.not_mem_nil not_isBlock_nil, .nil, rfl⟩
  | append_singleton s c ih =>
      obtain ⟨blocks, hmem, hordered, hnames⟩ := ih
      have hkept : blocks.map (blockName (s ++ [c])) = placeholdersFrom none s := by
        rw [hnames]
        exact List.map_congr_left fun block hblock => blockName_append ((hmem _ _).1 hblock) [c]
      rw [placeholdersFrom_concat]
      by_cases hnone : c = '}' → opened s = none
      · refine ⟨blocks, fun start stop => (hmem start stop).trans
          (isBlock_concat_iff_of_opened hnone).symm, hordered, ?_⟩
        rw [hkept]
        split
        next hclose => rw [hnone hclose, Option.toList_none, List.append_nil]
        next => rw [List.append_nil]
      · obtain ⟨rfl, hsome⟩ := Classical.not_imp.1 hnone
        obtain ⟨name, hopened⟩ := Option.ne_none_iff_exists'.1 hsome
        obtain ⟨before, rfl, hname⟩ := opened_eq_some_iff.1 hopened
        refine ⟨blocks ++ [(byteSize before, byteSize (before ++ '{' :: name))],
          fun start stop => ?_, ?_, ?_⟩
        · rw [List.mem_append, hmem, List.mem_singleton, isBlock_close_iff hname]
        · refine List.pairwise_append.2
            ⟨hordered, List.pairwise_singleton _ _, fun block hblock new hnew => ?_⟩
          rw [List.mem_singleton.1 hnew]
          exact ((hmem _ _).1 hblock).stop_lt hname
        · rw [if_pos rfl, hopened, List.map_append, hkept, List.map_singleton, append_close,
            blockName_eq, Option.toList_some]

end blocks

/-! ## placeholders -/

section placeholders

variable {name? : Option (List Char)} {s : List Char}

/-- Where a text opens a brace before it closes one, a name that is open in front of it does not
matter. -/
theorem placeholdersFrom_eq_none (h : s.find? isBrace ≠ some '}') :
    placeholdersFrom name? s = placeholdersFrom none s := by
  induction s generalizing name? with
  | nil => rfl
  | cons c s ih =>
      rw [placeholdersFrom, placeholdersFrom]
      by_cases hopen : c = '{'
      · rw [if_pos hopen, if_pos hopen]
      rw [if_neg hopen, if_neg hopen]
      have hclose : c ≠ '}' := fun hclose => h (by rw [hclose]; rfl)
      have hbrace : isBrace c = false := by simp [isBrace, hopen, hclose]
      rw [List.find?_cons_of_neg (Bool.eq_false_iff.1 hbrace)] at h
      rw [if_neg hclose, if_neg hclose, ih h]
      exact (ih h).symm

/-- **Placeholders are the blocks of a text.**

1. They are the names of all blocks, each one in its place, and no two blocks overlap.
2. There is no brace in a name.
3. A text may be cut where no name is open behind its first part, or where the second part opens a
   brace before it closes one: its placeholders are those of the two parts. -/
theorem placeholders_are_blocks (text : String) :
    (∃ blocks : List (Nat × Nat),
      (∀ start stop, (start, stop) ∈ blocks ↔ IsBlock text.toList start stop) ∧
        blocks.Pairwise (fun first second => first.2 < second.1) ∧
        placeholders text = blocks.map fun block => String.ofList (blockName text.toList block)) ∧
    (∀ name ∈ placeholders text, '{' ∉ name.toList ∧ '}' ∉ name.toList) ∧
    ∀ front back : String, text = front ++ back →
      '{' ∉ front.toList.rtakeWhile (· != '}') ∨ back.toList.find? isBrace ≠ some '}' →
        placeholders text = placeholders front ++ placeholders back := by
  obtain ⟨blocks, hmem, hordered, hnames⟩ := exists_blocks text.toList
  refine ⟨⟨blocks, hmem, hordered, by rw [placeholders, hnames, List.map_map]; rfl⟩, ?_, ?_⟩
  · intro name hname
    rw [placeholders, hnames, List.map_map] at hname
    obtain ⟨block, hblock, rfl⟩ := List.mem_map.1 hname
    rw [Function.comp_apply, String.toList_ofList]
    exact ((hmem _ _).1 hblock).braceless_blockName.notMem
  · rintro front back rfl hcut
    have hback : placeholdersFrom (opened front.toList) back.toList =
        placeholdersFrom none back.toList := by
      obtain hclosed | hfirst := hcut
      · rw [← isSome_opened_iff, Bool.not_eq_true, Option.isSome_eq_false_iff,
          Option.isNone_iff_eq_none] at hclosed
        rw [hclosed]
      · exact placeholdersFrom_eq_none hfirst
    rw [placeholders, placeholders, placeholders, String.toList_append, placeholdersFrom_append,
      ← opened, hback, List.map_append]

/-- A name is open in front of the cut, and the second part opens one of its own before it closes
any. -/
theorem placeholders_are_blocks_umlautText :
    let front := "\x7bä\x7d\x7bb\x7bc"
    let back := "d\x7bé\x7d \x7d\x7b"
    back.toList.find? isBrace ≠ some '}' ∧ "é" ∈ placeholders (front ++ back) ∧ '{' ∉ "é".toList ∧
      placeholders (front ++ back) = placeholders front ++ placeholders back := by
  intro front back
  have hfirst : back.toList.find? isBrace ≠ some '}' := by decide
  have hname : "é" ∈ placeholders (front ++ back) := by decide +kernel
  obtain ⟨-, hnames, hcut⟩ := placeholders_are_blocks (front ++ back)
  exact ⟨hfirst, hname, (hnames "é" hname).1, hcut front back rfl (.inr hfirst)⟩

end placeholders

end Phrasebook
