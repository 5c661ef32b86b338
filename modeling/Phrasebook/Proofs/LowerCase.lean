import Phrasebook.Proofs.UpperCase
import Phrasebook.Text.Blank
import Phrasebook.Text.Lower

/-!
# Phrasebook.Proofs.LowerCase

Lower case is settled: a text in lower case has itself as its lower case (`lower_lower`).

1. The mapping does not mention its own images (`images_of_lowerMap`): the code points that it
   mentions are kept as the bits of a number, so that the table is gone through once.  A capital
   sigma is mapped, so it is no image either: in lower case nothing depends on what stands around a
   character.
2. No image is blank.  A text that does not start or end with a blank has a lower case that does not
   (`Trimmed.lower`).
-/

namespace Phrasebook.Text

/-! ## single characters -/

/-- Between two neighbouring bounds, all code points lie inside a set or all lie outside. -/
theorem CodeSet.covers_eq_of_gap {inside : Bool} {bounds : List Nat} {first last n : Nat}
    (h : ∀ bound ∈ bounds, bound ≤ first ∨ last < bound) (hfirst : first ≤ n) (hlast : n ≤ last) :
    covers inside bounds n = covers inside bounds first := by
  induction bounds generalizing inside with
  | nil => rfl
  | cons bound rest ih =>
      obtain ⟨hbound, hrest⟩ := List.forall_mem_cons.1 h
      rw [covers, covers, ih hrest]
      obtain hle | hlt := hbound
      · rw [if_neg (by omega), if_neg (by omega)]
      · rw [if_pos (by omega), if_pos (by omega)]

namespace CaseRun

/-- The number whose bits `first`, `first + step`, … are set, `count` of them. -/
def bits (first step : Nat) : Nat → Nat
  | 0 => 0
  | count + 1 => bits first step count ||| 1 <<< (first + count * step)

/-- The code points that a run maps, as the bits of a number. -/
def mask (r : CaseRun) : Nat := bits r.first r.step ((r.last - r.first) / r.step + 1)

/-- Whether no image of a run is one of the bits of a number. -/
def misses (r : CaseRun) (mask : Nat) : Bool :=
  (List.range (r.last + 1 - r.first)).all fun i =>
    !(r.maps (r.first + i) && mask.testBit (r.image (r.first + i)))

/-- Whether the images of a run are characters and none of them is blank. -/
def staysVisible (r : CaseRun) : Bool :=
  ((r.image r.last).blt 0xD800 ||
      Nat.blt 0xDFFF (r.image r.first) && (r.image r.last).blt 0x110000) &&
    (blanks.bounds.all fun bound => bound.ble (r.image r.first) || (r.image r.last).blt bound) &&
    !CodeSet.covers false blanks.bounds (r.image r.first)

variable {r : CaseRun} {first step count i n : Nat}

theorem image_mem_Icc (h : r.maps n = true) :
    r.image r.first ≤ r.image n ∧ r.image n ≤ r.image r.last := by
  have hle := le_of_maps h
  simp only [image]
  omega

theorem testBit_bits (h : i < count) :
    (bits first step count).testBit (first + i * step) = true := by
  induction count with
  | zero => omega
  | succ count ih =>
      rw [bits, Nat.testBit_or, Bool.or_eq_true]
      obtain hlt | rfl := Nat.lt_succ_iff_lt_or_eq.1 h
      · exact .inl (ih hlt)
      · exact .inr (by rw [Nat.one_shiftLeft, Nat.testBit_two_pow_self])

theorem testBit_mask (h : r.maps n = true) : r.mask.testBit n = true := by
  have hle := le_of_maps h
  have hstep : (n - r.first) % r.step = 0 := by simpa [maps, hle] using h
  have hn : r.first + (n - r.first) / r.step * r.step = n := by
    rw [Nat.div_mul_cancel (Nat.dvd_of_mod_eq_zero hstep), Nat.add_sub_cancel' hle.1]
  have hcount := Nat.div_le_div_right (c := r.step) (Nat.sub_le_sub_right hle.2 r.first)
  rw [mask, ← hn]
  exact testBit_bits (Nat.lt_succ_of_le hcount)

theorem testBit_image_of_misses {mask : Nat} (h : r.misses mask = true) (hn : r.maps n = true) :
    mask.testBit (r.image n) = false := by
  have hle := le_of_maps hn
  have hi := List.all_eq_true.1 h (n - r.first) (List.mem_range.2 (by omega))
  rw [Nat.add_sub_cancel' hle.1, hn, Bool.true_and] at hi
  simpa using hi

theorem toNat_image (h : r.staysVisible = true) (hn : r.maps n = true) :
    (Char.ofNat (r.image n)).toNat = r.image n := by
  have himage := image_mem_Icc hn
  simp only [staysVisible, Bool.and_eq_true, Bool.or_eq_true, Nat.blt_eq] at h
  have hvalid : (r.image n).isValidChar := by
    unfold Nat.isValidChar
    omega
  rw [Char.toNat_ofNat, if_pos hvalid]

theorem isBlank_image (h : r.staysVisible = true) (hn : r.maps n = true) :
    isBlank (Char.ofNat (r.image n)) = false := by
  have himage := image_mem_Icc hn
  rw [isBlank, CodeSet.contains, toNat_image h hn]
  simp only [staysVisible, Bool.and_eq_true, List.all_eq_true, Bool.or_eq_true, Nat.ble_eq,
    Nat.blt_eq, Bool.not_eq_true'] at h
  rw [CodeSet.covers_eq_of_gap h.1.2 himage.1 himage.2, h.2]

end CaseRun

namespace CaseMap

theorem findRun?_eq_none {n : Nat} {runs : List CaseRun} (h : ∀ r ∈ runs, r.maps n = false) :
    findRun? n runs = none := by
  induction runs with
  | nil => rfl
  | cons r rest ih =>
      obtain ⟨hr, hrest⟩ := List.forall_mem_cons.1 h
      rw [findRun?, hr, ih hrest]
      exact ite_self none

/-- The runs of a mapping; a code point that is listed on its own counts as a run of one. -/
def sources (m : CaseMap) : List CaseRun := m.runs ++ m.special.map fun e => ⟨e.1, e.1, 1, 0⟩

/-- The code points that a mapping mentions, as the bits of a number. -/
def mask (m : CaseMap) : Nat := m.sources.foldr (fun r mask => r.mask ||| mask) 0

theorem testBit_mask {m : CaseMap} {r : CaseRun} {n : Nat} (hr : r ∈ m.sources)
    (hn : r.maps n = true) : m.mask.testBit n = true := by
  rw [mask]
  generalize m.sources = sources at hr
  induction sources with
  | nil => cases hr
  | cons first rest ih =>
      rw [List.foldr_cons, Nat.testBit_or, Bool.or_eq_true]
      obtain rfl | hr := List.mem_cons.1 hr
      · exact .inl (CaseRun.testBit_mask hn)
      · exact .inr (ih hr)

/-- A character that a mapping does not mention is mapped to itself. -/
theorem apply_eq_self {m : CaseMap} {c : Char} (h : m.mask.testBit c.toNat = false) :
    m.apply c = [c] := by
  have hnone : ∀ r ∈ m.sources, r.maps c.toNat = false := fun r hr =>
    Bool.eq_false_iff.2 fun hmaps => by simp [testBit_mask hr hmaps] at h
  rw [sources, List.forall_mem_append, List.forall_mem_map] at hnone
  have hlookup : m.special.lookup c.toNat = none := by
    refine List.lookup_eq_none_iff.2 fun e he => bne_iff_ne.2 fun heq => ?_
    have hnot := hnone.2 e he
    simp [CaseRun.maps, heq] at hnot
  rw [apply, findRun?_eq_none hnone.1]
  dsimp only
  rw [hlookup]
  exact ite_self [c]

/-- Whether a mapping does not mention a character, which is not blank either. -/
def settled (m : CaseMap) (c : Char) : Bool := !m.mask.testBit c.toNat && !isBlank c

theorem of_settled {m : CaseMap} {c : Char} (h : m.settled c = true) :
    m.apply c = [c] ∧ isBlank c = false := by
  simp only [settled, Bool.and_eq_true, Bool.not_eq_true'] at h
  exact ⟨apply_eq_self h.1, h.2⟩

end CaseMap

/-! ## the mapping of single characters -/

/-- What the table of the mapping shows: it leaves its own images alone, and both forms that a
capital sigma takes. -/
theorem images_of_lowerMap :
    (∀ r ∈ lowerMap.runs, r.misses lowerMap.mask = true ∧ r.staysVisible = true) ∧
    (∀ e ∈ lowerMap.special, e.2 ≠ [] ∧ ∀ n ∈ e.2, lowerMap.settled (Char.ofNat n) = true) ∧
    lowerMap.settled 'σ' = true ∧ lowerMap.settled 'ς' = true ∧ lowerMap.apply 'Σ' = ['σ'] := by
  decide +kernel

variable {c d : Char} {before after s : List Char}

/-- What a character is mapped to is mapped to itself. -/
theorem apply_lowerMap_of_mem (h : d ∈ lowerMap.apply c) : lowerMap.apply d = [d] := by
  obtain ⟨r, hr, hmaps, happly⟩ | ⟨e, he, -, happly⟩ | happly := lowerMap.apply_cases c
  · rw [happly, List.mem_singleton] at h
    subst h
    obtain ⟨hmisses, hvisible⟩ := images_of_lowerMap.1 r hr
    refine CaseMap.apply_eq_self ?_
    rw [CaseRun.toNat_image hvisible hmaps]
    exact CaseRun.testBit_image_of_misses hmisses hmaps
  · rw [happly] at h
    obtain ⟨n, hn, rfl⟩ := List.mem_map.1 h
    exact (CaseMap.of_settled ((images_of_lowerMap.2.1 e he).2 n hn)).1
  · rw [happly, List.mem_singleton] at h
    rw [h, happly]

/-- No character that is not blank is mapped to one that is. -/
theorem isBlank_of_mem_apply_lowerMap (hc : isBlank c = false) (h : d ∈ lowerMap.apply c) :
    isBlank d = false := by
  obtain ⟨r, hr, hmaps, happly⟩ | ⟨e, he, -, happly⟩ | happly := lowerMap.apply_cases c
  · rw [happly, List.mem_singleton] at h
    rw [h, CaseRun.isBlank_image (images_of_lowerMap.1 r hr).2 hmaps]
  · rw [happly] at h
    obtain ⟨n, hn, rfl⟩ := List.mem_map.1 h
    exact (CaseMap.of_settled ((images_of_lowerMap.2.1 e he).2 n hn)).2
  · rw [happly, List.mem_singleton] at h
    rw [h, hc]

theorem apply_lowerMap_ne_nil (c : Char) : lowerMap.apply c ≠ [] := by
  obtain ⟨r, -, -, happly⟩ | ⟨e, he, -, happly⟩ | happly := lowerMap.apply_cases c
  · exact happly ▸ List.cons_ne_nil _ _
  · rw [happly, Ne, List.map_eq_nil_iff]
    exact (images_of_lowerMap.2.1 e he).1
  · exact happly ▸ List.cons_ne_nil _ _

/-! ## characters in their place -/

/-- A capital sigma takes one of two forms, which are settled, and every other character that of the
mapping. -/
theorem lowerAt_cases (before : List Char) (c : Char) (after : List Char) :
    (∃ d, lowerMap.settled d = true ∧ lowerAt before c after = [d]) ∨
      lowerAt before c after = lowerMap.apply c := by
  obtain ⟨-, -, hsigma, hfinal, -⟩ := images_of_lowerMap
  rw [lowerAt]
  split
  · split
    · exact .inl ⟨'ς', hfinal, rfl⟩
    · exact .inl ⟨'σ', hsigma, rfl⟩
  · exact .inr rfl

theorem apply_lowerMap_of_mem_lowerAt (h : d ∈ lowerAt before c after) :
    lowerMap.apply d = [d] := by
  obtain ⟨e, he, heq⟩ | heq := lowerAt_cases before c after
  · rw [heq, List.mem_singleton] at h
    exact h ▸ (CaseMap.of_settled he).1
  · exact apply_lowerMap_of_mem (heq ▸ h)

theorem isBlank_of_mem_lowerAt (hc : isBlank c = false) (h : d ∈ lowerAt before c after) :
    isBlank d = false := by
  obtain ⟨e, he, heq⟩ | heq := lowerAt_cases before c after
  · rw [heq, List.mem_singleton] at h
    exact h ▸ (CaseMap.of_settled he).2
  · exact isBlank_of_mem_apply_lowerMap hc (heq ▸ h)

theorem lowerAt_ne_nil (before : List Char) (c : Char) (after : List Char) :
    lowerAt before c after ≠ [] := by
  obtain ⟨e, -, heq⟩ | heq := lowerAt_cases before c after
  · exact heq ▸ List.cons_ne_nil _ _
  · exact heq ▸ apply_lowerMap_ne_nil c

/-- A character that is mapped to itself has itself as its lower case wherever it stands: it is no
capital sigma. -/
theorem lowerAt_of_apply_eq (h : lowerMap.apply c = [c]) : lowerAt before c after = [c] := by
  rw [lowerAt, if_neg, h]
  rintro rfl
  obtain ⟨-, -, -, -, hcapital⟩ := images_of_lowerMap
  cases hcapital.symm.trans h

/-! ## texts -/

theorem apply_lowerMap_of_mem_lowerFrom (h : d ∈ lowerFrom before s) : lowerMap.apply d = [d] := by
  induction s generalizing before with
  | nil => cases h
  | cons c rest ih =>
      obtain h | h := List.mem_append.1 h
      · exact apply_lowerMap_of_mem_lowerAt h
      · exact ih h

theorem lowerFrom_eq_self (h : ∀ c ∈ s, lowerMap.apply c = [c]) : lowerFrom before s = s := by
  induction s generalizing before with
  | nil => rfl
  | cons c rest ih =>
      obtain ⟨hc, hrest⟩ := List.forall_mem_cons.1 h
      rw [lowerFrom, lowerAt_of_apply_eq hc, ih hrest, List.singleton_append]

/-- The lower case of a text in lower case is that text. -/
theorem lower_lower (s : List Char) : lower (lower s) = lower s :=
  lowerFrom_eq_self fun _ hc => apply_lowerMap_of_mem_lowerFrom hc

/-- The lower case of the last character stands last. -/
theorem exists_lowerFrom_concat (before s : List Char) (c : Char) :
    ∃ front, lowerFrom before (s ++ [c]) = front ++ lowerAt (s.reverse ++ before) c [] := by
  induction s generalizing before with
  | nil => exact ⟨[], by simp [lowerFrom]⟩
  | cons d rest ih =>
      obtain ⟨front, hfront⟩ := ih (d :: before)
      exact ⟨lowerAt before d (rest ++ [c]) ++ front, by simp [lowerFrom, hfront]⟩

/-! ## blanks at the ends -/

/-- A text that neither starts nor ends with a blank. -/
structure Trimmed (s : List Char) : Prop where
  head : ∀ c ∈ s.head?, isBlank c = false
  last : ∀ c ∈ s.getLast?, isBlank c = false

theorem trimmed_trim (s : List Char) : Trimmed (trim s) where
  head c hc := by
    obtain ⟨behind, hbehind⟩ : trim s <+: trimStart s :=
      List.rdropWhile_prefix isBlank (trimStart s)
    have hhead : (trimStart s).head? = some c := by
      rw [← hbehind, List.head?_append, Option.mem_def.1 hc, Option.some_or]
    have hnot := List.head?_dropWhile_not isBlank s
    rw [← trimStart, hhead] at hnot
    exact hnot
  last c hc := by
    obtain ⟨hne, rfl⟩ := List.mem_getLast?_eq_getLast hc
    exact Bool.eq_false_iff.2 ((trimStart s).rdropWhile_last_not isBlank hne)

/-- Nothing is trimmed from a text without blanks at its ends. -/
theorem Trimmed.trim_eq_self (h : Trimmed s) : trim s = s := by
  have hstart : trimStart s = s := by
    refine List.dropWhile_eq_self_iff.2 fun hlength => ?_
    rw [h.head s[0] (by simp [List.head?_eq_getElem?])]
    exact Bool.false_ne_true
  have hend : trimEnd s = s := by
    refine List.rdropWhile_eq_self_iff.2 fun hne => ?_
    rw [h.last _ (List.getLast_mem_getLast? hne)]
    exact Bool.false_ne_true
  rw [trim, hstart, hend]

theorem Trimmed.lower (h : Trimmed s) : Trimmed (lower s) where
  head := by
    cases s with
    | nil => simp [Text.lower, lowerFrom]
    | cons c rest =>
        intro d hd
        rw [Text.lower, lowerFrom, List.head?_append_of_ne_nil _ (lowerAt_ne_nil _ c rest)] at hd
        exact isBlank_of_mem_lowerAt (h.head c rfl) (List.mem_of_mem_head? hd)
  last := by
    obtain rfl | ⟨front, c, rfl⟩ := List.eq_nil_or_concat s
    · simp [Text.lower, lowerFrom]
    · intro d hd
      rw [List.concat_eq_append] at h hd
      obtain ⟨lowered, hlowered⟩ := exists_lowerFrom_concat [] front c
      rw [Text.lower, hlowered, List.getLast?_append_of_ne_nil _ (lowerAt_ne_nil _ c [])] at hd
      exact isBlank_of_mem_lowerAt (h.last c (by simp)) (List.mem_of_getLast? hd)

end Phrasebook.Text
