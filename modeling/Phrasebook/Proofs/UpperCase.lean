import Mathlib
import Phrasebook.Text.Numeral
import Phrasebook.Text.Upper

/-!
# Phrasebook.Proofs.UpperCase

What the upper case of a letter or numeral is made of.

The characters of an upper-case form are letters and numerals again, with 26 exceptions: a small
letter with a diacritic for which there is no capital of its own becomes a capital and combining
marks (`markedLetters`).
-/

namespace Phrasebook.Text

/-! ## ranges of code points -/

namespace CodeSet

/-- A set as a number: bit `n` is set where `n` lies inside a finite set.  Bits are looked up in one
step, where the walk along the bounds is long. -/
def mask : Bool → List Nat → Nat
  | _, [] => 0
  | inside, bound :: rest =>
    (bif inside then (1 <<< bound) - 1 else 0) ||| (mask (!inside) rest >>> bound) <<< bound

theorem testBit_mask_cons (inside : Bool) (bound : Nat) (rest : List Nat) (n : Nat) :
    (mask inside (bound :: rest)).testBit n =
      if n < bound then inside else (mask (!inside) rest).testBit n := by
  have hlow : (bif inside then (1 <<< bound) - 1 else 0).testBit n =
      (inside && decide (n < bound)) := by
    cases inside <;> simp [Nat.one_shiftLeft]
  rw [mask, Nat.testBit_or, Nat.testBit_shiftLeft, Nat.testBit_shiftRight, hlow]
  split
  next hlt => simp [hlt, Nat.not_le.2 hlt]
  next hle =>
    rw [Nat.not_lt] at hle
    simp [hle, Nat.not_lt.2 hle]

theorem covers_of_testBit_mask {inside : Bool} {bounds : List Nat} {n : Nat}
    (h : (mask inside bounds).testBit n = true) : covers inside bounds n = true := by
  induction bounds generalizing inside with
  | nil => simp [mask] at h
  | cons bound rest ih =>
      rw [testBit_mask_cons] at h
      rw [covers]
      split
      next hlt => rwa [if_pos hlt] at h
      next hle =>
        rw [if_neg hle] at h
        exact ih h

/-- Whether all code points from `first` to `last` lie inside a set. -/
def coversAll (bounds : List Nat) (first last : Nat) : Bool :=
  ((mask false bounds >>> first) % (1 <<< (last + 1 - first))).beq ((1 <<< (last + 1 - first)) - 1)

theorem covers_of_coversAll {bounds : List Nat} {first last n : Nat}
    (h : coversAll bounds first last = true) (hfirst : first ≤ n) (hlast : n ≤ last) :
    covers false bounds n = true := by
  have hbit := congrArg (Nat.testBit · (n - first)) (Nat.eq_of_beq_eq_true h)
  simp only [Nat.one_shiftLeft, Nat.testBit_mod_two_pow, Nat.testBit_two_pow_sub_one,
    Nat.testBit_shiftRight, Nat.add_sub_cancel' hfirst] at hbit
  rw [decide_eq_true (by omega), Bool.true_and] at hbit
  exact covers_of_testBit_mask hbit

end CodeSet

/-- Whether the code points from `first` to `last` are those of letters. -/
def areLetters (first last : Nat) : Bool :=
  (last.blt 0xD800 || Nat.blt 0xDFFF first && last.blt 0x110000) &&
    CodeSet.coversAll letters.bounds first last

theorem alphanumeric_of_areLetters {first last n : Nat} (h : areLetters first last = true)
    (hfirst : first ≤ n) (hlast : n ≤ last) : isAlphanumeric (Char.ofNat n) = true := by
  simp only [areLetters, Bool.and_eq_true, Bool.or_eq_true, Nat.blt_eq] at h
  have hvalid : n.isValidChar := by
    unfold Nat.isValidChar
    omega
  rw [isAlphanumeric, isLetter, CodeSet.contains, Char.toNat_ofNat, if_pos hvalid,
    CodeSet.covers_of_coversAll h.2 hfirst hlast, Bool.true_or]

/-! ## runs of the mapping -/

namespace CaseMap

theorem of_findRun?_eq_some {n image : Nat} {runs : List CaseRun}
    (h : findRun? n runs = some image) : ∃ r ∈ runs, r.maps n = true ∧ image = r.image n := by
  induction runs with
  | nil => cases h
  | cons r rest ih =>
      rw [findRun?] at h
      split at h
      · cases h
      · split at h
        next hmaps =>
          cases h
          exact ⟨r, List.mem_cons_self, hmaps, rfl⟩
        next =>
          obtain ⟨r', hr', hrun⟩ := ih h
          exact ⟨r', List.mem_cons_of_mem _ hr', hrun⟩

/-- A character is mapped by a run, listed on its own, or mapped to itself. -/
theorem apply_cases (m : CaseMap) (c : Char) :
    (∃ r ∈ m.runs, r.maps c.toNat = true ∧ m.apply c = [Char.ofNat (r.image c.toNat)]) ∨
      (∃ e ∈ m.special, e.1 = c.toNat ∧ m.apply c = e.2.map Char.ofNat) ∨ m.apply c = [c] := by
  rw [apply]
  cases hrun : findRun? c.toNat m.runs with
  | some image =>
      obtain ⟨r, hr, hmaps, rfl⟩ := of_findRun?_eq_some hrun
      exact .inl ⟨r, hr, hmaps, rfl⟩
  | none =>
      dsimp only
      split
      · exact .inr (.inr rfl)
      · split
        next image hlookup =>
          obtain ⟨before, behind, hspecial, -⟩ := List.lookup_eq_some_iff.1 hlookup
          exact .inr (.inl ⟨(c.toNat, image), by rw [hspecial]; simp, rfl, rfl⟩)
        next => exact .inr (.inr rfl)

end CaseMap

namespace CaseRun

theorem le_of_maps {r : CaseRun} {n : Nat} (h : r.maps n = true) : r.first ≤ n ∧ n ≤ r.last := by
  simp only [maps, Bool.and_eq_true, decide_eq_true_eq] at h
  exact h.1

/-- Whether the images of a run are letters: all code points between them are, or each image is. -/
def mapsToLetters (r : CaseRun) : Bool :=
  areLetters (r.image r.first) (r.image r.last) ||
    (List.range (r.last + 1 - r.first)).all fun i =>
      !r.maps (r.first + i) || areLetters (r.image (r.first + i)) (r.image (r.first + i))

theorem alphanumeric_image {r : CaseRun} {n : Nat} (hr : r.mapsToLetters = true)
    (hn : r.maps n = true) : isAlphanumeric (Char.ofNat (r.image n)) = true := by
  have hle := le_of_maps hn
  rw [mapsToLetters, Bool.or_eq_true] at hr
  obtain hall | heach := hr
  · exact alphanumeric_of_areLetters hall (by simp only [image]; omega)
      (by simp only [image]; omega)
  · have hi := List.all_eq_true.1 heach (n - r.first) (List.mem_range.2 (by omega))
    rw [Nat.add_sub_cancel' hle.1, hn] at hi
    exact alphanumeric_of_areLetters hi (Nat.le_refl _) (Nat.le_refl _)

end CaseRun

/-! ## the mapping -/

/-- The code points of letters whose upper-case form has a combining mark that is no letter. -/
def markedLetters : List Nat := [
  0x1F0, 0x390, 0x3B0, 0x1E96, 0x1E97, 0x1E98, 0x1E99, 0x1F50, 0x1F52, 0x1F54, 0x1F56, 0x1FB6,
  0x1FB7, 0x1FC6, 0x1FC7, 0x1FD2, 0x1FD3, 0x1FD6, 0x1FD7, 0x1FE2, 0x1FE3, 0x1FE4, 0x1FE6, 0x1FE7,
  0x1FF6, 0x1FF7]

/-- What the table of the mapping shows: the images of runs are letters, and so are those of the
characters that are listed on their own, unless they are marked; then they have a mark, but no
underscore. -/
theorem images_of_upperMap :
    (∀ r ∈ upperMap.runs, r.mapsToLetters = true) ∧
    (∀ e ∈ upperMap.special, e.1 ∉ markedLetters → ∀ n ∈ e.2, areLetters n n = true) ∧
    ∀ n ∈ markedLetters, '_' ∉ upper (Char.ofNat n) ∧
      (upper (Char.ofNat n)).any (fun d => !isAlphanumeric d) = true := by
  decide +kernel

variable {c d : Char}

/-- Unless it is marked, a letter or numeral has an upper-case form of letters and numerals. -/
theorem alphanumeric_of_mem_upper (hc : isAlphanumeric c = true) (hmark : c.toNat ∉ markedLetters)
    (hd : d ∈ upper c) : isAlphanumeric d = true := by
  obtain ⟨r, hr, hmaps, happly⟩ | ⟨e, he, hcode, happly⟩ | happly := upperMap.apply_cases c
  · rw [upper, happly, List.mem_singleton] at hd
    rw [hd]
    exact CaseRun.alphanumeric_image (images_of_upperMap.1 r hr) hmaps
  · rw [upper, happly] at hd
    obtain ⟨n, hn, rfl⟩ := List.mem_map.1 hd
    have hletter := images_of_upperMap.2.1 e he (hcode ▸ hmark) n hn
    exact alphanumeric_of_areLetters hletter (Nat.le_refl n) (Nat.le_refl n)
  · rw [upper, happly, List.mem_singleton] at hd
    rwa [hd]

/-- The upper case of a marked letter has a character that is neither letter nor numeral. -/
theorem exists_mark_of_mem_markedLetters (h : c.toNat ∈ markedLetters) :
    ∃ d ∈ upper c, isAlphanumeric d = false ∧ d ≠ '_' := by
  obtain ⟨hnone, hany⟩ := images_of_upperMap.2.2 _ h
  rw [Char.ofNat_toNat] at hnone hany
  obtain ⟨d, hd, hmark⟩ := List.any_eq_true.1 hany
  exact ⟨d, hd, by simpa using hmark, ne_of_mem_of_not_mem hd hnone⟩

/-- No upper-case form of a letter or numeral has an underscore. -/
theorem underscore_notMem_upper (hc : isAlphanumeric c = true) : '_' ∉ upper c := by
  intro hmem
  by_cases hmark : c.toNat ∈ markedLetters
  · obtain ⟨hnone, -⟩ := images_of_upperMap.2.2 _ hmark
    rw [Char.ofNat_toNat] at hnone
    exact hnone hmem
  · exact absurd (alphanumeric_of_mem_upper hc hmark hmem) (by decide)

end Phrasebook.Text
