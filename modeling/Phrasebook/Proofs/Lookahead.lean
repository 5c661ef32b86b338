import Phrasebook.Proofs.Tokens

/-!
# Phrasebook.Proofs.Lookahead

How far a token depends on the text behind it.

A token looks at one character behind its own text.  It stays the token that it is

1. at the end of the text;
2. before the character that stands behind it;
3. before any character that goes on with no name, number or escape sequence (`breaks`), with a few
   exceptions: a comment and what is cut off by the end of the text take such characters in, blanks
   take in blanks, and a slash that starts no comment would start one before a second slash or an
   asterisk (`stops`).

The proofs follow the readers of names, numbers and strings part by part.
-/

namespace Phrasebook

open Text

/-! ## readers that look one character ahead -/

/-- A character that goes on with no name, no number and no escape sequence. -/
def breaks (c : Char) : Bool :=
  !TokenKind.isNamePart c && !isHexDigit c && !(['.', '+', '-', '\\'].contains c)

/-- What may stand in the place of `rest`: a text that begins with the same character or with one
that breaks off, or no text. -/
def MayFollow (rest rest' : List Char) : Prop :=
  ∀ c, rest'.head? = some c → rest.head? = some c ∨ breaks c = true

/-- A reader takes a front of its text, and the same front before whatever `may` allows behind
it. -/
def LocalUnder {α : Type} (may : α → List Char → List Char → Prop)
    (read : List Char → α × List Char) : Prop :=
  ∀ s, ∃ taken, s = taken ++ (read s).2 ∧
    ∀ rest', may (read s).1 (read s).2 rest' → read (taken ++ rest') = ((read s).1, rest')

/-- A reader that looks one character ahead. -/
abbrev Local {α : Type} (read : List Char → α × List Char) : Prop :=
  LocalUnder (fun _ => MayFollow) read

section readers

variable {α β γ : Type} {p : Char → Bool} {s taken rest rest' : List Char} {c : Char}

theorem not_isNamePart_of_breaks (h : breaks c = true) : TokenKind.isNamePart c = false := by
  simp only [breaks, Bool.and_eq_true, Bool.not_eq_true'] at h
  exact h.1.1

theorem not_isHexDigit_of_breaks (h : breaks c = true) : isHexDigit c = false := by
  simp only [breaks, Bool.and_eq_true, Bool.not_eq_true'] at h
  exact h.1.2

theorem not_isDigit_of_breaks (h : breaks c = true) : c.isDigit = false := by
  have hhex := not_isHexDigit_of_breaks h
  simp only [isHexDigit, Bool.or_eq_false_iff] at hhex
  exact hhex.1.1

/-- Behind one front, what may follow may still follow. -/
theorem MayFollow.append (h : MayFollow rest rest') (front : List Char) :
    MayFollow (front ++ rest) (front ++ rest') := by
  cases front with
  | nil => exact h
  | cons a front => exact fun c hc => .inl hc

/-- What no character that breaks off is, the next character is not, if it has not been so. -/
theorem MayFollow.head?_not (h : MayFollow rest rest') (hp : ∀ c, breaks c = true → p c = false)
    (hrest : ∀ c, rest.head? = some c → p c = false) : ∀ c, rest'.head? = some c → p c = false := by
  intro c hc
  obtain hsame | hbreaks := h c hc
  · exact hrest c hsame
  · exact hp c hbreaks

/-- A character that does not break off is not the next one, if it has not been so. -/
theorem MayFollow.head?_ne (h : MayFollow rest rest') (hc : breaks c = false)
    (hrest : rest.head? ≠ some c) : rest'.head? ≠ some c := by
  intro hhead
  obtain hsame | hbreaks := h c hhead
  · exact hrest hsame
  · exact absurd (hc.symm.trans hbreaks) Bool.false_ne_true

theorem takeWhile_append_of_head? (htaken : ∀ c ∈ taken, p c = true)
    (hrest : ∀ c, rest.head? = some c → p c = false) : (taken ++ rest).takeWhile p = taken := by
  rw [List.takeWhile_append_of_pos htaken]
  cases rest with
  | nil => exact List.append_nil taken
  | cons a rest => rw [List.takeWhile_cons, hrest a rfl, if_neg Bool.false_ne_true, List.append_nil]

theorem dropWhile_append_of_head? (htaken : ∀ c ∈ taken, p c = true)
    (hrest : ∀ c, rest.head? = some c → p c = false) : (taken ++ rest).dropWhile p = rest := by
  rw [List.dropWhile_append_of_pos htaken]
  cases rest with
  | nil => rfl
  | cons a rest => rw [List.dropWhile_cons, hrest a rfl, if_neg Bool.false_ne_true]

theorem head?_dropWhile_not (s : List Char) :
    ∀ c, (s.dropWhile p).head? = some c → p c = false := by
  intro c hc
  have hhead := List.head?_dropWhile_not p s
  rw [hc] at hhead
  exact hhead

/-- Taking characters of a kind, where what may follow is not of this kind if it has not been so. -/
theorem localUnder_span {may : α → List Char → List Char → Prop} (make : List Char → α)
    (hmay : ∀ taken rest rest', may (make taken) rest rest' →
      (∀ c, rest.head? = some c → p c = false) →
      ∀ c, rest'.head? = some c → p c = false) :
    LocalUnder may fun s => (make (s.takeWhile p), s.dropWhile p) := by
  intro s
  have htaken : ∀ c ∈ s.takeWhile p, p c = true := List.all_eq_true.1 List.all_takeWhile
  refine ⟨s.takeWhile p, List.takeWhile_append_dropWhile.symm, fun rest' hrest' => ?_⟩
  have hhead := hmay _ _ rest' hrest' (head?_dropWhile_not s)
  simp only [takeWhile_append_of_head? htaken hhead, dropWhile_append_of_head? htaken hhead]

/-- Taking characters of a kind. -/
theorem local_span (hp : ∀ c, breaks c = true → p c = false) :
    Local fun s => (s.takeWhile p, s.dropWhile p) :=
  localUnder_span (fun taken => taken) fun _ _ _ hrest' => hrest'.head?_not hp

/-- Reading one part behind the other. -/
theorem Local.andThen {f : List Char → α × List Char} {g : List Char → β × List Char} (hf : Local f)
    (hg : Local g) (h : α → β → γ) : Local fun s => (h (f s).1 (g (f s).2).1, (g (f s).2).2) := by
  intro s
  obtain ⟨front, hfront, hf⟩ := hf s
  obtain ⟨middle, hmiddle, hg⟩ := hg (f s).2
  refine ⟨front ++ middle, ?_, fun rest' hrest' => ?_⟩
  · rw [List.append_assoc, ← hmiddle]
    exact hfront
  · have hnext : MayFollow (f s).2 (middle ++ rest') := by
      rw [hmiddle]
      exact hrest'.append middle
    simp only [List.append_assoc, hf _ hnext, hg rest' hrest']

end readers

/-! ## numbers -/

namespace NumberLiteral

theorem local_spanDigits : Local spanDigits := local_span fun _ => not_isDigit_of_breaks

theorem scanFraction_of_head? {s : List Char} (h : s.head? ≠ some '.') :
    scanFraction s = ([], s) := by
  unfold scanFraction
  split
  · exact absurd rfl h
  · rfl

theorem local_scanFraction : Local scanFraction := by
  intro s
  by_cases hpoint : s.head? = some '.'
  · obtain ⟨s, rfl⟩ := List.head?_eq_some_iff.1 hpoint
    obtain ⟨taken, hs, htaken⟩ := local_spanDigits s
    exact ⟨'.' :: taken, congrArg ('.' :: ·) hs, htaken⟩
  · rw [scanFraction_of_head? hpoint]
    refine ⟨[], rfl, fun rest' hrest' => scanFraction_of_head? ?_⟩
    exact hrest'.head?_ne (by decide) hpoint

theorem scanSign_of_head? {s : List Char} (hminus : s.head? ≠ some '-')
    (hplus : s.head? ≠ some '+') : scanSign s = (false, s) := by
  unfold scanSign
  split
  · exact absurd rfl hminus
  · exact absurd rfl hplus
  · rfl

theorem local_scanSign : Local scanSign := by
  intro s
  by_cases hminus : s.head? = some '-'
  · obtain ⟨s, rfl⟩ := List.head?_eq_some_iff.1 hminus
    exact ⟨['-'], rfl, fun _ _ => rfl⟩
  · by_cases hplus : s.head? = some '+'
    · obtain ⟨s, rfl⟩ := List.head?_eq_some_iff.1 hplus
      exact ⟨['+'], rfl, fun _ _ => rfl⟩
    · rw [scanSign_of_head? hminus hplus]
      refine ⟨[], rfl, fun rest' hrest' => scanSign_of_head? ?_ ?_⟩
      · exact hrest'.head?_ne (by decide) hminus
      · exact hrest'.head?_ne (by decide) hplus

theorem local_scanExponentBody : Local scanExponentBody :=
  local_scanSign.andThen local_spanDigits Prod.mk

/-- Whether a character starts an exponent. -/
def startsExponent (c : Char) : Bool := c = 'e' || c = 'E'

theorem scanExponent_cons_of_starts {c : Char} (hc : startsExponent c = true) (s : List Char) :
    scanExponent (c :: s) = (some (scanExponentBody s).1, (scanExponentBody s).2) := by
  have hletter : c = 'e' ∨ c = 'E' := by simpa [startsExponent] using hc
  rw [scanExponent, if_pos hletter]

theorem scanExponent_of_head? {s : List Char}
    (h : ∀ c, s.head? = some c → startsExponent c = false) : scanExponent s = (none, s) := by
  cases s with
  | nil => rfl
  | cons c s =>
      have hletter : ¬ (c = 'e' ∨ c = 'E') := by simpa [startsExponent] using h c rfl
      rw [scanExponent, if_neg hletter]

theorem not_startsExponent_of_breaks (c : Char) (h : breaks c = true) :
    startsExponent c = false := by
  cases hstarts : startsExponent c with
  | false => rfl
  | true =>
      have hletter : c = 'e' ∨ c = 'E' := by simpa [startsExponent] using hstarts
      obtain rfl | rfl := hletter
      · exact absurd h (by decide)
      · exact absurd h (by decide)

theorem local_scanExponent : Local scanExponent := by
  -- where no exponent starts, none starts before another text that may follow
  have hnone {s : List Char} (hs : ∀ c, s.head? = some c → startsExponent c = false) :
      ∃ taken, s = taken ++ (scanExponent s).2 ∧ ∀ rest', MayFollow (scanExponent s).2 rest' →
        scanExponent (taken ++ rest') = ((scanExponent s).1, rest') := by
    rw [scanExponent_of_head? hs]
    refine ⟨[], rfl, fun rest' hrest' => ?_⟩
    exact scanExponent_of_head? (hrest'.head?_not not_startsExponent_of_breaks hs)
  intro s
  cases s with
  | nil => exact hnone fun c hc => by cases hc
  | cons c s =>
      cases hc : startsExponent c with
      | false =>
          refine hnone fun d hd => ?_
          cases hd
          exact hc
      | true =>
          obtain ⟨taken, hs, htaken⟩ := local_scanExponentBody s
          rw [scanExponent_cons_of_starts hc]
          refine ⟨c :: taken, congrArg (c :: ·) hs, fun rest' hrest' => ?_⟩
          rw [List.cons_append, scanExponent_cons_of_starts hc, htaken rest' hrest']

/-- A number looks one character ahead. -/
theorem local_scan (negative : Bool) : Local (scan negative) := by
  have hbehind := local_scanFraction.andThen local_scanExponent Prod.mk
  exact local_spanDigits.andThen hbehind fun whole (parts : _ × _) =>
    NumberLiteral.mk negative whole parts.1 parts.2

end NumberLiteral

/-! ## strings -/

namespace StringLiteral

/-- The outcome of reading an escape sequence before another text. -/
def EscapeScan.before (rest : List Char) : EscapeScan → EscapeScan
  | .char c _ => .char c rest
  | .invalid sequence _ => .invalid sequence rest
  | .unfinished => .unfinished

/-- The outcome of reading a string before another text. -/
def Scan.before (rest : List Char) : Scan → Scan
  | .closed value _ => .closed value rest
  | .unterminated => .unterminated
  | .invalid sequence _ => .invalid sequence rest

@[simp] theorem before_cons (rest : List Char) (c : Char) (o : Scan) :
    (o.cons c).before rest = (o.before rest).cons c := by
  cases o <;> rfl

theorem rest_before {o : Scan} (ho : o ≠ .unterminated) (rest : List Char) :
    (o.before rest).rest = rest := by
  cases o with
  | unterminated => exact absurd rfl ho
  | _ => rfl

/-- The kind of token that an outcome makes. -/
def Scan.kind : Scan → TokenKind
  | .closed value _ => .string (String.ofList value)
  | .unterminated => .unterminatedString
  | .invalid sequence _ => .invalidEscape (String.ofList sequence)

@[simp] theorem kind_before (rest : List Char) (o : Scan) : (o.before rest).kind = o.kind := by
  cases o <;> rfl

theorem unitDigits_append_afterUnit (s : List Char) : unitDigits s ++ afterUnit s = s := by
  have hprefix : unitDigits s <+: s := (List.takeWhile_prefix _).trans (List.take_prefix 4 s)
  calc unitDigits s ++ afterUnit s
      = s.take (unitDigits s).length ++ afterUnit s := by rw [← List.prefix_iff_eq_take.1 hprefix]
    _ = s := List.take_append_drop ..

theorem length_unitDigits_le (s : List Char) : (unitDigits s).length ≤ 4 :=
  Nat.le_trans (List.takeWhile_prefix _).length_le (List.length_take_le 4 s)

theorem take_four_eq (s : List Char) :
    s.take 4 = unitDigits s ++ (afterUnit s).take (4 - (unitDigits s).length) := by
  conv => lhs; rw [← unitDigits_append_afterUnit s]
  rw [List.take_append, List.take_of_length_le (length_unitDigits_le s)]

/-- Behind fewer than four digits there is no further one. -/
theorem head?_afterUnit_not {s : List Char} (h : (unitDigits s).length < 4) :
    ∀ c, (afterUnit s).head? = some c → isHexDigit c = false := by
  intro c hc
  have hdrop :
      (s.take 4).dropWhile isHexDigit = (afterUnit s).take (4 - (unitDigits s).length) := by
    have hsplit : unitDigits s ++ (s.take 4).dropWhile isHexDigit = s.take 4 :=
      List.takeWhile_append_dropWhile
    exact List.append_cancel_left (hsplit.trans (take_four_eq s))
  refine head?_dropWhile_not (s.take 4) c ?_
  rw [hdrop, List.head?_take, if_neg (by omega), hc]

/-- Hexadecimal digits are read up to the fourth, or up to a character that is none. -/
theorem unitDigits_append_eq {digits rest : List Char} (hlength : digits.length ≤ 4)
    (hhex : ∀ c ∈ digits, isHexDigit c = true)
    (hrest : digits.length < 4 → ∀ c, rest.head? = some c → isHexDigit c = false) :
    unitDigits (digits ++ rest) = digits := by
  rw [unitDigits, List.take_append, List.take_of_length_le hlength]
  refine takeWhile_append_of_head? hhex fun c hc => ?_
  by_cases hshort : digits.length < 4
  · rw [List.head?_take, if_neg (by omega)] at hc
    exact hrest hshort c hc
  · rw [List.head?_take, if_pos (by omega)] at hc
    cases hc

/-- The digits of a code unit: four, or those before the first character that is none. -/
theorem local_unit : Local fun s => (unitDigits s, afterUnit s) := by
  intro s
  have hdigits : ∀ c ∈ unitDigits s, isHexDigit c = true := List.all_eq_true.1 List.all_takeWhile
  refine ⟨unitDigits s, (unitDigits_append_afterUnit s).symm, fun rest' hrest' => ?_⟩
  have hsame : unitDigits (unitDigits s ++ rest') = unitDigits s := by
    refine unitDigits_append_eq (length_unitDigits_le s) hdigits fun hshort => ?_
    exact hrest'.head?_not (fun _ => not_isHexDigit_of_breaks) (head?_afterUnit_not hshort)
  have hafter : afterUnit (unitDigits s ++ rest') = rest' := by
    rw [afterUnit, hsame, List.drop_left]
  simp only [hsame, hafter]

/-- What is read of the second half of a pair depends on its digits. -/
theorem scanLowUnit_before {high : Nat} {s t : List Char} (h : unitDigits t = unitDigits s) :
    scanLowUnit high t = (scanLowUnit high s).before (afterUnit t) := by
  unfold scanLowUnit
  rw [h]
  split
  · rfl
  · simp only
    split
    · rfl
    · rfl

theorem rest_scanLowUnit (high : Nat) (s : List Char) :
    (scanLowUnit high s).rest = afterUnit s := by
  unfold scanLowUnit
  split
  · rfl
  · simp only
    split
    · rfl
    · rfl

/-- An escape scan looks one character ahead. -/
def LocalEscape (read : List Char → EscapeScan) : Prop :=
  ∀ s, read s ≠ .unfinished → ∃ taken, s = taken ++ (read s).rest ∧
    ∀ rest', MayFollow (read s).rest rest' → read (taken ++ rest') = (read s).before rest'

theorem localEscape_scanLowUnit (high : Nat) : LocalEscape (scanLowUnit high) := by
  intro s _
  obtain ⟨taken, hs, htaken⟩ := local_unit s
  rw [rest_scanLowUnit]
  refine ⟨taken, hs, fun rest' hrest' => ?_⟩
  obtain ⟨hdigits, hafter⟩ := Prod.mk.inj (htaken rest' hrest')
  rw [scanLowUnit_before hdigits, hafter]

theorem scanPair_of_head? {high : Nat} {s : List Char} (h : s.head? ≠ some '\\') :
    scanPair high s = .invalid (namedUnit high) s := by
  unfold scanPair
  split
  · exact absurd rfl h
  · exact absurd rfl h
  · rfl

theorem scanPair_backslash_of_head? {high : Nat} {s : List Char} (h : s.head? ≠ some 'u') :
    scanPair high ('\\' :: s) = .invalid (namedUnit high) s := by
  cases s with
  | nil => rfl
  | cons c s =>
      have hc : c ≠ 'u' := fun hc => h (congrArg some hc)
      unfold scanPair
      split
      next heq =>
        cases heq
        exact absurd rfl hc
      next heq =>
        cases heq
        rfl
      next hne => exact absurd rfl (hne (c :: s))

theorem localEscape_scanPair (high : Nat) : LocalEscape (scanPair high) := by
  intro s hs
  by_cases hbackslash : s.head? = some '\\'
  · obtain ⟨s, rfl⟩ := List.head?_eq_some_iff.1 hbackslash
    by_cases hu : s.head? = some 'u'
    · obtain ⟨s, rfl⟩ := List.head?_eq_some_iff.1 hu
      obtain ⟨taken, hrest, htaken⟩ := localEscape_scanLowUnit high s hs
      exact ⟨'\\' :: 'u' :: taken, congrArg ('\\' :: 'u' :: ·) hrest, htaken⟩
    · rw [scanPair_backslash_of_head? hu]
      refine ⟨['\\'], rfl, fun rest' hrest' => scanPair_backslash_of_head? ?_⟩
      exact hrest'.head?_ne (by decide) hu
  · rw [scanPair_of_head? hbackslash]
    refine ⟨[], rfl, fun rest' hrest' => scanPair_of_head? ?_⟩
    exact hrest'.head?_ne (by decide) hbackslash

/-- Whether a `\u` escape is the first half of a pair. -/
def opensPair (s : List Char) : Prop :=
  ¬ (unitDigits s).length < 4 ∧ isHighSurrogate (hexValue (unitDigits s)) = true

theorem scanUnit_of_opensPair {s : List Char} (h : opensPair s) :
    scanUnit s = scanPair (hexValue (unitDigits s)) (afterUnit s) := by
  unfold scanUnit
  rw [if_neg h.1]
  simp only [h.2, if_true]

/-- Where no pair opens, an escape ends with its digits. -/
theorem scanUnit_of_not_opensPair {s : List Char} (h : ¬ opensPair s) :
    (scanUnit s).rest = afterUnit s ∧
      ∀ t, unitDigits t = unitDigits s → scanUnit t = (scanUnit s).before (afterUnit t) := by
  by_cases hshort : (unitDigits s).length < 4
  · refine ⟨by rw [scanUnit, if_pos hshort]; rfl, fun t ht => ?_⟩
    rw [scanUnit, scanUnit, ht, if_pos hshort, if_pos hshort]
    rfl
  · have hhigh : isHighSurrogate (hexValue (unitDigits s)) = false :=
      Bool.eq_false_iff.2 fun hhigh => h ⟨hshort, hhigh⟩
    cases hlow : isLowSurrogate (hexValue (unitDigits s)) with
    | true =>
        refine ⟨by simp [scanUnit, hshort, hhigh, hlow, EscapeScan.rest], fun t ht => ?_⟩
        simp [scanUnit, ht, hshort, hhigh, hlow, EscapeScan.before]
    | false =>
        refine ⟨by simp [scanUnit, hshort, hhigh, hlow, EscapeScan.rest], fun t ht => ?_⟩
        simp [scanUnit, ht, hshort, hhigh, hlow, EscapeScan.before]

theorem localEscape_scanUnit : LocalEscape scanUnit := by
  intro s hs
  obtain ⟨taken, hsplit, htaken⟩ := local_unit s
  by_cases hpair : opensPair s
  · rw [scanUnit_of_opensPair hpair] at hs ⊢
    obtain ⟨more, hmore, hlocal⟩ := localEscape_scanPair _ (afterUnit s) hs
    refine ⟨taken ++ more, ?_, fun rest' hrest' => ?_⟩
    · rw [List.append_assoc, ← hmore]
      exact hsplit
    · have hnext : MayFollow (afterUnit s) (more ++ rest') := by
        rw [hmore]
        exact hrest'.append more
      obtain ⟨hdigits, hafter⟩ := Prod.mk.inj (htaken _ hnext)
      rw [List.append_assoc, scanUnit_of_opensPair (by rwa [opensPair, hdigits]), hdigits, hafter,
        hlocal rest' hrest']
  · obtain ⟨hrest, hsame⟩ := scanUnit_of_not_opensPair hpair
    rw [hrest]
    refine ⟨taken, hsplit, fun rest' hrest' => ?_⟩
    obtain ⟨hdigits, hafter⟩ := Prod.mk.inj (htaken rest' hrest')
    rw [hsame _ hdigits, hafter]

theorem localEscape_scanEscape : LocalEscape scanEscape := by
  intro s hs
  cases s with
  | nil => exact absurd rfl hs
  | cons c s =>
      by_cases hu : c = 'u'
      · subst hu
        obtain ⟨taken, hrest, htaken⟩ := localEscape_scanUnit s hs
        exact ⟨'u' :: taken, congrArg ('u' :: ·) hrest, htaken⟩
      · cases hshort : shortEscape? c with
        | some value =>
            have hscan (t : List Char) : scanEscape (c :: t) = .char value t := by
              simp [scanEscape, hshort]
            rw [hscan]
            exact ⟨[c], rfl, fun rest' _ => hscan rest'⟩
        | none =>
            have hscan (t : List Char) : scanEscape (c :: t) = .invalid ['\\', c] t := by
              simp [scanEscape, hshort]
            rw [hscan]
            exact ⟨[c], rfl, fun rest' _ => hscan rest'⟩

/-! ### literals -/

theorem scan_quote (quote : Char) (s : List Char) : scan quote (quote :: s) = .closed [] s := by
  rw [scan, if_pos rfl]

theorem scan_other {quote c : Char} (hquote : c ≠ quote) (hbackslash : c ≠ '\\') (s : List Char) :
    scan quote (c :: s) = (scan quote s).cons c := by
  rw [scan, if_neg hquote, if_neg hbackslash]

theorem scan_char {quote value : Char} {s rest : List Char} (hquote : '\\' ≠ quote)
    (h : scanEscape s = .char value rest) :
    scan quote ('\\' :: s) = (scan quote rest).cons value := by
  rw [scan, if_neg hquote, if_pos rfl]
  split
  next heq =>
    cases h.symm.trans heq
    rfl
  next heq => cases h.symm.trans heq
  next heq => cases h.symm.trans heq

theorem scan_invalid {quote : Char} {s sequence rest : List Char} (hquote : '\\' ≠ quote)
    (h : scanEscape s = .invalid sequence rest) :
    scan quote ('\\' :: s) = .invalid sequence rest := by
  rw [scan, if_neg hquote, if_pos rfl]
  split
  next heq => cases h.symm.trans heq
  next heq =>
    cases h.symm.trans heq
    rfl
  next heq => cases h.symm.trans heq

/-- A string that the end of the text does not cut off looks one character ahead, if it looks ahead
at all. -/
theorem local_scan (quote : Char) (s : List Char) (hs : scan quote s ≠ .unterminated) :
    ∃ taken, s = taken ++ (scan quote s).rest ∧ ∀ rest', MayFollow (scan quote s).rest rest' →
      scan quote (taken ++ rest') = (scan quote s).before rest' := by
  fun_induction scan quote s with
  | case1 => exact absurd rfl hs
  | case2 s => exact ⟨[quote], rfl, fun rest' _ => scan_quote quote rest'⟩
  | case3 s value rest hescape hquote ih =>
      have hinner : scan quote rest ≠ .unterminated := by
        intro hinner
        rw [hinner] at hs
        exact hs rfl
      obtain ⟨more, hmore, hlocal⟩ := ih hinner
      obtain ⟨taken, hsplit, htaken⟩ := localEscape_scanEscape s (by simp [hescape])
      rw [hescape] at hsplit htaken
      rw [Scan.rest_cons]
      refine ⟨'\\' :: (taken ++ more), ?_, fun rest' hrest' => ?_⟩
      · rw [List.cons_append, List.append_assoc, ← hmore]
        exact congrArg _ hsplit
      · have hnext : MayFollow rest (more ++ rest') := by
          rw [hmore]
          exact hrest'.append more
        rw [List.cons_append, List.append_assoc, scan_char hquote (htaken _ hnext),
          hlocal rest' hrest', before_cons]
  | case4 s sequence rest hescape hquote =>
      obtain ⟨taken, hsplit, htaken⟩ := localEscape_scanEscape s (by simp [hescape])
      rw [hescape] at hsplit htaken
      refine ⟨'\\' :: taken, congrArg ('\\' :: ·) hsplit, fun rest' hrest' => ?_⟩
      exact scan_invalid hquote (htaken rest' hrest')
  | case5 => exact absurd rfl hs
  | case6 c s hquote hbackslash ih =>
      have hinner : scan quote s ≠ .unterminated := by
        intro hinner
        rw [hinner] at hs
        exact hs rfl
      obtain ⟨taken, hsplit, htaken⟩ := ih hinner
      rw [Scan.rest_cons]
      refine ⟨c :: taken, congrArg (c :: ·) hsplit, fun rest' hrest' => ?_⟩
      rw [List.cons_append, scan_other hquote hbackslash, htaken rest' hrest', before_cons]

end StringLiteral

/-! ## tokens -/

/-- A character that is not taken in by a token of this kind before it. -/
def TokenKind.stops : TokenKind → Char → Bool
  | .comment _, _ | .unterminatedComment, _ | .unterminatedString, _ => false
  | .blank, c => breaks c && !isBlank c
  | .unknown, c => breaks c && c != '/' && c != '*'
  | _, c => breaks c

/-- What may stand behind a token of this kind in the place of `rest`. -/
def Follows (kind : TokenKind) (rest rest' : List Char) : Prop :=
  ∀ c, rest'.head? = some c → rest.head? = some c ∨ kind.stops c = true

/-- A reader of tokens that looks one character ahead. -/
abbrev LocalToken (read : List Char → TokenKind × List Char) : Prop := LocalUnder Follows read

namespace TokenKind

variable {kind : TokenKind} {s rest rest' front : List Char} {c : Char}

theorem breaks_of_stops (h : kind.stops c = true) : breaks c = true := by
  unfold stops at h
  split at h
  · cases h
  · cases h
  · cases h
  · exact (Bool.and_eq_true_iff.1 h).1
  · exact (Bool.and_eq_true_iff.1 (Bool.and_eq_true_iff.1 h).1).1
  · exact h

end TokenKind

namespace Follows

variable {kind : TokenKind} {s rest rest' : List Char} {c : Char}

theorem nil (kind : TokenKind) (rest : List Char) : Follows kind rest [] := by
  intro c hc
  cases hc

theorem mayFollow (h : Follows kind rest rest') : MayFollow rest rest' :=
  fun c hc => (h c hc).imp_right TokenKind.breaks_of_stops

/-- Behind one front that is not empty, anything may follow. -/
theorem of_ne_nil {front : List Char} (hfront : front ≠ []) (kind : TokenKind)
    (rest rest' : List Char) : Follows kind (front ++ rest) (front ++ rest') := by
  cases front with
  | nil => exact absurd rfl hfront
  | cons a front => exact fun c hc => .inl hc

/-- A character that does not stop a token is not the next one, if it has not been so. -/
theorem head?_ne (h : Follows kind rest rest') (hc : kind.stops c = false)
    (hrest : rest.head? ≠ some c) : rest'.head? ≠ some c := by
  intro hhead
  obtain hsame | hstops := h c hhead
  · exact hrest hsame
  · exact absurd (hc.symm.trans hstops) Bool.false_ne_true

end Follows

/-- Where a reader looks one character ahead, so does one that makes a token of what it reads. -/
theorem Local.token {α : Type} {read : List Char → α × List Char} (h : Local read)
    (kind : α → TokenKind) : LocalToken fun s => (kind (read s).1, (read s).2) := by
  intro s
  obtain ⟨taken, hs, htaken⟩ := h s
  refine ⟨taken, hs, fun rest' hrest' => ?_⟩
  simp only [htaken rest' hrest'.mayFollow]

namespace TokenKind

theorem local_scanNumber (negative : Bool) : LocalToken (scanNumber negative) :=
  (NumberLiteral.local_scan negative).token ofNumber

theorem local_name (c : Char) :
    LocalToken fun s => (ofName (c :: s.takeWhile isNamePart), s.dropWhile isNamePart) :=
  (local_span fun _ => not_isNamePart_of_breaks).token fun name => ofName (c :: name)

/-- Characters of a kind, where nothing of this kind stops the token. -/
theorem localToken_span {p : Char → Bool} (make : List Char → TokenKind)
    (hp : ∀ taken c, (make taken).stops c = true → p c = false) :
    LocalToken fun s => (make (s.takeWhile p), s.dropWhile p) := by
  refine localUnder_span make fun taken rest rest' hrest' hhead c hc => ?_
  obtain hsame | hstops := hrest' c hc
  · exact hhead c hsame
  · exact hp taken c hstops

theorem local_blank : LocalToken fun s => (.blank, s.dropWhile isBlank) := by
  refine localToken_span (fun _ => .blank) fun _ c hstops => ?_
  simp only [stops, Bool.and_eq_true, Bool.not_eq_true'] at hstops
  exact hstops.2

/-- A line comment ends before a line feed or at the end of the text. -/
theorem local_scanLineComment : LocalToken scanLineComment :=
  localToken_span (fun text => .comment (String.ofList (trim text))) fun _ _ hstops =>
    absurd hstops Bool.false_ne_true

/-- The end of a block comment does not depend on what stands behind it. -/
theorem local_splitAtCommentEnd {s text rest : List Char}
    (h : splitAtCommentEnd s = some (text, rest)) :
    ∃ taken, s = taken ++ rest ∧ ∀ rest', splitAtCommentEnd (taken ++ rest') =
      some (text, rest') := by
  fun_induction splitAtCommentEnd s generalizing text with
  | case1 r =>
      cases h
      exact ⟨['*', '/'], rfl, fun _ => rfl⟩
  | case2 c s hne ih =>
      obtain ⟨⟨text', rest'⟩, h', heq⟩ := Option.map_eq_some_iff.1 h
      cases heq
      obtain ⟨taken, rfl, htaken⟩ := ih h'
      refine ⟨c :: taken, rfl, fun rest' => ?_⟩
      have hend (r : List Char) (hc : c = '*') : taken ++ rest' ≠ '/' :: r := by
        intro hr
        cases taken with
        | nil => cases htaken []
        | cons d taken =>
            cases hr
            exact hne _ hc rfl
      rw [List.cons_append, splitAtCommentEnd, htaken]
      · rfl
      · exact hend
  | case3 => cases h

theorem scanString_eq (quote : Char) (s : List Char) :
    scanString quote s = ((StringLiteral.scan quote s).kind,
      (StringLiteral.scan quote s).rest) := by
  rw [scanString]
  cases StringLiteral.scan quote s <;> rfl

/-- Behind what the end of the text cuts off, nothing else may stand. -/
theorem eq_nil_of_follows {kind : TokenKind} {rest' : List Char} (h : Follows kind [] rest')
    (hstops : ∀ c, kind.stops c = false) : rest' = [] := by
  cases rest' with
  | nil => rfl
  | cons c rest' =>
      obtain hsame | hstop := h c rfl
      · cases hsame
      · exact absurd ((hstops c).symm.trans hstop) Bool.false_ne_true

theorem local_scanBlockComment : LocalToken scanBlockComment := by
  intro s
  cases hend : splitAtCommentEnd s with
  | none =>
      have hscan : scanBlockComment s = (.unterminatedComment, []) := by rw [scanBlockComment, hend]
      rw [hscan]
      refine ⟨s, (List.append_nil s).symm, fun rest' hrest' => ?_⟩
      rw [eq_nil_of_follows hrest' fun _ => rfl, List.append_nil, hscan]
  | some parts =>
      obtain ⟨text, rest⟩ := parts
      obtain ⟨taken, hs, htaken⟩ := local_splitAtCommentEnd hend
      have hscan : scanBlockComment s = (.comment (String.ofList (trim text)), rest) := by
        rw [scanBlockComment, hend]
      rw [hscan]
      refine ⟨taken, hs, fun rest' _ => ?_⟩
      rw [scanBlockComment, htaken]

theorem local_scanString (quote : Char) : LocalToken (scanString quote) := by
  intro s
  rw [scanString_eq]
  by_cases hs : StringLiteral.scan quote s = .unterminated
  · refine ⟨s, by rw [hs]; exact (List.append_nil s).symm, fun rest' hrest' => ?_⟩
    rw [hs] at hrest'
    rw [eq_nil_of_follows hrest' fun _ => rfl, List.append_nil, scanString_eq, hs]
    rfl
  · obtain ⟨taken, hsplit, htaken⟩ := StringLiteral.local_scan quote s hs
    refine ⟨taken, hsplit, fun rest' hrest' => ?_⟩
    rw [scanString_eq, htaken rest' hrest'.mayFollow, StringLiteral.kind_before,
      StringLiteral.rest_before hs]

/-- A token that is its first character. -/
theorem local_single (kind : TokenKind) : LocalToken fun s => (kind, s) :=
  fun _ => ⟨[], rfl, fun _ _ => rfl⟩

theorem scanSlash_of_head? {s : List Char} (hslash : s.head? ≠ some '/')
    (hstar : s.head? ≠ some '*') : scanSlash s = (.unknown, s) := by
  unfold scanSlash
  split
  · exact absurd rfl hslash
  · exact absurd rfl hstar
  · rfl

theorem local_scanSlash : LocalToken scanSlash := by
  intro s
  by_cases hslash : s.head? = some '/'
  · obtain ⟨s, rfl⟩ := List.head?_eq_some_iff.1 hslash
    obtain ⟨taken, hs, htaken⟩ := local_scanLineComment s
    exact ⟨'/' :: taken, congrArg ('/' :: ·) hs, htaken⟩
  · by_cases hstar : s.head? = some '*'
    · obtain ⟨s, rfl⟩ := List.head?_eq_some_iff.1 hstar
      obtain ⟨taken, hs, htaken⟩ := local_scanBlockComment s
      exact ⟨'*' :: taken, congrArg ('*' :: ·) hs, htaken⟩
    · rw [scanSlash_of_head? hslash hstar]
      refine ⟨[], rfl, fun rest' hrest' => scanSlash_of_head? ?_ ?_⟩
      · exact hrest'.head?_ne (show stops .unknown '/' = false by decide) hslash
      · exact hrest'.head?_ne (show stops .unknown '*' = false by decide) hstar

/-- A number takes its first digit. -/
theorem local_scanNumber_cons (negative : Bool) {c : Char} (hc : c.isDigit = true) :
    LocalToken fun s => scanNumber negative (c :: s) := by
  intro s
  obtain ⟨taken, hs, htaken⟩ := local_scanNumber negative (c :: s)
  have hshorter : (scanNumber negative (c :: s)).2.length ≤ s.length :=
    (scanNumber_cons_suffix hc s).length_le
  cases taken with
  | nil =>
      have hlength := congrArg List.length hs
      simp only [List.nil_append, List.length_cons] at hlength
      omega
  | cons d taken =>
      obtain ⟨rfl, hrest⟩ := List.cons.inj hs
      exact ⟨taken, hrest, htaken⟩

theorem scanMinus_cons {c : Char} (hc : c.isDigit = true) (s : List Char) :
    scanMinus (c :: s) = scanNumber true (c :: s) := by
  rw [scanMinus]
  exact if_pos hc

theorem scanMinus_of_head? {s : List Char} (h : ∀ c, s.head? = some c → c.isDigit = false) :
    scanMinus s = (.unknown, s) := by
  rw [scanMinus, if_neg]
  cases s with
  | nil => exact Bool.false_ne_true
  | cons c s => simp [h c rfl]

theorem local_scanMinus : LocalToken scanMinus := by
  intro s
  by_cases hnone : ∀ c, s.head? = some c → c.isDigit = false
  · rw [scanMinus_of_head? hnone]
    refine ⟨[], rfl, fun rest' hrest' => scanMinus_of_head? ?_⟩
    exact hrest'.mayFollow.head?_not (fun _ => not_isDigit_of_breaks) hnone
  · cases s with
    | nil => exact absurd (fun c hc => by cases hc) hnone
    | cons c s =>
        have hc : c.isDigit = true := by
          cases hc : c.isDigit with
          | true => rfl
          | false =>
              refine absurd (fun d hd => ?_) hnone
              cases hd
              exact hc
        obtain ⟨taken, hs, htaken⟩ := local_scanNumber_cons true hc s
        rw [scanMinus_cons hc]
        refine ⟨c :: taken, congrArg (c :: ·) hs, fun rest' hrest' => ?_⟩
        rw [List.cons_append, scanMinus_cons hc]
        exact htaken rest' hrest'

theorem local_scanWord (c : Char) : LocalToken (scanWord c) := by
  unfold scanWord
  split
  · exact local_blank
  · split
    · exact local_name c
    · split
      next hc => exact local_scanNumber_cons false hc
      next => exact local_single .unknown

/-- **A token looks one character ahead**: before whatever may follow it, it is the same token. -/
theorem local_scan (c : Char) : LocalToken (scan c) := by
  unfold scan
  split
  case h_7 => exact local_scanSlash
  case h_8 | h_9 => exact local_scanString _
  case h_10 => exact local_scanMinus
  case h_11 => exact local_scanWord _
  all_goals exact local_single _

end TokenKind

end Phrasebook
