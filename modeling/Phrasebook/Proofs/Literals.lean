import Mathlib
import Phrasebook.Proofs.Stretches

/-!
# Phrasebook.Proofs.Literals

What string literals stand for.

A literal is told from the side of its writer: each character of a value is written in one of its
forms (`Form`), and the forms stand one behind the other between two quotes (`Body`).  Where no form
can go on, a text is malformed (`Malformed`) or cut off.  The reader is followed item by item:

1. an escape sequence is read as the character that it is a form of, and where none is read the text
   is malformed (`reads_scanEscape`, `scanEscape_of_malformed`);
2. so a text is a literal, is cut off or is faulty, and the reader tells which (`scan_body`,
   `judges_scan`);
3. of the tokens, only a literal is a string (`closed_of_scan_eq_string`).
-/

namespace Phrasebook.StringLiteral

open Text

/-! ## how values are written -/

/-- The short escapes: the letter behind the backslash, and the character that it stands for. -/
def shortEscapes : List (Char × Char) :=
  [('"', '"'), ('\'', '\''), ('\\', '\\'), ('/', '/'), ('b', '\x08'), ('f', '\x0c'),
    ('n', '\n'), ('r', '\r'), ('t', '\t')]

/-- A character is the hexadecimal digit of a number, in either case. -/
def IsDigitOf (c : Char) (n : Nat) : Prop := c = n.digitChar ∨ c = n.digitChar.toUpper

instance (c : Char) (n : Nat) : Decidable (IsDigitOf c n) := inferInstanceAs (Decidable (_ ∨ _))

/-- Four hexadecimal digits write a code unit. -/
def WritesUnit (n : Nat) (digits : List Char) : Prop :=
  n < 0x10000 ∧
    List.Forall₂ IsDigitOf digits [n / 0x1000, n / 0x100 % 0x10, n / 0x10 % 0x10, n % 0x10]

/-- A character is written in one of its forms, in a literal with a quote. -/
inductive Form (quote c : Char) : List Char → Prop where
  /-- The character itself. -/
  | plain : c ≠ quote → c ≠ '\\' → Form quote c [c]
  | short {letter : Char} : (letter, c) ∈ shortEscapes → Form quote c ['\\', letter]
  /-- Its code unit. -/
  | unit {digits : List Char} : WritesUnit c.toNat digits → Form quote c ('\\' :: 'u' :: digits)
  /-- Its two surrogates. -/
  | pair {high low : List Char} :
      0x10000 ≤ c.toNat →
      WritesUnit (0xD800 + (c.toNat - 0x10000) / 0x400) high →
      WritesUnit (0xDC00 + (c.toNat - 0x10000) % 0x400) low →
      Form quote c ('\\' :: 'u' :: high ++ '\\' :: 'u' :: low)

/-- What stands between the quotes of a literal for a value. -/
inductive Body (quote : Char) : List Char → List Char → Prop where
  | nil : Body quote [] []
  | cons {c : Char} {form value body : List Char} :
      Form quote c form → Body quote value body → Body quote (c :: value) (form ++ body)

/-- Fewer than four hexadecimal digits come next. -/
def LacksDigits (s : List Char) : Prop :=
  ∃ digits rest, s = digits ++ rest ∧ digits.length < 4 ∧
    (∀ c ∈ digits, ∃ n < 0x10, IsDigitOf c n) ∧
    ∀ c, rest.head? = some c → ¬ ∃ n < 0x10, IsDigitOf c n

/-- No escape sequence stands behind a backslash. -/
inductive Malformed : List Char → Prop where
  /-- No escape has this letter. -/
  | letter {c : Char} {rest : List Char} :
      c ≠ 'u' → (∀ value, (c, value) ∉ shortEscapes) → Malformed (c :: rest)
  | digits {s : List Char} : LacksDigits s → Malformed ('u' :: s)
  /-- A low surrogate with no high one before it. -/
  | low {n : Nat} {digits rest : List Char} :
      WritesUnit n digits → 0xDC00 ≤ n → n < 0xE000 → Malformed ('u' :: digits ++ rest)
  /-- A high surrogate with no low one behind it. -/
  | high {n : Nat} {digits rest : List Char} :
      WritesUnit n digits → 0xD800 ≤ n → n < 0xDC00 →
      (∀ low digits' rest', WritesUnit low digits' → 0xDC00 ≤ low → low < 0xE000 →
        rest ≠ '\\' :: 'u' :: digits' ++ rest') →
      Malformed ('u' :: digits ++ rest)

/-- The characters that open and close a literal. -/
def IsQuote (c : Char) : Prop := c = '"' ∨ c = '\''

/-- A literal from behind its opening quote: it is closed, and a text follows. -/
def Closed (quote : Char) (s : List Char) : Prop :=
  ∃ value body rest, Body quote value body ∧ s = body ++ quote :: rest

/-- A literal that the end of the text cuts off: all of it is well formed, but for a backslash at
the end. -/
def CutOff (quote : Char) (s : List Char) : Prop :=
  ∃ value body, Body quote value body ∧ (s = body ∨ s = body ++ ['\\'])

/-- A literal with a backslash, the first of this sort, behind which no escape sequence stands. -/
def Faulty (quote : Char) (s : List Char) : Prop :=
  ∃ value body rest, Body quote value body ∧ s = body ++ '\\' :: rest ∧ Malformed rest

/-! ## hexadecimal digits -/

section digits

variable {c : Char} {n : Nat} {digits rest s : List Char}

/-- The digits of a number are read back. -/
theorem isHexDigit_of_isDigitOf (hn : n < 0x10) (h : IsDigitOf c n) :
    isHexDigit c = true ∧ hexDigitValue c = n := by
  have hsmall : ∀ n < 0x10, isHexDigit n.digitChar = true ∧ hexDigitValue n.digitChar = n := by
    decide
  have hcapital : ∀ n < 0x10, isHexDigit n.digitChar.toUpper = true ∧
      hexDigitValue n.digitChar.toUpper = n := by
    decide
  obtain rfl | rfl := h
  · exact hsmall n hn
  · exact hcapital n hn

theorem toNat_lt_of_isHexDigit (h : isHexDigit c = true) : c.toNat < 0x67 := by
  have hle : c ≤ '9' ∨ c ≤ 'f' ∨ c ≤ 'F' := by
    simp only [isHexDigit, Char.isDigit, Bool.or_eq_true, Bool.and_eq_true, decide_eq_true_eq] at h
    obtain (⟨-, h⟩ | ⟨-, h⟩) | ⟨-, h⟩ := h
    · exact .inl h
    · exact .inr (.inl h)
    · exact .inr (.inr h)
  have hnat {d : Char} (h : c ≤ d) : c.toNat ≤ d.toNat := h
  obtain h | h | h := hle
  · exact Nat.lt_of_le_of_lt (hnat h) (by decide)
  · exact Nat.lt_of_le_of_lt (hnat h) (by decide)
  · exact Nat.lt_of_le_of_lt (hnat h) (by decide)

/-- A hexadecimal digit is that of its value. -/
theorem isDigitOf_hexDigitValue (h : isHexDigit c = true) :
    hexDigitValue c < 0x10 ∧ IsDigitOf c (hexDigitValue c) := by
  have hall : ∀ n < 0x67, isHexDigit (Char.ofNat n) = true →
      hexDigitValue (Char.ofNat n) < 0x10 ∧
      IsDigitOf (Char.ofNat n) (hexDigitValue (Char.ofNat n)) := by decide
  have hc := hall c.toNat (toNat_lt_of_isHexDigit h)
  rw [Char.ofNat_toNat] at hc
  exact hc h

theorem exists_isDigitOf_iff : (∃ n < 0x10, IsDigitOf c n) ↔ isHexDigit c = true := by
  constructor
  · rintro ⟨n, hn, h⟩
    exact (isHexDigit_of_isDigitOf hn h).1
  · intro h
    exact ⟨_, isDigitOf_hexDigitValue h⟩

theorem hexValue_four (a b c d : Char) : hexValue [a, b, c, d] =
    0x1000 * hexDigitValue a + 0x100 * hexDigitValue b + 0x10 * hexDigitValue c +
      hexDigitValue d := by
  simp only [hexValue, List.foldl_cons, List.foldl_nil]
  omega

/-- Four digits write the code unit that they are read as. -/
theorem writesUnit_iff : WritesUnit n digits ↔
    digits.length = 4 ∧ (∀ c ∈ digits, isHexDigit c = true) ∧ hexValue digits = n := by
  constructor
  · rintro ⟨hn, h⟩
    match digits, h with
    | [a, b, c, d], .cons ha (.cons hb (.cons hc (.cons hd .nil))) =>
        obtain ⟨ha, hva⟩ := isHexDigit_of_isDigitOf (by omega) ha
        obtain ⟨hb, hvb⟩ := isHexDigit_of_isDigitOf (by omega) hb
        obtain ⟨hc, hvc⟩ := isHexDigit_of_isDigitOf (by omega) hc
        obtain ⟨hd, hvd⟩ := isHexDigit_of_isDigitOf (by omega) hd
        refine ⟨rfl, by simp [ha, hb, hc, hd], ?_⟩
        rw [hexValue_four]
        omega
  · rintro ⟨hlength, hhex, rfl⟩
    match digits, hlength with
    | [a, b, c, d], _ =>
        simp only [List.forall_mem_cons] at hhex
        obtain ⟨hva, ha⟩ := isDigitOf_hexDigitValue hhex.1
        obtain ⟨hvb, hb⟩ := isDigitOf_hexDigitValue hhex.2.1
        obtain ⟨hvc, hc⟩ := isDigitOf_hexDigitValue hhex.2.2.1
        obtain ⟨hvd, hd⟩ := isDigitOf_hexDigitValue hhex.2.2.2.1
        rw [hexValue_four]
        refine ⟨by omega, .cons ?_ (.cons ?_ (.cons ?_ (.cons ?_ .nil)))⟩
        · convert ha using 1; omega
        · convert hb using 1; omega
        · convert hc using 1; omega
        · convert hd using 1; omega

/-- Four digits are read as a code unit, before any text. -/
theorem unitDigits_append (h : WritesUnit n digits) (rest : List Char) :
    unitDigits (digits ++ rest) = digits ∧ afterUnit (digits ++ rest) = rest := by
  obtain ⟨hlength, hhex, -⟩ := writesUnit_iff.1 h
  have hdigits : unitDigits (digits ++ rest) = digits :=
    unitDigits_append_eq (by omega) hhex fun hshort => by omega
  exact ⟨hdigits, by rw [afterUnit, hdigits, List.drop_left]⟩

theorem isHexDigit_of_mem_unitDigits : ∀ c ∈ unitDigits s, isHexDigit c = true :=
  List.all_eq_true.1 List.all_takeWhile

/-- What is read as four digits writes a code unit. -/
theorem writesUnit_unitDigits (h : ¬ (unitDigits s).length < 4) :
    WritesUnit (hexValue (unitDigits s)) (unitDigits s) := by
  have hle := length_unitDigits_le s
  exact writesUnit_iff.2 ⟨by omega, isHexDigit_of_mem_unitDigits, rfl⟩

/-- Fewer digits than four are read just if no four come next. -/
theorem lacksDigits_iff : LacksDigits s ↔ (unitDigits s).length < 4 := by
  simp only [LacksDigits, exists_isDigitOf_iff, Bool.not_eq_true]
  constructor
  · rintro ⟨digits, rest, rfl, hlength, hhex, hrest⟩
    rw [unitDigits_append_eq (by omega) hhex fun _ => hrest]
    exact hlength
  · intro hlength
    exact ⟨unitDigits s, afterUnit s, (unitDigits_append_afterUnit s).symm, hlength,
      isHexDigit_of_mem_unitDigits, head?_afterUnit_not hlength⟩

end digits

/-! ## escape sequences -/

section escapes

variable {c quote letter : Char} {n high : Nat} {digits form rest s sequence : List Char}

theorem shortEscape?_eq_some_iff : shortEscape? letter = some c ↔ (letter, c) ∈ shortEscapes := by
  unfold shortEscape?
  split <;> simp_all [shortEscapes, eq_comm]

theorem isHighSurrogate_iff : isHighSurrogate n = true ↔ 0xD800 ≤ n ∧ n < 0xDC00 := by
  simp [isHighSurrogate]

theorem isLowSurrogate_iff : isLowSurrogate n = true ↔ 0xDC00 ≤ n ∧ n < 0xE000 := by
  simp [isLowSurrogate]

/-- The surrogates of a character are joined again. -/
theorem joinSurrogates_toNat (h : 0x10000 ≤ c.toNat) :
    isHighSurrogate (0xD800 + (c.toNat - 0x10000) / 0x400) = true ∧
      isLowSurrogate (0xDC00 + (c.toNat - 0x10000) % 0x400) = true ∧
      joinSurrogates (0xD800 + (c.toNat - 0x10000) / 0x400) (0xDC00 + (c.toNat - 0x10000) % 0x400) =
        c.toNat := by
  have hvalid : c.toNat < 0xD800 ∨ 0xDFFF < c.toNat ∧ c.toNat < 0x110000 := c.valid
  unfold joinSurrogates isHighSurrogate isLowSurrogate
  simp only [Bool.and_eq_true, decide_eq_true_eq]
  omega

/-- A pair of surrogates is split again. -/
theorem toNat_joinSurrogates {low : Nat} (hhigh : 0xD800 ≤ high ∧ high < 0xDC00)
    (hlow : 0xDC00 ≤ low ∧ low < 0xE000) :
    (Char.ofNat (joinSurrogates high low)).toNat = joinSurrogates high low ∧
      0x10000 ≤ joinSurrogates high low ∧
      0xD800 + (joinSurrogates high low - 0x10000) / 0x400 = high ∧
      0xDC00 + (joinSurrogates high low - 0x10000) % 0x400 = low := by
  have hvalue : joinSurrogates high low = 0x10000 + (high - 0xD800) * 0x400 + (low - 0xDC00) := by
    unfold joinSurrogates
    exact Eq.refl _
  generalize joinSurrogates high low = n at hvalue ⊢
  have hvalid : n.isValidChar := by
    right
    omega
  refine ⟨?_, by omega, by omega, by omega⟩
  rw [Char.toNat_ofNat, if_pos hvalid]

/-- Either fewer than four digits come next, or four that write a code unit. -/
theorem lacksDigits_or (s : List Char) :
    LacksDigits s ∨ ∃ n digits rest, WritesUnit n digits ∧ s = digits ++ rest := by
  by_cases hshort : (unitDigits s).length < 4
  · exact .inl (lacksDigits_iff.2 hshort)
  · exact .inr ⟨_, _, _, writesUnit_unitDigits hshort, (unitDigits_append_afterUnit s).symm⟩

theorem scanUnit_append (h : WritesUnit n digits) (rest : List Char) : scanUnit (digits ++ rest) =
    if isHighSurrogate n then scanPair n rest
    else if isLowSurrogate n then .invalid (namedUnit n) rest
    else .char (Char.ofNat n) rest := by
  obtain ⟨hdigits, hafter⟩ := unitDigits_append h rest
  obtain ⟨hlength, -, hvalue⟩ := writesUnit_iff.1 h
  simp [scanUnit, hdigits, hafter, hlength, hvalue]

theorem scanLowUnit_append (h : WritesUnit n digits) (rest : List Char) :
    scanLowUnit high (digits ++ rest) =
      if isLowSurrogate n then .char (Char.ofNat (joinSurrogates high n)) rest
      else .invalid (namedUnit high ++ namedUnit n) rest := by
  obtain ⟨hdigits, hafter⟩ := unitDigits_append h rest
  obtain ⟨hlength, -, hvalue⟩ := writesUnit_iff.1 h
  simp [scanLowUnit, hdigits, hafter, hlength, hvalue]

theorem scanPair_append {low : Nat} (h : WritesUnit low digits) (hlow : isLowSurrogate low = true)
    (rest : List Char) :
    scanPair high ('\\' :: 'u' :: digits ++ rest) =
      .char (Char.ofNat (joinSurrogates high low)) rest := by
  show scanLowUnit high (digits ++ rest) = _
  rw [scanLowUnit_append h, if_pos hlow]

/-- What is read behind a high surrogate: a low one, or nothing. -/
theorem scanPair_cases (high : Nat) (s : List Char) :
    (∃ low digits rest, WritesUnit low digits ∧ isLowSurrogate low = true ∧
      s = '\\' :: 'u' :: digits ++ rest ∧
      scanPair high s = .char (Char.ofNat (joinSurrogates high low)) rest) ∨
    ∃ sequence rest, scanPair high s = .invalid sequence rest := by
  by_cases hbackslash : s.head? = some '\\'
  · obtain ⟨s, rfl⟩ := List.head?_eq_some_iff.1 hbackslash
    by_cases hu : s.head? = some 'u'
    · obtain ⟨s, rfl⟩ := List.head?_eq_some_iff.1 hu
      have hpair : scanPair high ('\\' :: 'u' :: s) = scanLowUnit high s := rfl
      rw [hpair]
      obtain hlacks | ⟨n, digits, rest, hwrites, rfl⟩ := lacksDigits_or s
      · rw [scanLowUnit, if_pos (lacksDigits_iff.1 hlacks)]
        exact .inr ⟨_, _, rfl⟩
      · rw [scanLowUnit_append hwrites]
        split
        next hlow => exact .inl ⟨n, digits, rest, hwrites, hlow, rfl, rfl⟩
        next => exact .inr ⟨_, _, rfl⟩
    · rw [scanPair_backslash_of_head? hu]
      exact .inr ⟨_, _, rfl⟩
  · rw [scanPair_of_head? hbackslash]
    exact .inr ⟨_, _, rfl⟩

/-- A form that is an escape sequence is read as its character, before any text. -/
theorem scanEscape_of_form (h : Form quote c ('\\' :: form)) (rest : List Char) :
    scanEscape (form ++ rest) = .char c rest := by
  generalize hwhole : '\\' :: form = whole at h
  cases h with
  | plain _ hbackslash =>
      cases hwhole
      exact absurd rfl hbackslash
  | @short letter hletter =>
      cases hwhole
      have hshort := shortEscape?_eq_some_iff.2 hletter
      have hu : letter ≠ 'u' := by
        rintro rfl
        cases hshort
      simp [scanEscape, hshort]
  | unit hwrites =>
      cases hwhole
      obtain ⟨hhigh, hlow⟩ := not_isSurrogate_toNat c
      have hscan := scanUnit_append hwrites rest
      rw [hhigh, hlow] at hscan
      simpa [scanEscape] using hscan
  | @pair high low hlarge hhigh hlow =>
      cases hwhole
      obtain ⟨hishigh, hislow, hjoin⟩ := joinSurrogates_toNat hlarge
      have hscan : scanUnit (high ++ ('\\' :: 'u' :: low ++ rest)) = .char c rest := by
        rw [scanUnit_append hhigh, if_pos hishigh, scanPair_append hlow hislow,
          hjoin, Char.ofNat_toNat]
      simpa [scanEscape] using hscan

/-- What an escape sequence is read as: a character that it is a form of, or nothing where none
stands. -/
inductive Reads : List Char → EscapeScan → Prop where
  | char {c : Char} {form rest : List Char} :
      (∀ quote, Form quote c ('\\' :: form)) → Reads (form ++ rest) (.char c rest)
  | invalid {s sequence rest : List Char} : Malformed s → Reads s (.invalid sequence rest)
  | unfinished : Reads [] .unfinished

theorem reads_scanUnit (s : List Char) : Reads ('u' :: s) (scanUnit s) := by
  obtain hlacks | ⟨n, digits, rest, hwrites, rfl⟩ := lacksDigits_or s
  · rw [scanUnit, if_pos (lacksDigits_iff.1 hlacks)]
    exact .invalid (.digits hlacks)
  · rw [scanUnit_append hwrites]
    split
    next hhigh =>
      have hrange := isHighSurrogate_iff.1 hhigh
      obtain ⟨low, digits', rest', hwrites', hlow, rfl, hscan⟩ | ⟨sequence, rest', hscan⟩ :=
        scanPair_cases n rest
      · obtain ⟨hvalue, hlarge, hfirst, hsecond⟩ :=
          toNat_joinSurrogates hrange (isLowSurrogate_iff.1 hlow)
        have hform (quote : Char) : Form quote (Char.ofNat (joinSurrogates n low))
            ('\\' :: 'u' :: digits ++ '\\' :: 'u' :: digits') := by
          refine .pair ?_ ?_ ?_ <;> rw [hvalue]
          · exact hlarge
          · rwa [hfirst]
          · rwa [hsecond]
        rw [hscan]
        simpa using @Reads.char _ ('u' :: digits ++ '\\' :: 'u' :: digits') rest' hform
      · rw [hscan]
        refine .invalid (.high hwrites hrange.1 hrange.2 ?_)
        rintro low digits' after hwrites' hfrom hto rfl
        rw [scanPair_append hwrites' (isLowSurrogate_iff.2 ⟨hfrom, hto⟩)] at hscan
        cases hscan
    next hhigh =>
      split
      next hlow =>
        have hrange := isLowSurrogate_iff.1 hlow
        exact .invalid (.low hwrites hrange.1 hrange.2)
      next hlow =>
        have hvalid : n.isValidChar := by
          have hn := hwrites.1
          rw [isHighSurrogate_iff] at hhigh
          rw [isLowSurrogate_iff] at hlow
          unfold Nat.isValidChar
          omega
        have hvalue : (Char.ofNat n).toNat = n := by rw [Char.toNat_ofNat, if_pos hvalid]
        have hform (quote : Char) : Form quote (Char.ofNat n) ('\\' :: 'u' :: digits) :=
          .unit (hvalue.symm ▸ hwrites)
        exact @Reads.char _ ('u' :: digits) rest hform

/-- An escape sequence is read as what stands behind the backslash. -/
theorem reads_scanEscape (s : List Char) : Reads s (scanEscape s) := by
  cases s with
  | nil => exact .unfinished
  | cons letter s =>
      by_cases hu : letter = 'u'
      · subst hu
        exact reads_scanUnit s
      · cases hshort : shortEscape? letter with
        | some value =>
            have hscan : scanEscape (letter :: s) = .char value s := by simp [scanEscape, hshort]
            rw [hscan]
            exact @Reads.char _ [letter] s fun _ => .short (shortEscape?_eq_some_iff.1 hshort)
        | none =>
            have hscan : scanEscape (letter :: s) = .invalid ['\\', letter] s := by
              simp [scanEscape, hshort]
            rw [hscan]
            refine .invalid (.letter hu fun value hmem => ?_)
            cases hshort.symm.trans (shortEscape?_eq_some_iff.2 hmem)

/-- Where no escape sequence stands, none is read. -/
theorem scanEscape_of_malformed (h : Malformed s) :
    ∃ sequence rest, scanEscape s = .invalid sequence rest := by
  cases h with
  | @letter letter rest hu hletter =>
      have hshort : shortEscape? letter = none := by
        refine Option.eq_none_iff_forall_not_mem.2 fun value hvalue => ?_
        exact hletter value (shortEscape?_eq_some_iff.1 hvalue)
      exact ⟨['\\', letter], rest, by simp [scanEscape, hshort]⟩
  | @digits s hlacks =>
      have hscan : scanEscape ('u' :: s) = scanUnit s := rfl
      rw [hscan, scanUnit, if_pos (lacksDigits_iff.1 hlacks)]
      exact ⟨_, _, rfl⟩
  | @low n digits rest hwrites hfrom hto =>
      have hscan : scanEscape ('u' :: digits ++ rest) = scanUnit (digits ++ rest) := rfl
      have hhigh : ¬ isHighSurrogate n = true := by
        rw [isHighSurrogate_iff]
        omega
      rw [hscan, scanUnit_append hwrites, if_neg hhigh, if_pos (isLowSurrogate_iff.2 ⟨hfrom, hto⟩)]
      exact ⟨_, _, rfl⟩
  | @high n digits rest hwrites hfrom hto hlone =>
      have hscan : scanEscape ('u' :: digits ++ rest) = scanUnit (digits ++ rest) := rfl
      rw [hscan, scanUnit_append hwrites, if_pos (isHighSurrogate_iff.2 ⟨hfrom, hto⟩)]
      obtain ⟨low, digits', rest', hwrites', hlow, hrest, -⟩ | hinvalid := scanPair_cases n rest
      · have hrange := isLowSurrogate_iff.1 hlow
        exact absurd hrest (hlone low digits' rest' hwrites' hrange.1 hrange.2)
      · exact hinvalid

end escapes

/-! ## literals -/

section literals

variable {quote c : Char} {form value body rest s : List Char} {outcome : Scan}

theorem IsQuote.ne_backslash (h : IsQuote quote) : '\\' ≠ quote := by
  obtain rfl | rfl := h <;> decide

/-- The outcome with more characters in front of the value. -/
theorem foldr_cons_closed (value tail rest : List Char) :
    value.foldr Scan.cons (.closed tail rest) = .closed (value ++ tail) rest := by
  induction value with
  | nil => rfl
  | cons c value ih => rw [List.foldr_cons, ih, Scan.cons, List.cons_append]

/-- An outcome without a value stays as it is. -/
theorem foldr_cons_eq (h : ∀ c, outcome.cons c = outcome) (value : List Char) :
    value.foldr Scan.cons outcome = outcome := by
  induction value with
  | nil => rfl
  | cons c value ih => rw [List.foldr_cons, ih, h]

/-- A form is read as its character. -/
theorem scan_form (hquote : '\\' ≠ quote) (h : Form quote c form) (rest : List Char) :
    scan quote (form ++ rest) = (scan quote rest).cons c := by
  have hform := h
  cases h with
  | plain hne hbackslash => exact scan_other hne hbackslash rest
  | short _ => exact scan_char hquote (scanEscape_of_form hform rest)
  | unit _ => exact scan_char hquote (scanEscape_of_form hform rest)
  | pair _ _ _ => exact scan_char hquote (scanEscape_of_form hform rest)

/-- A body is read as its value. -/
theorem scan_body (hquote : '\\' ≠ quote) (h : Body quote value body) (rest : List Char) :
    scan quote (body ++ rest) = value.foldr Scan.cons (scan quote rest) := by
  induction h with
  | nil => rfl
  | cons hform _ ih => rw [List.append_assoc, scan_form hquote hform, ih, List.foldr_cons]

/-- What a text is read as: a literal, one that is cut off, or a faulty one. -/
inductive Judges (quote : Char) : List Char → Scan → Prop where
  | closed {value body rest : List Char} :
      Body quote value body → Judges quote (body ++ quote :: rest) (.closed value rest)
  | unterminated {value body : List Char} : Body quote value body → Judges quote body .unterminated
  | backslash {value body : List Char} : Body quote value body →
      Judges quote (body ++ ['\\']) .unterminated
  | invalid {value body rest sequence after : List Char} :
      Body quote value body → Malformed rest →
      Judges quote (body ++ '\\' :: rest) (.invalid sequence after)

/-- One more form in front makes one more character. -/
theorem Judges.cons (hform : Form quote c form) (h : Judges quote s outcome) :
    Judges quote (form ++ s) (outcome.cons c) := by
  cases h with
  | closed hbody =>
      rw [← List.append_assoc]
      exact .closed (.cons hform hbody)
  | unterminated hbody => exact .unterminated (.cons hform hbody)
  | backslash hbody =>
      rw [← List.append_assoc]
      exact .backslash (.cons hform hbody)
  | invalid hbody hmalformed =>
      rw [← List.append_assoc]
      exact .invalid (.cons hform hbody) hmalformed

/-- The reader of literals keeps to this. -/
theorem judges_scan (quote : Char) (s : List Char) : Judges quote s (scan quote s) := by
  fun_induction scan quote s with
  | case1 => exact .unterminated .nil
  | case2 s => exact @Judges.closed quote [] [] s .nil
  | case3 s value rest hescape hquote ih =>
      have hreads := reads_scanEscape s
      rw [hescape] at hreads
      cases hreads with
      | char hform => exact ih.cons (hform quote)
  | case4 s sequence rest hescape hquote =>
      have hreads := reads_scanEscape s
      rw [hescape] at hreads
      cases hreads with
      | invalid hmalformed => exact @Judges.invalid quote [] [] s _ _ .nil hmalformed
  | case5 s hescape hquote =>
      have hreads := reads_scanEscape s
      rw [hescape] at hreads
      cases hreads with
      | unfinished => exact @Judges.backslash quote [] [] .nil
  | case6 c s hquote hbackslash ih => exact ih.cons (.plain hquote hbackslash)

theorem scan_of_closed (hquote : '\\' ≠ quote) (h : Body quote value body) (rest : List Char) :
    scan quote (body ++ quote :: rest) = .closed value rest := by
  rw [scan_body hquote h, scan_quote, foldr_cons_closed, List.append_nil]

theorem scan_of_cutOff (hquote : '\\' ≠ quote) (h : CutOff quote s) :
    scan quote s = .unterminated := by
  obtain ⟨value, body, hbody, rfl | rfl⟩ := h
  · have hscan := scan_body hquote hbody []
    rwa [List.append_nil, scan, foldr_cons_eq fun _ => rfl] at hscan
  · have hend : scan quote ['\\'] = .unterminated := by
      rw [scan, if_neg hquote, if_pos rfl]
      rfl
    rw [scan_body hquote hbody, hend, foldr_cons_eq fun _ => rfl]

theorem scan_of_faulty (hquote : '\\' ≠ quote) (h : Faulty quote s) :
    ∃ sequence rest, scan quote s = .invalid sequence rest := by
  obtain ⟨value, body, rest, hbody, rfl, hmalformed⟩ := h
  obtain ⟨sequence, after, hescape⟩ := scanEscape_of_malformed hmalformed
  refine ⟨sequence, after, ?_⟩
  rw [scan_body hquote hbody, scan_invalid hquote hescape, foldr_cons_eq fun _ => rfl]

end literals

/-! ## tokens -/

section tokens

variable {quote c : Char} {value : String} {rest s : List Char}

theorem scan_of_isQuote (h : IsQuote quote) (s : List Char) :
    TokenKind.scan quote s = ((scan quote s).kind, (scan quote s).rest) := by
  rw [← TokenKind.scanString_eq]
  obtain rfl | rfl := h <;> rfl

/-- A string token is a literal. -/
theorem closed_of_scan_eq_string (h : TokenKind.scan c s = (.string value, rest)) :
    IsQuote c ∧ ∃ body, Body c value.toList body ∧ s = body ++ c :: rest := by
  obtain ⟨hquote, hscan⟩ | hunquoted := TokenKind.scan_cases c s
  · have hjudges := judges_scan c s
    rw [hscan, TokenKind.scanString_eq] at h
    generalize scan c s = outcome at hjudges h
    cases hjudges with
    | closed hbody =>
        simp only [Scan.kind, Scan.rest, Prod.mk.injEq, TokenKind.string.injEq] at h
        obtain ⟨rfl, rfl⟩ := h
        rw [String.toList_ofList]
        exact ⟨hquote, _, hbody, rfl⟩
    | _ => cases (Prod.mk.inj h).1
  · rw [h] at hunquoted
    cases hunquoted

/-- The first token of a text that begins with a quote is what the literal is read as. -/
theorem head?_tokenize (h : IsQuote quote) (s : List Char) :
    (tokenize (String.ofList (quote :: s))).head?.map (·.kind) = some (scan quote s).kind := by
  rw [tokenize, Cursor.ofString, String.toList_ofList, Cursor.tokens]
  show some (TokenKind.scan quote s).1 = _
  rw [scan_of_isQuote h]

/-- What is written for a value is read as one token. -/
theorem tokenize_of_body {body : List Char} (hquote : IsQuote quote)
    (hbody : Body quote value.toList body) :
    tokenize (String.ofList (quote :: body ++ [quote])) =
      [⟨.string value, ⟨0, byteSize (quote :: body ++ [quote])⟩⟩,
        ⟨.endOfText, ⟨byteSize (quote :: body ++ [quote]), 0⟩⟩] := by
  have hscan : TokenKind.scan quote (body ++ [quote] ++ ([] ++ [])) =
      (.string value, [] ++ []) := by
    rw [scan_of_isQuote hquote, List.append_nil, List.append_nil,
      scan_of_closed hquote.ne_backslash hbody, Scan.kind, Scan.rest, String.ofList_toList]
  have hlexes : Lexes [] 0 (quote :: (body ++ [quote]) ++ []) _ := .cons hscan .nil
  have htokens := hlexes.tokenize_eq
  rwa [List.append_nil] at htokens

/-- A string token is written for its value. -/
theorem exists_body_of_mem_tokenize {text : String} {span : Span}
    (h : ⟨.string value, span⟩ ∈ tokenize text) :
    ∃ quote before body, IsQuote quote ∧ Body quote value.toList body ∧
      span.Cuts text.toList before (quote :: body ++ [quote]) := by
  obtain ⟨before, stretch, behind, htext, hlexes⟩ := exists_lexes_of_mem h TokenKind.noConfusion
  have hspan : span = _ := hlexes.span_eq
  cases hlexes with
  | @cons _ quote taken _ _ _ hscan hrest =>
      cases hrest
      obtain ⟨hquote, body, hbody, hsplit⟩ := closed_of_scan_eq_string hscan
      have hsplit : taken ++ behind = body ++ [quote] ++ behind := by simpa using hsplit
      obtain rfl := List.append_cancel_right hsplit
      refine ⟨quote, before, body, hquote, hbody, ?_, ?_, ?_⟩
      · rw [htext]
        simp
      · rw [hspan]
      · rw [hspan, List.append_nil, List.cons_append]

/-- Where a literal is not closed, it is cut off or faulty, and the reader tells which. -/
theorem cutOff_or_faulty (h : ¬ Closed quote s) :
    CutOff quote s ∧ scan quote s = .unterminated ∨
      Faulty quote s ∧ ∃ sequence rest, scan quote s = .invalid sequence rest := by
  have hjudges := judges_scan quote s
  generalize scan quote s = outcome at hjudges ⊢
  cases hjudges with
  | closed hbody => exact absurd ⟨_, _, _, hbody, rfl⟩ h
  | unterminated hbody => exact .inl ⟨⟨_, _, hbody, .inl rfl⟩, rfl⟩
  | backslash hbody => exact .inl ⟨⟨_, _, hbody, .inr rfl⟩, rfl⟩
  | invalid hbody hmalformed => exact .inr ⟨⟨_, _, _, hbody, rfl, hmalformed⟩, _, _, rfl⟩

end tokens

end Phrasebook.StringLiteral

namespace Phrasebook

open StringLiteral Text

/-- **String literals are decoded exactly**.

1. A value written character by character, each in any of its forms, is read as one token with this
   value, from the first quote to the last.
2. Every string of a text is written like this, between the bounds of its token.
3. Where a text begins with a quote and with no literal, its first token says why: the end of the
   text cuts the literal off, or else a backslash stands before no escape sequence. -/
theorem string_literals_decoded_exactly :
    (∀ quote value body, IsQuote quote → Body quote (String.toList value) body →
      tokenize (String.ofList (quote :: body ++ [quote])) =
        [⟨.string value, ⟨0, byteSize (quote :: body ++ [quote])⟩⟩,
          ⟨.endOfText, ⟨byteSize (quote :: body ++ [quote]), 0⟩⟩]) ∧
    (∀ text value span, ⟨.string value, span⟩ ∈ tokenize text →
      ∃ quote before body, IsQuote quote ∧ Body quote value.toList body ∧
        span.Cuts text.toList before (quote :: body ++ [quote])) ∧
    ∀ quote s, IsQuote quote → ¬ Closed quote s →
      let first := (tokenize (String.ofList (quote :: s))).head?.map (·.kind)
      (first = some .unterminatedString ↔ CutOff quote s) ∧
        ((∃ sequence, first = some (.invalidEscape sequence)) ↔ ¬ CutOff quote s) ∧
        (¬ CutOff quote s ↔ Faulty quote s) := by
  refine ⟨fun _ _ _ => tokenize_of_body, fun _ _ _ => exists_body_of_mem_tokenize, ?_⟩
  intro quote s hquote hopen first
  have hfirst : first = some (StringLiteral.scan quote s).kind := head?_tokenize hquote s
  obtain ⟨hcut, hscan⟩ | ⟨hfaulty, sequence, rest, hscan⟩ := cutOff_or_faulty hopen
  · have hnot : ¬ Faulty quote s := fun hfaulty => by
      obtain ⟨_, _, hinvalid⟩ := scan_of_faulty hquote.ne_backslash hfaulty
      cases hscan.symm.trans hinvalid
    simp [hfirst, hscan, Scan.kind, hcut, hnot]
  · have hnot : ¬ CutOff quote s := fun hcut => by
      cases hscan.symm.trans (scan_of_cutOff hquote.ne_backslash hcut)
    simp [hfirst, hscan, Scan.kind, hfaulty, hnot]

/-- A value with each character in another form: itself, twice, a short escape, a code unit and a
pair. -/
def escapedBody : List Char :=
  ['a'] ++ (['"'] ++ (['\\', 't'] ++ ('\\' :: 'u' :: ['0', '0', 'E', '9'] ++
    ('\\' :: 'u' :: ['D', '8', '3', 'd'] ++ '\\' :: 'u' :: ['d', 'E', '0', '0'] ++ []))))

theorem string_literals_decoded_exactly_escapedBody :
    tokenize (String.ofList ('\'' :: escapedBody ++ ['\''])) =
        [⟨.string "a\"\té😀", ⟨0, 24⟩⟩, ⟨.endOfText, ⟨24, 0⟩⟩] ∧
      ∃ sequence, (tokenize (String.ofList ('"' :: "\\uDC00".toList))).head?.map (·.kind) =
        some (.invalidEscape sequence) := by
  obtain ⟨hdecoded, -, hopen⟩ := string_literals_decoded_exactly
  have hbody : Body '\'' "a\"\té😀".toList escapedBody :=
    .cons (.plain (by decide) (by decide)) (.cons (.plain (by decide) (by decide))
      (.cons (.short (by decide))
        (.cons (.unit (writesUnit_iff.2 ⟨rfl, List.all_eq_true.1 rfl, rfl⟩))
        (.cons (.pair (by decide) (writesUnit_iff.2 ⟨rfl, List.all_eq_true.1 rfl, rfl⟩)
          (writesUnit_iff.2 ⟨rfl, List.all_eq_true.1 rfl, rfl⟩)) .nil))))
  have hnot : ¬ Closed '"' "\\uDC00".toList := by
    rintro ⟨value, body, rest, -, hsplit⟩
    have hmem : '"' ∈ "\\uDC00".toList := by simp [hsplit]
    exact absurd hmem (by decide)
  have hfaulty : Faulty '"' "\\uDC00".toList :=
    ⟨[], [], "uDC00".toList, .nil, rfl,
      @Malformed.low 0xDC00 ['D', 'C', '0', '0'] []
        (writesUnit_iff.2 ⟨rfl, List.all_eq_true.1 rfl, rfl⟩) (by decide) (by decide)⟩
  obtain ⟨-, hinvalid, hcut⟩ := hopen '"' _ (.inl rfl) hnot
  exact ⟨hdecoded _ _ _ (.inr rfl) hbody, hinvalid.2 (hcut.2 hfaulty)⟩

end Phrasebook
