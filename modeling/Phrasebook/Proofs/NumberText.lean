import Mathlib.Data.List.Basic
import Phrasebook.Proofs.Lookahead

/-!
# Phrasebook.Proofs.NumberText

How numbers are written, told without their reader.

```text
number ::= [ "-" ] unsigned
unsigned ::= digit { digit } [ "." { digit } ] [ ( "e" | "E" ) [ "+" | "-" ] { digit } ]
```

From a digit on, the reader takes the longest beginning of a text that is a number
(`NumberLiteral.longest_scan`, `NumberLiteral.scan_of_longest`).  It looks one character ahead, but
gives nothing up that it has taken: an exponent is taken even where no digit follows.
-/

namespace Phrasebook.NumberLiteral

/-- Digits, or nothing. -/
def Digits (s : List Char) : Prop := ∀ c ∈ s, c.isDigit = true

/-- A point and the digits behind it, if there is a point. -/
inductive FractionSpelled : List Char → List Char → Prop where
  | none : FractionSpelled [] []
  | point {digits : List Char} : Digits digits → FractionSpelled digits ('.' :: digits)

/-- The sign of an exponent, if there is one. -/
inductive SignSpelled : Bool → List Char → Prop where
  | none : SignSpelled false []
  | plus : SignSpelled false ['+']
  | minus : SignSpelled true ['-']

/-- An exponent, if there is one.  Its digits may be missing. -/
inductive ExponentSpelled : Option (Bool × List Char) → List Char → Prop where
  | none : ExponentSpelled none []
  | some {letter : Char} {negative : Bool} {sign digits : List Char} :
      letter = 'e' ∨ letter = 'E' → SignSpelled negative sign → Digits digits →
      ExponentSpelled (some (negative, digits)) (letter :: (sign ++ digits))

/-- A number literal as it is written behind its sign. -/
inductive Unsigned (n : NumberLiteral) : List Char → Prop where
  | mk {fraction exponent : List Char} :
      n.whole ≠ [] → Digits n.whole → FractionSpelled n.fraction fraction →
      ExponentSpelled n.exponent exponent → Unsigned n (n.whole ++ (fraction ++ exponent))

/-- A text behind a minus sign, or the text alone. -/
def withSign (negative : Bool) (s : List Char) : List Char := if negative then '-' :: s else s

/-- A number literal as it is written. -/
def Spelled (n : NumberLiteral) (s : List Char) : Prop :=
  ∃ u, n.Unsigned u ∧ s = withSign n.negative u

/-- An exponent, if there is one, has a digit. -/
def Finished (n : NumberLiteral) : Prop := ∀ negative, n.exponent ≠ some (negative, [])

/-- No longer beginning of the text is written as a number. -/
def Longest (s behind : List Char) : Prop :=
  ∀ (n : NumberLiteral) (t : List Char), n.Spelled t → t <+: s ++ behind → t.length ≤ s.length

variable {n : NumberLiteral} {s t u digits sign rest behind fraction exponent : List Char}
  {negative : Bool} {e : Option (Bool × List Char)}

theorem isSome_value?_iff : n.value?.isSome = true ↔ n.Finished := by
  obtain ⟨negative, whole, fraction, exponent⟩ := n
  match exponent with
  | none => simp [value?, Finished]
  | some (_, []) => simp [value?, Finished]
  | some (_, _ :: _) => simp [value?, Finished]

/-! ## what the reader takes is a number -/

theorem digits_takeWhile (s : List Char) : Digits (s.takeWhile Char.isDigit) :=
  List.all_eq_true.1 List.all_takeWhile

theorem exists_fractionSpelled (s : List Char) :
    ∃ f, s = f ++ (scanFraction s).2 ∧ FractionSpelled (scanFraction s).1 f := by
  unfold scanFraction
  split
  next s =>
    exact ⟨'.' :: s.takeWhile Char.isDigit,
      congrArg ('.' :: ·) List.takeWhile_append_dropWhile.symm, .point (digits_takeWhile s)⟩
  next => exact ⟨[], rfl, .none⟩

theorem exists_signSpelled (s : List Char) :
    ∃ sign, s = sign ++ (scanSign s).2 ∧ SignSpelled (scanSign s).1 sign := by
  unfold scanSign
  split
  next => exact ⟨['-'], rfl, .minus⟩
  next => exact ⟨['+'], rfl, .plus⟩
  next => exact ⟨[], rfl, .none⟩

theorem exists_exponentSpelled (s : List Char) :
    ∃ e, s = e ++ (scanExponent s).2 ∧ ExponentSpelled (scanExponent s).1 e := by
  unfold scanExponent
  split
  next c s =>
    split
    next hletter =>
      obtain ⟨sign, hs, hsign⟩ := exists_signSpelled s
      refine ⟨c :: (sign ++ (scanSign s).2.takeWhile Char.isDigit), ?_,
        .some hletter hsign (digits_takeWhile _)⟩
      show c :: s = c :: (sign ++ (scanSign s).2.takeWhile Char.isDigit ++
          (scanSign s).2.dropWhile Char.isDigit)
      rw [List.append_assoc, List.takeWhile_append_dropWhile, ← hs]
    next => exact ⟨[], rfl, .none⟩
  next => exact ⟨[], rfl, .none⟩

/-- What is read from a digit on is a number. -/
theorem exists_unsigned (negative : Bool) {c : Char} (hc : c.isDigit = true) (s : List Char) :
    ∃ u, c :: s = u ++ (scan negative (c :: s)).2 ∧ (scan negative (c :: s)).1.Unsigned u := by
  obtain ⟨f, hf, hfraction⟩ := exists_fractionSpelled ((c :: s).dropWhile Char.isDigit)
  obtain ⟨e, he, hexponent⟩ :=
    exists_exponentSpelled (scanFraction ((c :: s).dropWhile Char.isDigit)).2
  refine ⟨(c :: s).takeWhile Char.isDigit ++ (f ++ e), ?_,
    .mk ?_ (digits_takeWhile _) hfraction hexponent⟩
  · show c :: s = _ ++ (scanExponent (scanFraction ((c :: s).dropWhile Char.isDigit)).2).2
    rw [List.append_assoc, List.append_assoc, ← he, ← hf, List.takeWhile_append_dropWhile]
  · show (c :: s).takeWhile Char.isDigit ≠ []
    rw [List.takeWhile_cons, if_pos hc]
    exact List.cons_ne_nil _ _

/-! ## what is written as a number is taken -/

/-- An exponent begins with its letter. -/
theorem head?_exponent (h : ExponentSpelled e exponent) :
    ∀ c, exponent.head? = some c → c.isDigit = false ∧ c ≠ '.' := by
  intro c hc
  cases h with
  | none => cases hc
  | some hletter _ _ =>
      cases hc
      obtain rfl | rfl := hletter <;> decide

/-- A fraction begins with its point. -/
theorem head?_fraction_append (h : FractionSpelled digits fraction)
    (hrest : ∀ c, rest.head? = some c → c.isDigit = false) :
    ∀ c, (fraction ++ rest).head? = some c → c.isDigit = false := by
  cases h with
  | none => exact hrest
  | point _ =>
      rintro c ⟨⟩
      rfl

theorem spanDigits_append (h : Digits digits)
    (hrest : ∀ c, rest.head? = some c → c.isDigit = false) :
    spanDigits (digits ++ rest) = (digits, rest) := by
  rw [spanDigits, takeWhile_append_of_head? h hrest, dropWhile_append_of_head? h hrest]

theorem scanFraction_append (h : FractionSpelled digits fraction)
    (hrest : ∀ c, rest.head? = some c → c.isDigit = false ∧ c ≠ '.') :
    scanFraction (fraction ++ rest) = (digits, rest) := by
  cases h with
  | none => exact scanFraction_of_head? fun hpoint => (hrest _ hpoint).2 rfl
  | point hdigits => exact spanDigits_append hdigits fun c hc => (hrest c hc).1

/-- The sign of an exponent is told from what follows, if anything follows or there is a sign. -/
theorem scanSign_append (hsign : SignSpelled negative sign) (hdigits : Digits digits)
    (h : sign ++ digits ≠ [] ∨ rest = []) :
    scanSign (sign ++ digits ++ rest) = (negative, digits ++ rest) := by
  cases hsign with
  | plus | minus => rfl
  | none =>
      cases digits with
      | nil =>
          obtain rfl := h.resolve_left fun hne => hne rfl
          rfl
      | cons d digits =>
          have hd : d.isDigit = true := hdigits d List.mem_cons_self
          refine scanSign_of_head? ?_ ?_ <;> rintro ⟨⟩ <;> cases hd

theorem scanExponent_spelled (h : ExponentSpelled e exponent) :
    scanExponent exponent = (e, []) := by
  cases h with
  | none => rfl
  | @some letter negative sign digits hletter hsign hdigits =>
      have hbody : scanSign (sign ++ digits ++ []) = (negative, digits ++ []) :=
        scanSign_append hsign hdigits (.inr rfl)
      have hspan : spanDigits (digits ++ []) = (digits, []) :=
        spanDigits_append hdigits fun c hc => by cases hc
      rw [List.append_nil, List.append_nil] at hbody
      rw [List.append_nil] at hspan
      simp only [scanExponent, if_pos hletter, scanExponentBody, hbody, hspan]

/-- A number that makes up the whole text is read as itself. -/
theorem scan_unsigned (h : n.Unsigned u) : scan n.negative u = (n, []) := by
  cases h with
  | mk _ hwhole hfraction hexponent =>
      have hhead := head?_exponent hexponent
      have hbehind := head?_fraction_append hfraction fun c hc => (hhead c hc).1
      simp only [scan, spanDigits_append hwhole hbehind, scanFraction_append hfraction hhead,
        scanExponent_spelled hexponent]

/-! ## no more can be taken -/

theorem spanDigits_append_suffix (h : Digits digits) (behind : List Char) :
    (spanDigits (digits ++ behind)).2 <:+ behind := by
  rw [spanDigits, List.dropWhile_append_of_pos h]
  exact List.dropWhile_suffix _

theorem scanFraction_append_suffix (h : FractionSpelled digits fraction) (behind : List Char) :
    (scanFraction (fraction ++ behind)).2 <:+ behind := by
  cases h with
  | none => exact scanFraction_suffix behind
  | point hdigits => exact spanDigits_append_suffix hdigits behind

theorem scanExponent_append_suffix (h : ExponentSpelled e exponent) (behind : List Char) :
    (scanExponent (exponent ++ behind)).2 <:+ behind := by
  cases h with
  | none => exact scanExponent_suffix behind
  | @some letter negative sign digits hletter hsign hdigits =>
      rw [List.cons_append, scanExponent, if_pos hletter]
      show (spanDigits (scanSign (sign ++ digits ++ behind)).2).2 <:+ behind
      by_cases hnone : sign ++ digits = []
      · rw [hnone]
        exact (spanDigits_suffix _).trans (scanSign_suffix behind)
      · rw [scanSign_append hsign hdigits (.inl hnone)]
        exact spanDigits_append_suffix hdigits behind

/-- Of a text that begins with a number, the reader takes at least this number. -/
theorem scan_append_suffix (h : n.Unsigned u) (negative : Bool) (behind : List Char) :
    (scan negative (u ++ behind)).2 <:+ behind := by
  cases h with
  | @mk fraction exponent _ hwhole hfraction hexponent =>
      show (scanExponent
        (scanFraction (spanDigits (n.whole ++ (fraction ++ exponent) ++ behind)).2).2).2 <:+
          behind
      rw [List.append_assoc, List.append_assoc]
      by_cases hnone : exponent = []
      · -- what stands behind the number may go on with its last digits
        subst hnone
        rw [List.nil_append]
        refine (scanExponent_suffix _).trans ?_
        generalize n.fraction = digits at hfraction
        cases hfraction with
        | none => exact (scanFraction_suffix _).trans (spanDigits_append_suffix hwhole behind)
        | point hdigits =>
            rw [spanDigits_append hwhole (by rintro c ⟨⟩; rfl)]
            exact scanFraction_append_suffix (.point hdigits) behind
      · have hhead : ∀ c, (exponent ++ behind).head? = some c → c.isDigit = false ∧ c ≠ '.' := by
          rw [List.head?_append_of_ne_nil _ hnone]
          exact head?_exponent hexponent
        rw [spanDigits_append hwhole (head?_fraction_append hfraction fun c hc => (hhead c hc).1),
          scanFraction_append hfraction hhead]
        exact scanExponent_append_suffix hexponent behind

/-! ## the longest number -/

/-- Behind its sign, a number begins with a digit. -/
theorem exists_digit (h : n.Unsigned u) : ∃ c s, u = c :: s ∧ c.isDigit = true := by
  obtain ⟨hne, hwhole, -, -⟩ := h
  obtain ⟨c, s, hc⟩ := List.exists_cons_of_ne_nil hne
  rw [hc] at hwhole ⊢
  exact ⟨c, _, rfl, hwhole c List.mem_cons_self⟩

/-- The sign of a number is the one that its text begins with. -/
theorem of_spelled_prefix {c : Char} (hc : c.isDigit = true) (ht : n.Spelled t)
    (hbegins : t <+: withSign negative (c :: s)) :
    ∃ u, n.Unsigned u ∧ t = withSign negative u ∧ u <+: c :: s := by
  obtain ⟨u, hu, rfl⟩ := ht
  obtain ⟨d, u', rfl, hd⟩ := exists_digit hu
  cases negative <;> cases hn : n.negative <;> rw [hn] at hbegins
  · exact ⟨_, hu, rfl, hbegins⟩
  · obtain ⟨rfl, -⟩ := List.cons_prefix_cons.1 hbegins
    cases hc
  · obtain ⟨rfl, -⟩ := List.cons_prefix_cons.1 hbegins
    cases hd
  · exact ⟨_, hu, rfl, (List.cons_prefix_cons.1 hbegins).2⟩

theorem Spelled.ne_nil (h : n.Spelled s) : s ≠ [] := by
  obtain ⟨u, hu, rfl⟩ := h
  obtain ⟨c, t, rfl, -⟩ := exists_digit hu
  cases n.negative <;> exact List.cons_ne_nil _ _

theorem withSign_append (negative : Bool) (s t : List Char) :
    withSign negative s ++ t = withSign negative (s ++ t) := by
  cases negative <;> rfl

theorem length_withSign_le_iff (negative : Bool) :
    (withSign negative s).length ≤ (withSign negative t).length ↔ s.length ≤ t.length := by
  cases negative <;> simp [withSign]

/-- What is read from a digit on is the longest number. -/
theorem longest_scan (negative : Bool) {c : Char} (hc : c.isDigit = true) (s : List Char) :
    ∃ t, s = t ++ (scan negative (c :: s)).2 ∧
      (scan negative (c :: s)).1.Spelled (withSign negative (c :: t)) ∧
      Longest (withSign negative (c :: t)) (scan negative (c :: s)).2 := by
  obtain ⟨u, hu, hunsigned⟩ := exists_unsigned negative hc s
  obtain ⟨d, t, rfl, -⟩ := exists_digit hunsigned
  obtain ⟨rfl, hs⟩ := List.cons.inj hu
  refine ⟨t, hs, ⟨_, hunsigned, rfl⟩, fun n w hw hbegins => ?_⟩
  rw [withSign_append, ← hu] at hbegins
  obtain ⟨v, hv, rfl, behind, hbehind⟩ := of_spelled_prefix hc hw hbegins
  have hsuffix := (scan_append_suffix hv negative behind).length_le
  have hlength := congrArg List.length (hbehind.trans hu)
  rw [hbehind] at hsuffix
  rw [length_withSign_le_iff]
  simp only [List.length_append] at hlength
  omega

/-- The longest number is what is read. -/
theorem scan_of_longest (h : n.Unsigned u) (hlongest : Longest (withSign n.negative u) behind) :
    scan n.negative (u ++ behind) = (n, behind) := by
  obtain ⟨c, s, rfl, hc⟩ := exists_digit h
  obtain ⟨v, hv, hunsigned⟩ := exists_unsigned n.negative hc (s ++ behind)
  rw [← List.cons_append] at hv hunsigned
  have hbegins : withSign n.negative v <+: withSign n.negative (c :: s) ++ behind := by
    rw [withSign_append, hv, ← withSign_append]
    exact List.prefix_append _ _
  have hle := (length_withSign_le_iff _).1 (hlongest _ _ ⟨v, hunsigned, rfl⟩ hbegins)
  have hsuffix := (scan_append_suffix h n.negative behind).length_le
  have hlength := congrArg List.length hv
  simp only [List.length_append] at hlength
  -- both are beginnings of one text, and neither is longer
  obtain ⟨rfl, hrest⟩ := List.append_inj hv (by omega)
  have hsame : scan n.negative (c :: s) = ((scan n.negative (c :: s ++ behind)).1, []) :=
    scan_unsigned hunsigned
  rw [scan_unsigned h] at hsame
  exact Prod.ext (Prod.mk.inj hsame).1.symm hrest.symm

end Phrasebook.NumberLiteral
