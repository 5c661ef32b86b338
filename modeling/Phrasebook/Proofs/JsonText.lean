import Phrasebook.Json.Printer
import Phrasebook.Json.Reader
import Phrasebook.Proofs.Lookahead

/-!
# Phrasebook.Proofs.JsonText

What is printed as JSON is read back as it was.

1. `Json.tokens` lists the tokens of a value.  A printed value has just these tokens, whatever
   stands behind it (`WellSpelled.tokenizes`), if only a number in front of it comes to its end
   (`EndsNumber`).
2. From its tokens the reader makes the value again, in whatever containers it stands
   (`read_tokens`).

Any value may be printed, strings with any characters among them.  The one condition is on the
spelling of numbers (`Json.WellSpelled`), which a value keeps as it is; natural numbers meet it.
-/

namespace Phrasebook

open Text

/-! ## tokens of a value -/

mutual

/-- The tokens of a value. -/
def Json.tokens : Json → List JsonToken
  | .null => [.null]
  | .boolean b => [.boolean b]
  | .number literal => [.number literal]
  | .string text => [.string text]
  | .array [] => [.openBracket, .closeBracket]
  | .array (j :: rest) => .openBracket :: j.tokens ++ tokensOfElements rest ++ [.closeBracket]
  | .object [] => [.openBrace, .closeBrace]
  | .object (m :: rest) =>
    .openBrace :: .string m.1 :: .colon :: m.2.tokens ++ tokensOfMembers rest ++ [.closeBrace]

/-- The tokens of the elements of an array behind the first. -/
def tokensOfElements : List Json → List JsonToken
  | [] => []
  | j :: rest => .comma :: j.tokens ++ tokensOfElements rest

/-- The tokens of the members of an object behind the first. -/
def tokensOfMembers : List (Option String × Json) → List JsonToken
  | [] => []
  | m :: rest => .comma :: .string m.1 :: .colon :: m.2.tokens ++ tokensOfMembers rest

end

namespace JsonToken

/-! ## single tokens -/

theorem tokenize_of_blank {c : Char} (h : isBlank c = true) (s : List Char) :
    tokenize (c :: s) = tokenize s := by
  rw [tokenize, if_pos h]

theorem tokenize_of_scan {c : Char} {s after : List Char} {t : JsonToken}
    (hblank : isBlank c = false) (h : scan c s = some (t, after)) :
    tokenize (c :: s) = (tokenize after).map (t :: ·) := by
  rw [tokenize, if_neg (by simp [hblank])]
  split
  next heq =>
    rw [h] at heq
    cases heq
    rfl
  next heq => simp [h] at heq

@[simp] theorem tokenize_openBrace (s : List Char) :
    tokenize ('{' :: s) = (tokenize s).map (openBrace :: ·) := tokenize_of_scan rfl rfl

@[simp] theorem tokenize_closeBrace (s : List Char) :
    tokenize ('}' :: s) = (tokenize s).map (closeBrace :: ·) := tokenize_of_scan rfl rfl

@[simp] theorem tokenize_openBracket (s : List Char) :
    tokenize ('[' :: s) = (tokenize s).map (openBracket :: ·) := tokenize_of_scan rfl rfl

@[simp] theorem tokenize_closeBracket (s : List Char) :
    tokenize (']' :: s) = (tokenize s).map (closeBracket :: ·) := tokenize_of_scan rfl rfl

@[simp] theorem tokenize_comma (s : List Char) :
    tokenize (',' :: s) = (tokenize s).map (comma :: ·) := tokenize_of_scan rfl rfl

/-- The colon behind a name, with the space behind it. -/
@[simp] theorem tokenize_colon (s : List Char) :
    tokenize (':' :: ' ' :: s) = (tokenize s).map (colon :: ·) := by
  rw [tokenize_of_scan rfl rfl, tokenize_of_blank rfl]

/-- The start of a line has no tokens. -/
@[simp] theorem tokenize_newline (level : Nat) (s : List Char) :
    tokenize (Json.newline level ++ s) = tokenize s := by
  have hspaces : ∀ n, tokenize (List.replicate n ' ' ++ s) = tokenize s := by
    intro n
    induction n with
    | zero => rfl
    | succ n ih => rw [List.replicate_succ, List.cons_append, tokenize_of_blank rfl, ih]
  rw [Json.newline, List.cons_append, tokenize_of_blank rfl, hspaces]

/-! ## strings -/

/-- The control characters below the space are written with four digits that give them again. -/
theorem hexPadded_of_lt {n : Nat} (h : n < 0x20) :
    ∃ a b c d, hexPadded 4 n = [a, b, c, d] ∧ [a, b, c, d].all isHexDigit = true ∧
      hexValue [a, b, c, d] = n := by
  have hall : ∀ n < 0x20, (hexPadded 4 n).length = 4 ∧ (hexPadded 4 n).all isHexDigit = true ∧
      hexValue (hexPadded 4 n) = n := by decide
  obtain ⟨hlength, hdigits, hvalue⟩ := hall n h
  match hpadded : hexPadded 4 n with
  | [a, b, c, d] => exact ⟨a, b, c, d, rfl, hpadded ▸ hdigits, hpadded ▸ hvalue⟩
  | [] | [_] | [_, _] | [_, _, _] | _ :: _ :: _ :: _ :: _ :: _ => simp [hpadded] at hlength

theorem scanString_plain {c : Char} (hcontrol : ¬ c.toNat < 0x20) (hquote : c ≠ '"')
    (hbackslash : c ≠ '\\') (s : List Char) :
    scanString (c :: s) = (scanString s).map fun (units, after) => (c.toNat :: units, after) := by
  rw [scanString]
  · simp [hcontrol, hbackslash]
  · exact hquote
  · rintro a b x y rest rfl
    exact absurd rfl hbackslash
  · exact fun e rest heq => absurd heq hbackslash

/-- A character of a string is read back from what is written for it. -/
theorem scanString_escapedChar (c : Char) (s : List Char) :
    scanString (Json.escapedChar c ++ s) =
      (scanString s).map fun (units, after) => (c.toNat :: units, after) := by
  unfold Json.escapedChar
  split
  -- seven characters have a short escape
  iterate 7 rfl
  next hquote hbackslash _ _ _ _ _ =>
    by_cases hcontrol : c.toNat < 0x20
    · obtain ⟨a, b, x, y, hpadded, hdigits, hvalue⟩ := hexPadded_of_lt hcontrol
      rw [if_pos hcontrol, hpadded]
      simp only [List.cons_append, List.nil_append, scanString, hdigits, hvalue, if_true]
    · rw [if_neg hcontrol, List.singleton_append]
      exact scanString_plain hcontrol hquote hbackslash s

/-- All characters of a string are read back, up to the quote that closes it. -/
theorem scanString_flatMap (cs rest : List Char) :
    scanString (cs.flatMap Json.escapedChar ++ '"' :: rest) = some (cs.map Char.toNat, rest) := by
  induction cs with
  | nil => rfl
  | cons c cs ih =>
      rw [List.flatMap_cons, List.append_assoc, scanString_escapedChar, ih, List.map_cons]
      rfl

/-- Code points of characters stand for these characters. -/
theorem decodeUnits_map_toNat (cs : List Char) : decodeUnits (cs.map Char.toNat) = some cs := by
  induction cs with
  | nil => rfl
  | cons c cs ih =>
      obtain ⟨hhigh, hlow⟩ := not_isSurrogate_toNat c
      cases cs with
      | nil => simp [decodeUnits, hhigh, hlow, Char.ofNat_toNat]
      | cons d cs =>
          rw [List.map_cons] at ih
          simp [decodeUnits, hhigh, hlow, ih, Char.ofNat_toNat]

/-- A printed string is one token. -/
@[simp] theorem tokenize_writtenString (text : Option String) (rest : List Char) :
    tokenize (Json.writtenString text ++ rest) = (tokenize rest).map (string text :: ·) := by
  cases text with
  | none => exact tokenize_of_scan rfl rfl
  | some text =>
      have hscan : scan '"' (text.toList.flatMap Json.escapedChar ++ '"' :: rest) =
          some (string (some text), rest) := by
        simp [scan, scanString_flatMap, decodeUnits_map_toNat]
      simp only [Json.writtenString, List.cons_append, List.append_assoc, List.nil_append]
      exact tokenize_of_scan rfl hscan

/-! ## numbers -/

/-- A text that does not go on with a number. -/
def EndsNumber (rest : List Char) : Prop :=
  ∀ c, rest.head? = some c → c.isDigit = false ∧ c ≠ '.' ∧ c ≠ 'e' ∧ c ≠ 'E'

theorem endsNumber_nil : EndsNumber [] := by simp [EndsNumber]

theorem endsNumber_cons {c : Char} {rest : List Char} :
    EndsNumber (c :: rest) ↔ c.isDigit = false ∧ c ≠ '.' ∧ c ≠ 'e' ∧ c ≠ 'E' := by
  simp [EndsNumber]

@[simp] theorem endsNumber_newline (level : Nat) (rest : List Char) :
    EndsNumber (Json.newline level ++ rest) :=
  endsNumber_cons.2 (by decide)

/-- A spelling that is read as one number, if the number ends there. -/
def SpellsNumber (literal : String) : Prop :=
  ∀ rest, EndsNumber rest →
    tokenize (literal.toList ++ rest) = (tokenize rest).map (number literal :: ·)

section number

variable {c : Char} {cs rest : List Char}

theorem scanWhole_digits (hdigits : ∀ d ∈ c :: cs, d.isDigit = true) (hzero : c = '0' → cs = [])
    (hrest : EndsNumber rest) : scanWhole (c :: cs ++ rest) = some (c :: cs, rest) := by
  have htake : (c :: cs ++ rest).takeWhile Char.isDigit = c :: cs :=
    takeWhile_append_of_head? hdigits fun d hd => (hrest d hd).1
  unfold scanWhole
  rw [htake]
  by_cases hc : c = '0'
  · obtain rfl := hc
    obtain rfl := hzero rfl
    rfl
  · split
    next heq => cases heq
    next heq =>
      cases heq
      exact absurd rfl hc
    next heq =>
      cases heq
      exact absurd rfl hc
    next => simp

theorem scanFraction_of_endsNumber (h : EndsNumber rest) : scanFraction rest = some ([], rest) := by
  unfold scanFraction
  split
  next => exact absurd rfl (h _ rfl).2.1
  next => rfl

theorem scanExponent_of_endsNumber (h : EndsNumber rest) : scanExponent rest = some ([], rest) := by
  cases rest with
  | nil => rfl
  | cons d rest =>
      obtain ⟨-, -, hsmall, hcapital⟩ := h d rfl
      simp [scanExponent, hsmall, hcapital]

/-- Digits without a zero in front are a number. -/
theorem scanNumber_digits (hdigits : ∀ d ∈ c :: cs, d.isDigit = true) (hzero : c = '0' → cs = [])
    (hrest : EndsNumber rest) : scanNumber (c :: cs ++ rest) = some (c :: cs, rest) := by
  rw [scanNumber, scanWhole_digits hdigits hzero hrest]
  simp [scanFraction_of_endsNumber hrest, scanExponent_of_endsNumber hrest]

/-- A digit starts a number. -/
theorem scan_of_isDigit (h : c.isDigit = true) (s : List Char) :
    scan c s = (scanNumber (c :: s)).map fun (literal, after) =>
      (number (String.ofList literal), after) := by
  unfold scan
  split
  -- no other token starts with a digit
  iterate 11 exact absurd h (by decide)
  rfl

theorem not_isBlank_of_isDigit (h : c.isDigit = true) : isBlank c = false := by
  cases hblank : isBlank c with
  | false => rfl
  | true =>
      have hcases : ((c = ' ' ∨ c = '\t') ∨ c = '\n') ∨ c = '\r' := by simpa [isBlank] using hblank
      obtain ((rfl | rfl) | rfl) | rfl := hcases <;> exact absurd h (by decide)

/-- Only zero is written with a zero in front. -/
theorem eq_zero_of_toDigits {n : Nat} (h : Nat.toDigits 10 n = '0' :: cs) : n = 0 := by
  induction n using Nat.strongRecOn generalizing cs with
  | ind n ih =>
      by_cases hn : n < 10
      · have hall : ∀ n < 10, Nat.digitChar n = '0' → n = 0 := by decide
        rw [Nat.toDigits_of_lt_base hn] at h
        exact hall n hn (List.cons.inj h).1
      · have hfront : n / 10 < n := by omega
        rw [Nat.toDigits_of_base_le (by decide) (by omega)] at h
        obtain ⟨hnil, -⟩ | ⟨front, hdigits, -⟩ := List.append_eq_cons_iff.1 h
        · exact absurd hnil Nat.toDigits_ne_nil
        · have hzero := ih (n / 10) hfront hdigits
          omega

/-- A natural number in decimal digits is a number. -/
theorem spellsNumber_toString (n : Nat) : SpellsNumber (toString n) := by
  intro rest hrest
  have htext : toString n = String.ofList (Nat.toDigits 10 n) := Nat.repr_eq_ofList_toDigits
  have hdigits : ∀ d ∈ Nat.toDigits 10 n, d.isDigit = true := fun d hd =>
    Nat.isDigit_of_mem_toDigits (by decide) (by decide) hd
  match htoDigits : Nat.toDigits 10 n with
  | [] => exact absurd htoDigits Nat.toDigits_ne_nil
  | c :: cs =>
      rw [htoDigits] at htext hdigits
      have hzero : c = '0' → cs = [] := by
        rintro rfl
        rw [eq_zero_of_toDigits htoDigits] at htoDigits
        exact (List.cons.inj htoDigits).2.symm
      have hscan : scan c (cs ++ rest) = some (number (toString n), rest) := by
        rw [scan_of_isDigit (hdigits c List.mem_cons_self), ← List.cons_append,
          scanNumber_digits hdigits hzero hrest, htext]
        rfl
      rw [htext, String.toList_ofList, ← htext]
      exact tokenize_of_scan (not_isBlank_of_isDigit (hdigits c List.mem_cons_self)) hscan

end number

end JsonToken

/-! ## the text of a value -/

namespace Json

open JsonToken

/-- Numbers are spelled as strict JSON spells them; beside them, nothing in a value depends on
spelling. -/
inductive WellSpelled : Json → Prop
  | null : WellSpelled .null
  | boolean (value : Bool) : WellSpelled (.boolean value)
  | number {literal : String} (h : SpellsNumber literal) : WellSpelled (.number literal)
  | string (text : Option String) : WellSpelled (.string text)
  | array {elements : List Json} (h : ∀ j ∈ elements, WellSpelled j) : WellSpelled (.array elements)
  | object {members : List (Option String × Json)} (h : ∀ m ∈ members, WellSpelled m.2) :
      WellSpelled (.object members)

/-- What is printed for a value has its tokens, whatever stands behind it. -/
def Tokenizes (j : Json) : Prop :=
  ∀ level rest, EndsNumber rest →
    JsonToken.tokenize (written level j ++ rest) = (JsonToken.tokenize rest).map (j.tokens ++ ·)

section printed

variable {elements : List Json} {members : List (Option String × Json)}

theorem endsNumber_writtenElements (level : Nat) (elements : List Json) {rest : List Char}
    (hrest : EndsNumber rest) : EndsNumber (writtenElements level elements ++ rest) := by
  cases elements with
  | nil => exact hrest
  | cons j elements =>
      rw [writtenElements]
      exact endsNumber_cons.2 (by decide)

theorem endsNumber_writtenMembers (level : Nat) (members : List (Option String × Json))
    {rest : List Char} (hrest : EndsNumber rest) :
    EndsNumber (writtenMembers level members ++ rest) := by
  cases members with
  | nil => exact hrest
  | cons m members =>
      rw [writtenMembers]
      exact endsNumber_cons.2 (by decide)

theorem tokenize_writtenElements (h : ∀ j ∈ elements, j.Tokenizes) (level : Nat) {rest : List Char}
    (hrest : EndsNumber rest) :
    JsonToken.tokenize (writtenElements level elements ++ rest) =
      (JsonToken.tokenize rest).map (tokensOfElements elements ++ ·) := by
  induction elements with
  | nil => simp [writtenElements, tokensOfElements]
  | cons j elements ih =>
      obtain ⟨hj, helements⟩ := List.forall_mem_cons.1 h
      have hends := endsNumber_writtenElements level elements hrest
      simp only [writtenElements, tokensOfElements, List.cons_append, List.append_assoc,
        tokenize_comma, tokenize_newline, hj level _ hends, ih helements, Option.map_map]
      rfl

theorem tokenize_writtenMembers (h : ∀ m ∈ members, m.2.Tokenizes) (level : Nat) {rest : List Char}
    (hrest : EndsNumber rest) :
    JsonToken.tokenize (writtenMembers level members ++ rest) =
      (JsonToken.tokenize rest).map (tokensOfMembers members ++ ·) := by
  induction members with
  | nil => simp [writtenMembers, tokensOfMembers]
  | cons m members ih =>
      obtain ⟨hm, hmembers⟩ := List.forall_mem_cons.1 h
      have hends := endsNumber_writtenMembers level members hrest
      simp only [writtenMembers, tokensOfMembers, List.cons_append, List.append_assoc,
        List.nil_append, tokenize_comma, tokenize_newline, tokenize_writtenString,
        tokenize_colon, hm level _ hends, ih hmembers, Option.map_map]
      rfl

/-- A printed value has its tokens, whatever stands behind it. -/
theorem WellSpelled.tokenizes {j : Json} (h : j.WellSpelled) : j.Tokenizes := by
  induction h with
  | null => exact fun level rest _ => tokenize_of_scan rfl rfl
  | boolean value =>
      cases value with
      | true => exact fun level rest _ => tokenize_of_scan rfl rfl
      | false => exact fun level rest _ => tokenize_of_scan rfl rfl
  | number h => exact fun level rest hrest => h rest hrest
  | string text => exact fun level rest _ => tokenize_writtenString text rest
  | @array elements h ih =>
      intro level rest hrest
      cases elements with
      | nil => simp [written, tokens, Function.comp_def]
      | cons j elements =>
          obtain ⟨hj, helements⟩ := List.forall_mem_cons.1 ih
          have hclose : EndsNumber (newline level ++ ']' :: rest) := endsNumber_newline level _
          have hends := endsNumber_writtenElements (level + 1) elements hclose
          simp only [written, tokens, List.cons_append, List.append_assoc, List.nil_append,
            tokenize_openBracket, tokenize_newline, hj (level + 1) _ hends,
            tokenize_writtenElements helements (level + 1) hclose,
            tokenize_closeBracket, Option.map_map]
          rfl
  | @object members h ih =>
      intro level rest hrest
      cases members with
      | nil => simp [written, tokens, Function.comp_def]
      | cons m members =>
          obtain ⟨hm, hmembers⟩ := List.forall_mem_cons.1 ih
          have hclose : EndsNumber (newline level ++ '}' :: rest) := endsNumber_newline level _
          have hends := endsNumber_writtenMembers (level + 1) members hclose
          simp only [written, tokens, List.cons_append, List.append_assoc, List.nil_append,
            tokenize_openBrace, tokenize_newline, tokenize_writtenString, tokenize_colon,
            hm (level + 1) _ hends, tokenize_writtenMembers hmembers (level + 1) hclose,
            tokenize_closeBrace, Option.map_map]
          rfl

end printed

/-- The reader makes a value from its tokens, in whatever containers it stands and whatever is
behind it. -/
def Reads (j : Json) : Prop :=
  ∀ outer ts, (JsonPlace.value outer).read (j.tokens ++ ts) = (JsonPlace.afterValue j outer).read ts

end Json

/-! ## reading the tokens of a value -/

namespace JsonPlace

variable {elements : List Json} {members : List (Option String × Json)}

theorem read_cons (place : JsonPlace) (t : JsonToken) (ts : List JsonToken) :
    place.read (t :: ts) = (place.step t).bind (·.read ts) := by
  cases place <;> rfl

/-- A value may start right behind the bracket of an array. -/
theorem read_firstElement (j : Json) (outer : List JsonContainer) (ts : List JsonToken) :
    (firstElement outer).read (j.tokens ++ ts) =
      (value (.array [] :: outer)).read (j.tokens ++ ts) := by
  cases j with
  | array elements => cases elements <;> rfl
  | object members => cases members <;> rfl
  | _ => rfl

theorem read_tokensOfElements (h : ∀ j ∈ elements, j.Reads) (front : List Json)
    (outer : List JsonContainer) (ts : List JsonToken) :
    (elementEnd front outer).read (tokensOfElements elements ++ .closeBracket :: ts) =
      (afterValue (.array (front ++ elements)) outer).read ts := by
  induction elements generalizing front with
  | nil => simp [tokensOfElements, read_cons, step]
  | cons j elements ih =>
      obtain ⟨hj, helements⟩ := List.forall_mem_cons.1 h
      calc (elementEnd front outer).read (tokensOfElements (j :: elements) ++ .closeBracket :: ts)
          = (value (.array front :: outer)).read
              (j.tokens ++ (tokensOfElements elements ++ .closeBracket :: ts)) := by
            simp [tokensOfElements, read_cons, step]
        _ = (elementEnd (front ++ [j]) outer).read
          (tokensOfElements elements ++ .closeBracket :: ts) :=
            hj _ _
        _ = (afterValue (.array (front ++ j :: elements)) outer).read ts := by
            rw [ih helements, List.append_assoc, List.singleton_append]

theorem read_tokensOfMembers (h : ∀ m ∈ members, m.2.Reads) (front : List (Option String × Json))
    (outer : List JsonContainer) (ts : List JsonToken) :
    (memberEnd front outer).read (tokensOfMembers members ++ .closeBrace :: ts) =
      (afterValue (.object (front ++ members)) outer).read ts := by
  induction members generalizing front with
  | nil => simp [tokensOfMembers, read_cons, step]
  | cons m members ih =>
      obtain ⟨hm, hmembers⟩ := List.forall_mem_cons.1 h
      calc (memberEnd front outer).read (tokensOfMembers (m :: members) ++ .closeBrace :: ts)
          = (value (.object front m.1 :: outer)).read
              (m.2.tokens ++ (tokensOfMembers members ++ .closeBrace :: ts)) := by
            simp [tokensOfMembers, read_cons, step]
        _ = (memberEnd (front ++ [m]) outer).read (tokensOfMembers members ++ .closeBrace :: ts) :=
          hm _ _
        _ = (afterValue (.object (front ++ m :: members)) outer).read ts := by
            rw [ih hmembers, List.append_assoc, List.singleton_append]

/-- The reader makes every value from its tokens. -/
theorem read_tokens (j : Json) : j.Reads := by
  induction j using Json.inductionOn with
  | array elements ih =>
      intro outer ts
      cases elements with
      | nil => simp [Json.tokens, read_cons, step, stepValue]
      | cons j elements =>
          obtain ⟨hj, helements⟩ := List.forall_mem_cons.1 ih
          calc (value outer).read ((Json.array (j :: elements)).tokens ++ ts)
              = (firstElement outer).read
                  (j.tokens ++ (tokensOfElements elements ++ .closeBracket :: ts)) := by
                simp [Json.tokens, read_cons, step, stepValue]
            _ = (elementEnd [j] outer).read (tokensOfElements elements ++ .closeBracket :: ts) := by
                rw [read_firstElement, hj]
                rfl
            _ = (afterValue (.array (j :: elements)) outer).read ts :=
                read_tokensOfElements helements [j] outer ts
  | object members ih =>
      intro outer ts
      cases members with
      | nil => simp [Json.tokens, read_cons, step, stepValue]
      | cons m members =>
          obtain ⟨hm, hmembers⟩ := List.forall_mem_cons.1 ih
          calc (value outer).read ((Json.object (m :: members)).tokens ++ ts)
              = (value (.object [] m.1 :: outer)).read
                  (m.2.tokens ++ (tokensOfMembers members ++ .closeBrace :: ts)) := by
                simp [Json.tokens, read_cons, step, stepValue]
            _ = (memberEnd [m] outer).read (tokensOfMembers members ++ .closeBrace :: ts) := by
                rw [hm]
                rfl
            _ = (afterValue (.object (m :: members)) outer).read ts :=
                read_tokensOfMembers hmembers [m] outer ts
  | _ =>
      intro outer ts
      simp [Json.tokens, read_cons, step, stepValue]

end JsonPlace

/-- **What is printed is read back**: the text of a value whose numbers are well spelled gives the
value again. -/
theorem Json.ofText?_pretty {j : Json} (h : j.WellSpelled) : Json.ofText? j.pretty = some j := by
  have htokens : JsonToken.tokenize (written 0 j) = some j.tokens := by
    have hall := h.tokenizes 0 [] JsonToken.endsNumber_nil
    simpa [JsonToken.tokenize] using hall
  have hread : (JsonPlace.value []).read j.tokens = some j := by
    have hall := JsonPlace.read_tokens j [] []
    rw [List.append_nil] at hall
    exact hall
  rw [Json.ofText?, Json.pretty, String.toList_ofList, htokens]
  exact hread

end Phrasebook
