import Phrasebook.Proofs.Literals
import Phrasebook.Proofs.NumberText

/-!
# Phrasebook.Proofs.Lexemes

What a token is, told without the lexer.

`Lexeme kind s behind` says that a piece of text is a token of this kind where `behind` stands
behind it. Blanks, names and line comments go on as long as they can, a number is the longest one,
and a block comment or a literal ends where it is closed first.

1. What the lexer takes of a text is a lexeme (`lexeme_scan`), and every lexeme in front of a text
   is what the lexer takes of it (`scan_of_lexeme`).
2. So a text begins with one lexeme and no other (`Lexeme.unique`), and its tokens are the one way
   to cut it into lexemes (`tokenizes_iff`).
-/

namespace Phrasebook

open Text
open StringLiteral (IsQuote)

/-! ## where block comments end -/

/-- The text of a block comment: the first `*/` behind it is the one right behind it. -/
def CommentBody (body : List Char) : Prop :=
  ∀ before after, body ++ ['*', '/'] = before ++ '*' :: '/' :: after → after = []

/-- Nothing in the text ends a block comment. -/
def Endless (s : List Char) : Prop := ∀ before after, s ≠ before ++ '*' :: '/' :: after

section comments

variable {c : Char} {s body rest : List Char}

theorem commentBody_nil : CommentBody [] := by
  intro before after h
  have hlength := congrArg List.length h
  simp only [List.nil_append, List.length_append, List.length_cons, List.length_nil] at hlength
  exact List.eq_nil_of_length_eq_zero (by omega)

/-- One more character in front makes no end, unless it is the asterisk before a slash. -/
theorem commentBody_cons : CommentBody (c :: body) ↔
    CommentBody body ∧ ∀ rest, c = '*' → body ++ ['*', '/'] ≠ '/' :: rest := by
  constructor
  · refine fun h => ⟨fun before after hsplit => h (c :: before) after (congrArg (c :: ·) hsplit),
      ?_⟩
    rintro rest rfl hslash
    obtain rfl := h [] rest (congrArg ('*' :: ·) hslash)
    have hlength := congrArg List.length hslash
    simp at hlength
  · rintro ⟨hbody, hslash⟩ before after hsplit
    cases before with
    | nil =>
        obtain ⟨hc, hrest⟩ := List.cons.inj hsplit
        exact absurd hrest (hslash after hc)
    | cons d before => exact hbody before after (List.cons.inj hsplit).2

theorem splitAtCommentEnd_append (h : CommentBody body) (rest : List Char) :
    TokenKind.splitAtCommentEnd (body ++ '*' :: '/' :: rest) = some (body, rest) := by
  induction body with
  | nil => rfl
  | cons c body ih =>
      obtain ⟨hbody, hslash⟩ := commentBody_cons.1 h
      have hend (after : List Char) (hc : c = '*') : body ++ '*' :: '/' :: rest ≠ '/' :: after := by
        intro heq
        cases body with
        | nil => cases heq
        | cons d body =>
            obtain ⟨rfl, -⟩ := List.cons.inj heq
            exact hslash _ hc rfl
      rw [List.cons_append, TokenKind.splitAtCommentEnd, ih hbody]
      · rfl
      · exact hend

/-- A text is split at the first `*/`, or has none. -/
theorem splitAtCommentEnd_cases (s : List Char) :
    (∃ body rest, TokenKind.splitAtCommentEnd s = some (body, rest) ∧
      s = body ++ '*' :: '/' :: rest ∧
      CommentBody body) ∨
    TokenKind.splitAtCommentEnd s = none ∧ Endless s := by
  fun_induction TokenKind.splitAtCommentEnd s with
  | case1 rest => exact .inl ⟨[], rest, rfl, rfl, commentBody_nil⟩
  | case2 c s hne ih =>
      obtain ⟨body, rest, hsplit, rfl, hbody⟩ | ⟨hnone, hendless⟩ := ih
      · refine .inl ⟨c :: body, rest, by rw [hsplit]; rfl, rfl, commentBody_cons.2 ⟨hbody, ?_⟩⟩
        intro after hc hslash
        refine hne (after ++ rest) hc ?_
        calc body ++ '*' :: '/' :: rest = body ++ ['*', '/'] ++ rest := by simp
          _ = '/' :: after ++ rest := by rw [hslash]
      · refine .inr ⟨by rw [hnone]; rfl, fun before after hsplit => ?_⟩
        cases before with
        | nil =>
            obtain ⟨hc, hrest⟩ := List.cons.inj hsplit
            exact hne after hc hrest
        | cons d before => exact hendless before after (List.cons.inj hsplit).2
  | case3 => exact .inr ⟨rfl, fun before after h => by simp at h⟩

theorem splitAtCommentEnd_of_endless (h : Endless s) : TokenKind.splitAtCommentEnd s = none := by
  obtain ⟨body, rest, -, rfl, -⟩ | ⟨hnone, -⟩ := splitAtCommentEnd_cases s
  · exact absurd rfl (h body rest)
  · exact hnone

end comments

/-! ## lexemes -/

namespace TokenKind

/-- The tokens of one character. -/
def punctuation : List (Char × TokenKind) :=
  [('{', openBrace), ('}', closeBrace), ('[', openBracket), (']', closeBracket),
    (',', comma), (':', colon)]

/-- The names that are no property names where a value is expected. -/
def keywords : List (List Char × TokenKind) :=
  [(['t', 'r', 'u', 'e'], boolean true), (['f', 'a', 'l', 's', 'e'], boolean false),
    (['n', 'u', 'l', 'l'], null)]

end TokenKind

open TokenKind

/-- A bare name: a letter, `_` or `$`, and then letters, numerals, `_` and `$`. -/
def IsName (s : List Char) : Prop :=
  ∃ c rest, s = c :: rest ∧ isNameStart c = true ∧ ∀ d ∈ rest, isNamePart d = true

/-- The text does not begin with a character of this sort. -/
def EndsBefore (p : Char → Bool) (behind : List Char) : Prop :=
  ∀ c, behind.head? = some c → p c = false

/-- A character with which no token of another kind begins. -/
structure StartsNothing (c : Char) (behind : List Char) : Prop where
  punctuation : c ∉ punctuation.map Prod.fst
  quote : ¬ IsQuote c
  blank : isBlank c = false
  name : isNameStart c = false
  digit : c.isDigit = false
  slash : c = '/' → behind.head? ≠ some '/' ∧ behind.head? ≠ some '*'
  minus : c = '-' → EndsBefore Char.isDigit behind

/-- A piece of text is a token of a kind, where `behind` stands behind it. -/
inductive Lexeme : TokenKind → List Char → List Char → Prop where
  | punctuation {c : Char} {kind : TokenKind} {behind : List Char} :
      (c, kind) ∈ punctuation → Lexeme kind [c] behind
  /-- A run of blanks goes up to the next character that is none. -/
  | blank {s behind : List Char} :
      s ≠ [] → (∀ c ∈ s, isBlank c = true) → EndsBefore isBlank behind → Lexeme .blank s behind
  | keyword {s behind : List Char} {kind : TokenKind} :
      (s, kind) ∈ keywords → EndsBefore isNamePart behind → Lexeme kind s behind
  /-- A name that is no keyword goes up to the next character that is no part of a name. -/
  | identifier {s behind : List Char} :
      IsName s → (∀ kind, (s, kind) ∉ keywords) → EndsBefore isNamePart behind →
      Lexeme (.identifier (String.ofList s)) s behind
  /-- The longest number, if an exponent has a digit. -/
  | number {n : NumberLiteral} {value : Binary64} {s behind : List Char} :
      n.Spelled s → NumberLiteral.Longest s behind → n.Finished → n.value? = some value →
      Lexeme (.number value) s behind
  /-- The longest number, if it has an exponent without digits. -/
  | unfinishedNumber {n : NumberLiteral} {s behind : List Char} :
      n.Spelled s → NumberLiteral.Longest s behind → ¬ n.Finished → Lexeme .unknown s behind
  /-- A line comment goes up to the next line feed, or to the end of the text. -/
  | lineComment {body behind : List Char} :
      '\n' ∉ body → EndsBefore (· != '\n') behind →
      Lexeme (.comment (String.ofList (trim body))) ('/' :: '/' :: body) behind
  /-- A block comment ends with the first `*/` behind its opening. -/
  | blockComment {body behind : List Char} :
      CommentBody body →
      Lexeme (.comment (String.ofList (trim body))) ('/' :: '*' :: (body ++ ['*', '/'])) behind
  /-- Without one, it takes the rest of the text. -/
  | unterminatedComment {body : List Char} :
      Endless body → Lexeme .unterminatedComment ('/' :: '*' :: body) []
  /-- A literal ends with the next quote of its kind that is not escaped. -/
  | string {quote : Char} {value body behind : List Char} :
      IsQuote quote → StringLiteral.Body quote value body →
      Lexeme (.string (String.ofList value)) (quote :: (body ++ [quote])) behind
  /-- Without one, it takes the rest of the text, unless an escape sequence in it is faulty. -/
  | unterminatedString {quote : Char} {s : List Char} :
      IsQuote quote → StringLiteral.CutOff quote s → Lexeme .unterminatedString (quote :: s) []
  /-- A literal is given up in the first escape sequence that is faulty. -/
  | invalidEscape {quote : Char} {s sequence behind : List Char} :
      IsQuote quote → StringLiteral.scan quote (s ++ behind) = .invalid sequence behind →
      Lexeme (.invalidEscape (String.ofList sequence)) (quote :: s) behind
  /-- Any other character is a token by itself. -/
  | unknown {c : Char} {behind : List Char} : StartsNothing c behind → Lexeme .unknown [c] behind

/-! ## how lexemes begin -/

namespace Text.CodeSet

/-- The code points between the first two bounds, between the next two, and so on. -/
def codes : List Nat → List Nat
  | start :: stop :: rest => List.range' start (stop - start) ++ codes rest
  | _ => []

theorem mem_codes_of_covers {bounds : List Nat} {n : Nat} (heven : bounds.length % 2 = 0)
    (h : covers false bounds n = true) : n ∈ codes bounds := by
  fun_induction codes bounds with
  | case1 start stop rest ih =>
      rw [covers, covers] at h
      rw [List.mem_append, List.mem_range'_1]
      split at h
      · cases h
      · split at h
        · omega
        · exact .inr (ih (by simp only [List.length_cons] at heven; omega) h)
  | case2 bounds hne =>
      match bounds with
      | [] => cases h
      | [_] => cases heven
      | start :: stop :: rest => exact absurd rfl (hne start stop rest)

end Text.CodeSet

section begins

variable {c : Char} {kind : TokenKind} {s behind : List Char} {n : NumberLiteral}

/-- A text begins with a character of this sort, or does not. -/
theorem endsBefore_or (p : Char → Bool) (s : List Char) :
    EndsBefore p s ∨ ∃ c t, s = c :: t ∧ p c = true := by
  cases s with
  | nil => exact .inl fun _ h => by cases h
  | cons c t =>
      cases hc : p c with
      | true => exact .inr ⟨c, t, rfl, hc⟩
      | false =>
          refine .inl fun d hd => ?_
          cases hd
          exact hc

/-- Blanks go on with no name, no number and no escape sequence. -/
theorem breaks_of_isBlank (h : isBlank c = true) : breaks c = true := by
  have hall : ∀ n ∈ CodeSet.codes blanks.bounds, breaks (Char.ofNat n) = true := by decide +kernel
  have hc := hall c.toNat (CodeSet.mem_codes_of_covers rfl h)
  rwa [Char.ofNat_toNat] at hc

theorem isNamePart_of_isNameStart (h : isNameStart c = true) : isNamePart c = true := by
  simp only [isNameStart, isNamePart, isAlphanumeric, Bool.or_eq_true] at h ⊢
  tauto

/-- What no character that breaks off is, no blank is. -/
theorem not_isBlank {p : Char → Bool} (hp : breaks c = true → p c = false) (h : p c = true) :
    isBlank c = false := by
  cases hblank : isBlank c with
  | false => rfl
  | true =>
      rw [hp (breaks_of_isBlank hblank)] at h
      cases h

theorem not_isBlank_of_isNamePart (h : isNamePart c = true) : isBlank c = false :=
  not_isBlank not_isNamePart_of_breaks h

/-- A digit begins no name, and is no blank. -/
theorem of_isDigit (h : c.isDigit = true) : isNameStart c = false ∧ isBlank c = false := by
  have hall : ∀ n < 0x3A, (Char.ofNat n).isDigit = true →
      isNameStart (Char.ofNat n) = false := by decide
  have hlt : c.toNat < 0x3A := by
    simp only [Char.isDigit, Bool.and_eq_true, decide_eq_true_eq] at h
    exact Nat.lt_succ_of_le h.2
  have hc := hall c.toNat hlt
  rw [Char.ofNat_toNat] at hc
  exact ⟨hc h, not_isBlank not_isDigit_of_breaks h⟩

/-- The characters that begin a token by themselves. -/
def specials : List Char := ['{', '}', '[', ']', ',', ':', '/', '"', '\'', '-']

theorem scan_eq_scanWord (h : c ∉ specials) (s : List Char) : scan c s = scanWord c s := by
  unfold scan
  split
  iterate 10 exact absurd (by simp [specials]) h
  rfl

theorem not_mem_specials {p : Char → Bool} (hp : specials.any p = false) (h : p c = true) :
    c ∉ specials := by
  intro hc
  rw [List.any_eq_true.2 ⟨c, hc, h⟩] at hp
  cases hp

theorem scan_of_isBlank (h : isBlank c = true) (s : List Char) :
    scan c s = (.blank, s.dropWhile isBlank) := by
  rw [scan_eq_scanWord (not_mem_specials (by decide) h), scanWord, if_pos h]

theorem scan_of_isNameStart (h : isNameStart c = true) (s : List Char) :
    scan c s = (ofName (c :: s.takeWhile isNamePart), s.dropWhile isNamePart) := by
  have hblank : ¬ isBlank c = true := by
    simp [not_isBlank_of_isNamePart (isNamePart_of_isNameStart h)]
  rw [scan_eq_scanWord (not_mem_specials (by decide) h), scanWord, if_neg hblank, if_pos h]

theorem scan_of_isDigit (h : c.isDigit = true) (s : List Char) :
    scan c s = scanNumber false (c :: s) := by
  obtain ⟨hname, hblank⟩ := of_isDigit h
  rw [scan_eq_scanWord (not_mem_specials (by decide) h), scanWord, hblank, hname,
    if_neg Bool.false_ne_true, if_neg Bool.false_ne_true, if_pos h]

theorem scan_of_startsNothing (h : StartsNothing c s) : scan c s = (.unknown, s) := by
  by_cases hslash : c = '/'
  · subst hslash
    exact scanSlash_of_head? (h.slash rfl).1 (h.slash rfl).2
  by_cases hminus : c = '-'
  · subst hminus
    exact scanMinus_of_head? (h.minus rfl)
  have hspecial : c ∉ specials := by
    simp only [specials, List.mem_cons, List.not_mem_nil, or_false, not_or]
    have hpunctuation := h.punctuation
    simp only [punctuation, List.map_cons, List.map_nil, List.mem_cons,
      List.not_mem_nil, or_false, not_or] at hpunctuation
    obtain ⟨hopenBrace, hcloseBrace, hopenBracket, hcloseBracket, hcomma, hcolon⟩ := hpunctuation
    obtain ⟨hdouble, hsingle⟩ := not_or.1 h.quote
    exact ⟨hopenBrace, hcloseBrace, hopenBracket, hcloseBracket, hcomma, hcolon, hslash,
      hdouble, hsingle, hminus⟩
  rw [scan_eq_scanWord hspecial, scanWord, h.blank, h.name, h.digit]
  rfl

/-! ## names and numbers -/

theorem ofName_of_mem (h : (s, kind) ∈ keywords) : IsName s ∧ ofName s = kind := by
  simp only [keywords, List.mem_cons, Prod.mk.injEq, List.not_mem_nil, or_false] at h
  obtain ⟨rfl, rfl⟩ | ⟨rfl, rfl⟩ | ⟨rfl, rfl⟩ := h
  iterate 3 exact ⟨⟨_, _, rfl, by decide, List.all_eq_true.1 (by decide)⟩, rfl⟩

theorem ofName_of_not_mem (h : ∀ kind, (s, kind) ∉ keywords) :
    ofName s = .identifier (String.ofList s) := by
  unfold ofName
  split
  next htrue => exact absurd (by simp [htrue, keywords]) (h (.boolean true))
  split
  next hfalse => exact absurd (by simp [hfalse, keywords]) (h (.boolean false))
  split
  next hnull => exact absurd (by simp [hnull, keywords]) (h .null)
  rfl

/-- A name is a keyword or names a property. -/
theorem lexeme_name (h : IsName s) (hbehind : EndsBefore isNamePart behind) :
    Lexeme (ofName s) s behind := by
  by_cases hkeyword : ∃ kind, (s, kind) ∈ keywords
  · obtain ⟨kind, hmem⟩ := hkeyword
    rw [(ofName_of_mem hmem).2]
    exact .keyword hmem hbehind
  · have hnone : ∀ kind, (s, kind) ∉ keywords := fun kind hmem => hkeyword ⟨kind, hmem⟩
    rw [ofName_of_not_mem hnone]
    exact .identifier h hnone hbehind

/-- A name is taken whole. -/
theorem scan_name (h : IsName (c :: s)) (hbehind : EndsBefore isNamePart behind) :
    scan c (s ++ behind) = (ofName (c :: s), behind) := by
  obtain ⟨_, _, heq, hstart, hparts⟩ := h
  obtain ⟨rfl, rfl⟩ := List.cons.inj heq
  rw [scan_of_isNameStart hstart, takeWhile_append_of_head? hparts hbehind,
    dropWhile_append_of_head? hparts hbehind]

/-- A number is known by its value, unless its exponent has no digits. -/
theorem ofNumber_cases (n : NumberLiteral) :
    n.Finished ∧ (∃ value, n.value? = some value ∧ ofNumber n = .number value) ∨
    ¬ n.Finished ∧ ofNumber n = .unknown := by
  have hfinished := @NumberLiteral.isSome_value?_iff n
  unfold ofNumber
  cases hvalue : n.value? with
  | some value =>
      rw [hvalue] at hfinished
      exact .inl ⟨hfinished.1 rfl, value, rfl, rfl⟩
  | none =>
      rw [hvalue] at hfinished
      exact .inr ⟨fun hfinal => Bool.false_ne_true (hfinished.2 hfinal), rfl⟩

/-- The longest number is a token. -/
theorem lexeme_number (h : n.Spelled s) (hlongest : NumberLiteral.Longest s behind) :
    Lexeme (ofNumber n) s behind := by
  obtain ⟨hfinished, value, hvalue, hkind⟩ | ⟨hunfinished, hkind⟩ := ofNumber_cases n
  · rw [hkind]
    exact .number h hlongest hfinished hvalue
  · rw [hkind]
    exact .unfinishedNumber h hlongest hunfinished

theorem scanNumber_of_longest {u : List Char} (h : n.Unsigned u)
    (hlongest : NumberLiteral.Longest (NumberLiteral.withSign n.negative u) behind) :
    scanNumber n.negative (u ++ behind) = (ofNumber n, behind) := by
  rw [scanNumber, NumberLiteral.scan_of_longest h hlongest]

/-- The longest number is taken. -/
theorem scan_number (h : n.Spelled (c :: s)) (hlongest : NumberLiteral.Longest (c :: s) behind) :
    scan c (s ++ behind) = (ofNumber n, behind) := by
  obtain ⟨u, hu, hsigned⟩ := h
  rw [hsigned] at hlongest
  have hscan := scanNumber_of_longest hu hlongest
  obtain ⟨d, t, rfl, hd⟩ := NumberLiteral.exists_digit hu
  cases hnegative : n.negative with
  | false =>
      rw [hnegative] at hsigned hscan
      obtain ⟨rfl, rfl⟩ := List.cons.inj hsigned
      rw [scan_of_isDigit hd]
      exact hscan
  | true =>
      rw [hnegative] at hsigned hscan
      obtain ⟨rfl, rfl⟩ := List.cons.inj hsigned
      exact (scanMinus_cons hd (t ++ behind)).trans hscan

/-- What is read from a digit on, behind a sign or none, is the longest number. -/
theorem lexeme_scanNumber (negative : Bool) (hc : c.isDigit = true) (s : List Char) :
    ∃ t, s = t ++ (scanNumber negative (c :: s)).2 ∧
      Lexeme (scanNumber negative (c :: s)).1 (NumberLiteral.withSign negative (c :: t))
        (scanNumber negative (c :: s)).2 := by
  obtain ⟨t, hs, hspelled, hlongest⟩ := NumberLiteral.longest_scan negative hc s
  exact ⟨t, hs, lexeme_number hspelled hlongest⟩

end begins

/-! ## what the lexer takes is a lexeme -/

section sound

variable {c quote : Char}

/-- A text has a first line feed, or is one line. -/
theorem exists_line (s : List Char) :
    '\n' ∉ s.takeWhile (· != '\n') ∧ EndsBefore (· != '\n') (s.dropWhile (· != '\n')) := by
  have hall : ∀ c ∈ s.takeWhile (· != '\n'), (c != '\n') = true :=
    List.all_eq_true.1 List.all_takeWhile
  refine ⟨fun hmem => ?_, head?_dropWhile_not s⟩
  cases hall _ hmem

theorem lexeme_scanLineComment (s : List Char) :
    ∃ taken, s = taken ++ (scanLineComment s).2 ∧
      Lexeme (scanLineComment s).1 ('/' :: '/' :: taken) (scanLineComment s).2 := by
  obtain ⟨hline, hbehind⟩ := exists_line s
  exact ⟨s.takeWhile (· != '\n'), List.takeWhile_append_dropWhile.symm, .lineComment hline hbehind⟩

theorem lexeme_scanBlockComment (s : List Char) :
    ∃ taken, s = taken ++ (scanBlockComment s).2 ∧
      Lexeme (scanBlockComment s).1 ('/' :: '*' :: taken) (scanBlockComment s).2 := by
  rw [scanBlockComment]
  obtain ⟨body, rest, hsplit, rfl, hbody⟩ | ⟨hnone, hendless⟩ := splitAtCommentEnd_cases s
  · rw [hsplit]
    refine ⟨body ++ ['*', '/'], ?_, .blockComment hbody⟩
    rw [List.append_assoc]
    rfl
  · rw [hnone]
    exact ⟨s, (List.append_nil s).symm, .unterminatedComment hendless⟩

theorem lexeme_scanSlash (s : List Char) :
    ∃ taken, s = taken ++ (scanSlash s).2 ∧
      Lexeme (scanSlash s).1 ('/' :: taken) (scanSlash s).2 := by
  by_cases hslash : s.head? = some '/'
  · obtain ⟨s, rfl⟩ := List.head?_eq_some_iff.1 hslash
    obtain ⟨taken, hs, hlexeme⟩ := lexeme_scanLineComment s
    exact ⟨'/' :: taken, congrArg ('/' :: ·) hs, hlexeme⟩
  by_cases hstar : s.head? = some '*'
  · obtain ⟨s, rfl⟩ := List.head?_eq_some_iff.1 hstar
    obtain ⟨taken, hs, hlexeme⟩ := lexeme_scanBlockComment s
    exact ⟨'*' :: taken, congrArg ('*' :: ·) hs, hlexeme⟩
  rw [scanSlash_of_head? hslash hstar]
  exact ⟨[], rfl, .unknown
    { punctuation := by decide
      quote := by simp [IsQuote]
      blank := by decide
      name := by decide
      digit := rfl
      slash := fun _ => ⟨hslash, hstar⟩
      minus := fun h => absurd h (by decide) }⟩

theorem lexeme_scanMinus (s : List Char) :
    ∃ taken, s = taken ++ (scanMinus s).2 ∧
      Lexeme (scanMinus s).1 ('-' :: taken) (scanMinus s).2 := by
  obtain hdigit | ⟨c, s, rfl, hc⟩ := endsBefore_or Char.isDigit s
  · rw [scanMinus_of_head? hdigit]
    exact ⟨[], rfl, .unknown
      { punctuation := by decide
        quote := by simp [IsQuote]
        blank := by decide
        name := by decide
        digit := rfl
        slash := fun h => absurd h (by decide)
        minus := fun _ => hdigit }⟩
  · rw [scanMinus_cons hc]
    obtain ⟨t, hs, hlexeme⟩ := lexeme_scanNumber true hc s
    exact ⟨c :: t, congrArg (c :: ·) hs, hlexeme⟩

theorem lexeme_scanString (hquote : IsQuote quote) (s : List Char) :
    ∃ taken, s = taken ++ (scanString quote s).2 ∧
      Lexeme (scanString quote s).1 (quote :: taken) (scanString quote s).2 := by
  have hsuffix := StringLiteral.scan_suffix quote s
  have hjudges := StringLiteral.judges_scan quote s
  rw [scanString_eq]
  generalize hscan : StringLiteral.scan quote s = outcome at hsuffix hjudges ⊢
  cases hjudges with
  | @closed value body rest hbody =>
      exact ⟨body ++ [quote], by simp [StringLiteral.Scan.rest], .string hquote hbody⟩
  | unterminated hbody =>
      exact ⟨s, (List.append_nil s).symm, .unterminatedString hquote ⟨_, _, hbody, .inl rfl⟩⟩
  | backslash hbody =>
      exact ⟨_, (List.append_nil _).symm, .unterminatedString hquote ⟨_, _, hbody, .inr rfl⟩⟩
  | @invalid value body rest sequence after hbody hmalformed =>
      obtain ⟨taken, htaken⟩ := hsuffix
      rw [← htaken] at hscan
      exact ⟨taken, htaken.symm, .invalidEscape hquote hscan⟩

/-- What begins with a character that is none of the special ones. -/
theorem lexeme_scanWord (hspecial : c ∉ specials) (s : List Char) :
    ∃ taken, s = taken ++ (scanWord c s).2 ∧
      Lexeme (scanWord c s).1 (c :: taken) (scanWord c s).2 := by
  unfold scanWord
  split
  next hblank =>
    refine ⟨s.takeWhile isBlank, List.takeWhile_append_dropWhile.symm,
      .blank (List.cons_ne_nil _ _) ?_ (head?_dropWhile_not s)⟩
    exact List.forall_mem_cons.2 ⟨hblank, List.all_eq_true.1 List.all_takeWhile⟩
  next hblank =>
    split
    next hname =>
      have hparts : ∀ d ∈ s.takeWhile isNamePart, isNamePart d = true :=
        List.all_eq_true.1 List.all_takeWhile
      exact ⟨s.takeWhile isNamePart, List.takeWhile_append_dropWhile.symm,
        lexeme_name ⟨c, _, rfl, hname, hparts⟩ (head?_dropWhile_not s)⟩
    next hname =>
      split
      next hdigit => exact lexeme_scanNumber false hdigit s
      next hdigit =>
        have hmarks : ∀ p ∈ punctuation, p.1 ∈ specials := by decide
        have hpunctuation : c ∉ punctuation.map Prod.fst := by
          intro hc
          obtain ⟨p, hp, rfl⟩ := List.mem_map.1 hc
          exact hspecial (hmarks p hp)
        exact ⟨[], rfl, .unknown
          { punctuation := hpunctuation
            quote := by rintro (rfl | rfl) <;> exact hspecial (by decide)
            blank := by simpa using hblank
            name := by simpa using hname
            digit := by simpa using hdigit
            slash := fun hc => absurd (by rw [hc]; decide) hspecial
            minus := fun hc => absurd (by rw [hc]; decide) hspecial }⟩

/-- What the lexer takes of a text is a lexeme. -/
theorem lexeme_scan (c : Char) (s : List Char) :
    ∃ taken, s = taken ++ (scan c s).2 ∧ Lexeme (scan c s).1 (c :: taken) (scan c s).2 := by
  by_cases hspecial : c ∈ specials
  · simp only [specials, List.mem_cons, List.not_mem_nil, or_false] at hspecial
    obtain rfl | rfl | rfl | rfl | rfl | rfl | rfl | rfl | rfl | rfl := hspecial
    iterate 6 exact ⟨[], rfl, .punctuation (by simp [scan, punctuation])⟩
    · exact lexeme_scanSlash s
    · exact lexeme_scanString (.inl rfl) s
    · exact lexeme_scanString (.inr rfl) s
    · exact lexeme_scanMinus s
  · rw [scan_eq_scanWord hspecial]
    exact lexeme_scanWord hspecial s

theorem lexeme_of_scan {taken behind : List Char} {kind : TokenKind}
    (h : scan c (taken ++ behind) = (kind, behind)) : Lexeme kind (c :: taken) behind := by
  obtain ⟨taken', hs, hlexeme⟩ := lexeme_scan c (taken ++ behind)
  rw [h] at hs hlexeme
  rwa [List.append_cancel_right hs]

/-- A stretch that is one token is a lexeme. -/
theorem lexeme_of_lexes {offset : Nat} {s behind : List Char} {t : Token}
    (h : Lexes behind offset s [t]) : Lexeme t.kind s behind := by
  cases h with
  | cons hscan hrest =>
      cases hrest
      rw [List.append_nil]
      exact lexeme_of_scan hscan

/-- Every text begins with a lexeme. -/
theorem exists_lexeme (c : Char) (s : List Char) :
    ∃ taken kind behind, s = taken ++ behind ∧ Lexeme kind (c :: taken) behind := by
  obtain ⟨taken, hs, hlexeme⟩ := lexeme_scan c s
  exact ⟨taken, _, _, hs, hlexeme⟩

end sound

/-! ## every lexeme is what the lexer takes -/

section complete

variable {c : Char} {kind : TokenKind} {s behind : List Char}

theorem Lexeme.ne_nil (h : Lexeme kind s behind) : s ≠ [] := by
  cases h with
  | blank hne _ _ => exact hne
  | keyword hword _ =>
      obtain ⟨⟨_, _, rfl, -, -⟩, -⟩ := ofName_of_mem hword
      exact List.cons_ne_nil _ _
  | identifier hname _ _ =>
      obtain ⟨_, _, rfl, -, -⟩ := hname
      exact List.cons_ne_nil _ _
  | number hspelled _ _ _ => exact hspelled.ne_nil
  | unfinishedNumber hspelled _ _ => exact hspelled.ne_nil
  | _ => exact List.cons_ne_nil _ _

theorem scan_lineComment (hbody : '\n' ∉ s) (hbehind : EndsBefore (· != '\n') behind) :
    scanLineComment (s ++ behind) = (.comment (String.ofList (trim s)), behind) := by
  have hall : ∀ c ∈ s, (c != '\n') = true := by
    intro c hc
    rw [bne_iff_ne]
    rintro rfl
    exact hbody hc
  rw [scanLineComment, takeWhile_append_of_head? hall hbehind,
    dropWhile_append_of_head? hall hbehind]

theorem scan_blockComment (h : CommentBody s) :
    scanBlockComment (s ++ ['*', '/'] ++ behind) = (.comment (String.ofList (trim s)), behind) := by
  have hend : splitAtCommentEnd (s ++ ['*', '/'] ++ behind) = some (s, behind) := by
    rw [List.append_assoc]
    exact splitAtCommentEnd_append h behind
  rw [scanBlockComment, hend]

/-- A lexeme in front of a text is what the lexer takes of it. -/
theorem scan_of_lexeme (h : Lexeme kind (c :: s) behind) :
    scan c (s ++ behind) = (kind, behind) := by
  generalize hwhole : c :: s = whole at h
  cases h with
  | punctuation hc =>
      cases hwhole
      simp only [punctuation, List.mem_cons, Prod.mk.injEq, List.not_mem_nil, or_false] at hc
      obtain ⟨rfl, rfl⟩ | ⟨rfl, rfl⟩ | ⟨rfl, rfl⟩ | ⟨rfl, rfl⟩ | ⟨rfl, rfl⟩ | ⟨rfl, rfl⟩ := hc
      iterate 6 rfl
  | blank _ hblank hbehind =>
      subst hwhole
      obtain ⟨hc, hs⟩ := List.forall_mem_cons.1 hblank
      rw [scan_of_isBlank hc, dropWhile_append_of_head? hs hbehind]
  | keyword hword hbehind =>
      subst hwhole
      obtain ⟨hname, hkind⟩ := ofName_of_mem hword
      rw [scan_name hname hbehind, hkind]
  | identifier hname hword hbehind =>
      subst hwhole
      rw [scan_name hname hbehind, ofName_of_not_mem hword]
  | number hspelled hlongest _ hvalue =>
      subst hwhole
      rw [scan_number hspelled hlongest, ofNumber, hvalue]
  | @unfinishedNumber n _ _ hspelled hlongest hunfinished =>
      subst hwhole
      obtain ⟨hfinished, -⟩ | ⟨-, hkind⟩ := ofNumber_cases n
      · exact absurd hfinished hunfinished
      · rw [scan_number hspelled hlongest, hkind]
  | lineComment hbody hbehind =>
      cases hwhole
      exact scan_lineComment hbody hbehind
  | blockComment hbody =>
      cases hwhole
      exact scan_blockComment hbody
  | unterminatedComment hendless =>
      cases hwhole
      show scanBlockComment (_ ++ []) = _
      rw [List.append_nil, scanBlockComment, splitAtCommentEnd_of_endless hendless]
  | string hquote hbody =>
      cases hwhole
      rw [StringLiteral.scan_of_isQuote hquote, List.append_assoc, List.singleton_append,
        StringLiteral.scan_of_closed hquote.ne_backslash hbody]
      rfl
  | unterminatedString hquote hcutOff =>
      cases hwhole
      rw [StringLiteral.scan_of_isQuote hquote, List.append_nil,
        StringLiteral.scan_of_cutOff hquote.ne_backslash hcutOff]
      rfl
  | invalidEscape hquote hscan =>
      cases hwhole
      rw [StringLiteral.scan_of_isQuote hquote, hscan]
      rfl
  | unknown hc =>
      cases hwhole
      exact scan_of_startsNothing hc

/-- A text begins with one lexeme only. -/
theorem Lexeme.unique {kind' : TokenKind} {s' behind' : List Char} (h : Lexeme kind s behind)
    (h' : Lexeme kind' s' behind') (htext : s ++ behind = s' ++ behind') :
    kind = kind' ∧ s = s' ∧ behind = behind' := by
  obtain ⟨c, taken, rfl⟩ := List.exists_cons_of_ne_nil h.ne_nil
  obtain ⟨c', taken', rfl⟩ := List.exists_cons_of_ne_nil h'.ne_nil
  obtain ⟨rfl, hrest⟩ := List.cons.inj htext
  have hscan := scan_of_lexeme h
  have hrest : taken ++ behind = taken' ++ behind' := hrest
  rw [hrest, scan_of_lexeme h'] at hscan
  obtain ⟨rfl, rfl⟩ := Prod.mk.inj hscan
  exact ⟨rfl, congrArg (c :: ·) (List.append_cancel_right hrest), rfl⟩

end complete

/-! ## texts cut into lexemes -/

/-- From an offset on, a text is cut into lexemes, each of them a token. -/
inductive Tokenizes : Nat → List Char → List Token → Prop where
  | last {offset : Nat} : Tokenizes offset [] [⟨.endOfText, ⟨offset, 0⟩⟩]
  | token {offset : Nat} {kind : TokenKind} {s behind : List Char} {ts : List Token} :
      Lexeme kind s behind → Tokenizes (offset + byteSize s) behind ts →
      Tokenizes offset (s ++ behind) (⟨kind, ⟨offset, byteSize s⟩⟩ :: ts)

theorem tokenizes_tokens (p : Cursor) : Tokenizes p.offset p.rest p.tokens := by
  fun_induction Cursor.tokens p with
  | case1 p hp =>
      obtain ⟨offset, rest⟩ := p
      obtain rfl : rest = [] := hp
      exact .last
  | case2 p c s hp ih =>
      obtain ⟨offset, rest⟩ := p
      obtain rfl : rest = c :: s := hp
      obtain ⟨taken, kind, behind, rfl, hlexeme⟩ := exists_lexeme c s
      have hnext := @next_of_scan offset _ _ _ _ (scan_of_lexeme hlexeme)
      rw [List.cons_append] at hnext
      rw [hnext] at ih ⊢
      exact .token hlexeme ih

theorem Tokenizes.eq_tokens {offset : Nat} {s : List Char} {ts : List Token}
    (h : Tokenizes offset s ts) : ts = (Cursor.mk offset s).tokens := by
  induction h with
  | last => rw [tokens_nil]
  | @token offset kind s behind ts hlexeme _ ih =>
      obtain ⟨c, taken, rfl⟩ := List.exists_cons_of_ne_nil hlexeme.ne_nil
      rw [tokens_of_scan (scan_of_lexeme hlexeme), ← ih]

/-- The tokens of a text are the one way to cut it into lexemes. -/
theorem tokenizes_iff (text : String) (ts : List Token) :
    Tokenizes 0 text.toList ts ↔ ts = tokenize text := by
  constructor
  · exact Tokenizes.eq_tokens
  · rintro rfl
    exact tokenizes_tokens (Cursor.ofString text)

end Phrasebook
