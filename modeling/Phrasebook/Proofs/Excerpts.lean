import Phrasebook.Proofs.Layout
import Phrasebook.Proofs.Stretches

/-!
# Phrasebook.Proofs.Excerpts

Excerpts of a document, read alone.

The span of a node cuts exactly the text of the node out of its document (`excerpts_read_alone`).

1. The parts of a node stand strictly inside it, one behind the other (`Span.Encloses`).
2. What the span of a token cuts out is this token (`tokens_read_alone`), and so what the span of a
   name cuts out is one token.
3. What the span of a value cuts out can be read again, as a document or as the value of a member,
   and is the same value at another place.

A token looks one character ahead, so the text behind an excerpt could change its last token.  It
does not, since a value or a name never ends in a token that goes on over the end of the text or
over a closing brace.
-/

namespace Phrasebook

open Text Grammar

/-! ## pieces of a text -/

/-- The piece of a text that a span cuts out. -/
def Span.cut (s : Span) (text : String) : String :=
  String.ofList (takeBytes s.length (dropBytes s.offset text.toList))

theorem cut_eq {text : String} {before piece behind : List Char}
    (h : text.toList = before ++ piece ++ behind) :
    (Span.mk (byteSize before) (byteSize piece)).cut text = String.ofList piece := by
  rw [Span.cut, h, List.append_assoc, dropBytes_byteSize, takeBytes_byteSize]

/-! ## parts inside a node -/

/-- The spans of the parts of a node: of each member its name and its value, or of each element. -/
def Node.parts : Node → List Span
  | .object _ members => members.flatMap fun m => [m.nameSpan, m.value.span]
  | .array _ elements => elements.map (·.span)
  | _ => []

/-- Spans that stand strictly inside another, none of them empty, one behind the other. -/
structure Span.Encloses (outer : Span) (parts : List Span) : Prop where
  offset_lt_stop : ∀ s ∈ parts, s.offset < s.stop
  inside : ∀ s ∈ parts, outer.offset < s.offset ∧ s.stop < outer.stop
  ordered : parts.Pairwise (·.stop ≤ ·.offset)

namespace Span

variable {outer s : Span} {ms : List Property} {ns : List Node}

theorem offset_lt_stop_of_length_pos (h : 0 < s.length) : s.offset < s.stop :=
  Nat.lt_add_of_pos_right h

theorem encloses_nil (outer : Span) : outer.Encloses [] :=
  ⟨fun _ h => absurd h List.not_mem_nil, fun _ h => absurd h List.not_mem_nil, .nil⟩

/-- What holds for the name and for the value of each member holds for all their spans. -/
theorem forall_mem_spans {P : Span → Prop} (h : ∀ m ∈ ms, P m.nameSpan ∧ P m.value.span) :
    ∀ s ∈ ms.flatMap fun m => [m.nameSpan, m.value.span], P s := by
  intro s hs
  obtain ⟨m, hm, hs⟩ := List.mem_flatMap.1 hs
  obtain ⟨hname, hvalue⟩ := h m hm
  exact List.forall_mem_cons.2 ⟨hname, List.forall_mem_singleton.2 hvalue⟩ s hs

theorem encloses_members {source : List Char} (hms : ∀ m ∈ ms, m.LaidOut source outer)
    (hpos : ∀ m ∈ ms, 0 < m.value.span.length)
    (hordered : ms.Pairwise (·.value.span.stop ≤ ·.nameSpan.offset)) :
    outer.Encloses (ms.flatMap fun m => [m.nameSpan, m.value.span]) := by
  have hname (m) (hm : m ∈ ms) := offset_lt_stop_of_length_pos (hms m hm).name_length_pos
  have hvalue (m) (hm : m ∈ ms) := offset_lt_stop_of_length_pos (hpos m hm)
  refine ⟨forall_mem_spans fun m hm => ⟨hname m hm, hvalue m hm⟩,
    forall_mem_spans fun m hm => ?_, ?_⟩
  · have hfirst := (hms m hm).offset_lt
    have hmiddle := (hms m hm).name_stop_le
    have hlast := (hms m hm).stop_lt
    have hname := hname m hm
    have hvalue := hvalue m hm
    omega
  · refine List.pairwise_flatMap.2 ⟨fun m hm => List.pairwise_pair.2 (hms m hm).name_stop_le, ?_⟩
    refine hordered.imp_of_mem fun {m m'} hm hm' hle => ?_
    have hfront := (hms m hm).name_stop_le
    have hbehind := (hms m' hm').name_stop_le
    have hvalue := hvalue m hm
    have hname := hname m' hm'
    simp only [List.forall_mem_cons, List.not_mem_nil, false_imp_iff, implies_true, and_true]
    omega

theorem encloses_elements (hpos : ∀ e ∈ ns, 0 < e.span.length)
    (hinside : ∀ e ∈ ns, outer.offset < e.span.offset ∧ e.span.stop < outer.stop)
    (hordered : ns.Pairwise (·.span.stop ≤ ·.span.offset)) : outer.Encloses (ns.map (·.span)) where
  offset_lt_stop := List.forall_mem_map.2 fun e he => offset_lt_stop_of_length_pos (hpos e he)
  inside := List.forall_mem_map.2 hinside
  ordered := List.pairwise_map.2 hordered

end Span

/-- Every node of a document encloses its parts. -/
theorem encloses_parts {text : String} {root n : Node} (h : readDocument text = .ok root)
    (hn : root.Contains n) : n.span.Encloses n.parts := by
  have hlaid := laidOut_of_contains h hn
  cases n with
  | object span ms =>
      obtain ⟨hms, hordered⟩ := hlaid.members ms rfl
      have hpos (m) (hm : m ∈ ms) :=
        (laidOut_of_contains h (hn.trans (.member hm (.self _)))).length_pos
      exact Span.encloses_members hms hpos hordered
  | array span ns =>
      obtain ⟨hns, hordered⟩ := hlaid.elements ns rfl
      have hpos (e) (he : e ∈ ns) :=
        (laidOut_of_contains h (hn.trans (.element he (.self _)))).length_pos
      exact Span.encloses_elements hpos hns hordered
  | _ => exact Span.encloses_nil _

/-! ## heights of what a node contains -/

section height

variable {root n : Node} {m : Property} {ms : List Property} {ns : List Node}

theorem height_le_heightOfMembers (hm : m ∈ ms) : m.value.height ≤ heightOfMembers ms := by
  induction ms with
  | nil => cases hm
  | cons head rest ih =>
      rw [heightOfMembers]
      obtain rfl | hm := List.mem_cons.1 hm
      · exact Nat.le_max_left _ _
      · exact Nat.le_trans (ih hm) (Nat.le_max_right _ _)

theorem height_le_heightOfElements (hn : n ∈ ns) : n.height ≤ heightOfElements ns := by
  induction ns with
  | nil => cases hn
  | cons head rest ih =>
      rw [heightOfElements]
      obtain rfl | hn := List.mem_cons.1 hn
      · exact Nat.le_max_left _ _
      · exact Nat.le_trans (ih hn) (Nat.le_max_right _ _)

theorem height_value_lt (span : Span) (hm : m ∈ ms) :
    m.value.height < (Node.object span ms).height :=
  Nat.lt_succ_of_le (height_le_heightOfMembers hm)

theorem height_element_lt (span : Span) (hn : n ∈ ns) : n.height < (Node.array span ns).height :=
  Nat.lt_succ_of_le (height_le_heightOfElements hn)

theorem height_le_of_contains (h : root.Contains n) : n.height ≤ root.height := by
  induction h with
  | self => exact Nat.le_refl _
  | @member span _ _ _ hm _ ih => exact Nat.le_trans ih (Nat.le_of_lt (height_value_lt span hm))
  | @element span _ _ _ he _ ih => exact Nat.le_trans ih (Nat.le_of_lt (height_element_lt span he))

/-- What stands inside a node is lower than the node. -/
theorem height_lt_of_contains (h : root.Contains n) (hne : n ≠ root) : n.height < root.height := by
  cases h with
  | self => exact absurd rfl hne
  | member hm hn => exact Nat.lt_of_le_of_lt (height_le_of_contains hn) (height_value_lt _ hm)
  | element he hn => exact Nat.lt_of_le_of_lt (height_le_of_contains hn) (height_element_lt _ he)

end height

/-! ## values in a text -/

section value

variable {ts : List Token} {span : Span} {ms : List Property} {n : Node}

/-- A token that a value or a name can end in: only a character that goes on with it does not stop
it. -/
structure Token.Closes (t : Token) : Prop where
  stops : t.kind.stops = breaks
  ne_endOfText : t.kind ≠ .endOfText

theorem Token.closes_of_kind {t : Token} {kind : TokenKind} (ht : t.kind = kind)
    (hstops : kind.stops = breaks) (hne : kind ≠ .endOfText) : t.Closes := by
  subst ht
  exact ⟨hstops, hne⟩

theorem Token.Closes.follows {t : Token} {rest rest' : List Char} (h : t.Closes)
    (hrest : ∀ c, rest'.head? = some c → breaks c = true) : Follows t.kind rest rest' := by
  intro c hc
  rw [h.stops]
  exact .inr (hrest c hc)

theorem kind_of_names {t : Token} {name : String} (h : Names t name) :
    t.kind = .string name ∨ t.kind = .identifier name := by
  cases h with
  | string ht => exact .inl ht
  | identifier ht => exact .inr ht

theorem closes_of_names {t : Token} {name : String} (h : Names t name) : t.Closes := by
  cases h with
  | string ht | identifier ht => exact Token.closes_of_kind ht rfl TokenKind.noConfusion

/-- A value runs from its first token to its last one, which closes it. -/
theorem ends_of_derives (h : Derives .value ts n) :
    ∃ first last, ts.head? = some first ∧ ts.getLast? = some last ∧ last.Closes ∧
      n.span = .between first.span.offset last.span.stop := by
  cases h with
  | objectValue h =>
      cases h with
      | @object o c us ms _ _ hc =>
          exact ⟨o, c, rfl, List.getLast?_concat,
            Token.closes_of_kind hc rfl TokenKind.noConfusion, rfl⟩
  | arrayValue h =>
      cases h with
      | @array o c us ns _ _ hc =>
          exact ⟨o, c, rfl, List.getLast?_concat,
            Token.closes_of_kind hc rfl TokenKind.noConfusion, rfl⟩
  | @string t _ ht | @number t _ ht | @boolean t _ ht | @null t ht =>
      refine ⟨t, t, rfl, rfl, Token.closes_of_kind ht rfl TokenKind.noConfusion, ?_⟩
      show t.span = .between t.span.offset t.span.stop
      rw [Span.between, Span.stop, Nat.add_sub_cancel_left]

/-- A value that is an object is derived as an object. -/
theorem derives_object (h : Derives .value ts n) (hn : n.isObject = true) :
    Derives .object ts n := by
  cases h with
  | objectValue h => exact h
  | arrayValue h =>
      cases h with
      | array => cases hn
  | string | number | boolean | null => cases hn

/-- From an offset on, a stretch of text before `behind` stands for a value. -/
def StandsFor (behind : List Char) (offset : Nat) (stretch : List Char) (n : Node) : Prop :=
  ∃ ts, Lexes behind offset stretch ts ∧ Derives .value (ts.filter (!·.isTrivia)) n

/-- What the span of a value cuts out stands for the value, before anything that breaks off. -/
theorem exists_standsFor {text : String} {root : Node} (h : readDocument text = .ok root)
    (hn : root.Contains n) :
    ∃ before stretch behind, text.toList = before ++ stretch ++ behind ∧
      n.span = ⟨byteSize before, byteSize stretch⟩ ∧
      ∀ behind', (∀ c, behind'.head? = some c → breaks c = true) →
        StandsFor behind' (byteSize before) stretch n := by
  obtain ⟨us, hwithin, hderives⟩ := elementIn_of_readDocument h hn
  obtain ⟨first, last, hfirst, hlast, hcloses, hspan⟩ := ends_of_derives hderives
  obtain ⟨before, stretch, behind, ts, htext, hlexes, rfl, hhead, hgetLast⟩ :=
    exists_lexes_of_infix hwithin hlast hcloses.ne_endOfText
  refine ⟨before, stretch, behind, htext, ?_,
    fun behind' hbehind => ⟨ts, hlexes.before ?_, hderives⟩⟩
  · rw [hspan, hlexes.offset_head? (hhead.trans hfirst),
      hlexes.stop_getLast? (hgetLast.trans hlast), Span.between, Nat.add_sub_cancel_left]
  · intro t ht
    rw [hgetLast, hlast] at ht
    obtain rfl := Option.some.inj ht
    exact hcloses.follows hbehind

theorem agreeBetween_shift (bytes bytes' : Nat) :
    AgreeBetween (·.shift bytes) (·.shift bytes') := by
  intro o c o' c' _ _ ho hc
  simp only [Span.shift, Span.mk.injEq, Span.between, Span.stop] at ho hc ⊢
  omega

/-- A stretch of text stands for the same value at every offset. -/
theorem StandsFor.relocated {behind stretch : List Char} {offset : Nat}
    (h : StandsFor behind offset stretch n) (offset' : Nat) :
    ∃ n', StandsFor behind offset' stretch n' ∧ n'.shift offset = n.shift offset' := by
  obtain ⟨ts, hlexes, hderives⟩ := h
  obtain ⟨ts', hlexes', hrel⟩ := hlexes.relocated (Nat.add_comm offset offset')
  have hfilter := List.rel_filter (p := (!·.isTrivia)) (q := (!·.isTrivia))
    (fun t t' ht => by simp [Token.isTrivia, ht.kind]) hrel
  obtain ⟨n', hderives', heq⟩ :=
    exists_derives_of_relocated (agreeBetween_shift offset' offset) hderives hfilter
  exact ⟨n', ⟨ts', hlexes', hderives'⟩, heq.symm⟩

/-- What the span of a value cuts out stands for the value at every offset, before anything that
breaks off. -/
theorem exists_excerpt {text : String} {root : Node} (h : readDocument text = .ok root)
    (hn : root.Contains n) (offset : Nat) {behind : List Char}
    (hbehind : ∀ c, behind.head? = some c → breaks c = true) :
    ∃ stretch n', n.span.cut text = String.ofList stretch ∧ n.span.length = byteSize stretch ∧
      StandsFor behind offset stretch n' ∧ n'.shift n.span.offset = n.shift offset := by
  obtain ⟨before, stretch, behind', htext, hspan, hstands⟩ := exists_standsFor h hn
  obtain ⟨n', hn', heq⟩ := (hstands behind hbehind).relocated offset
  rw [hspan]
  exact ⟨stretch, n', cut_eq htext, rfl, hn', heq⟩

end value

/-! ## tokens in a text -/

section token

variable {text : String} {t : Token} {root : Node} {span : Span} {ms : List Property} {m : Property}

/-- What the span of a token cuts out is this token, and nothing else: no text is what every token
may precede. -/
theorem tokenize_cut_of_mem (ht : t ∈ tokenize text) (hkind : t.kind ≠ .endOfText) :
    tokenize (t.span.cut text) =
      [⟨t.kind, ⟨0, t.span.length⟩⟩, ⟨.endOfText, ⟨t.span.length, 0⟩⟩] := by
  obtain ⟨before, stretch, behind, htext, hlexes⟩ := exists_lexes_of_mem ht hkind
  have hend : Lexes [] (byteSize before) stretch [t] :=
    hlexes.before fun t _ => Follows.nil t.kind behind
  obtain ⟨ts, hlexes', hrel⟩ := hend.relocated (Nat.add_comm (byteSize before) 0)
  obtain ⟨t', rfl, ht'⟩ := of_forall₂_singleton hrel
  rw [hlexes.span_eq, cut_eq htext, hlexes'.tokenize_eq, ht'.kind, ← hlexes'.span_eq]
  rfl

/-- **Every token depends on its own text alone**: it stands between characters of the text, and
what its span cuts out is read as the same token at the start, and the end of the text.  So it is
with the tokens that name a fault, too. -/
theorem tokens_read_alone (ht : t ∈ tokenize text) (hkind : t.kind ≠ .endOfText) :
    t.span.Marks text.toList ∧
      tokenize (t.span.cut text) =
        [⟨t.kind, ⟨0, t.span.length⟩⟩, ⟨.endOfText, ⟨t.span.length, 0⟩⟩] :=
  ⟨(inOrder_tokenize text).marks t ht, tokenize_cut_of_mem ht hkind⟩

/-- A text whose first token stops in the middle of a literal, before a character that makes no low
surrogate. -/
def brokenPairText : String := "'é\\uD83D\\uZ' 1e+"

theorem tokens_read_alone_brokenPairText :
    let t : Token := ⟨.invalidEscape "\\u", ⟨0, 11⟩⟩
    t ∈ tokenize brokenPairText ∧ t.kind ≠ .endOfText ∧ t.span.cut brokenPairText = "'é\\uD83D\\u" ∧
      tokenize (t.span.cut brokenPairText) = [t, ⟨.endOfText, ⟨11, 0⟩⟩] := by
  intro t
  have ht : t ∈ tokenize brokenPairText := by decide +kernel
  have hkind : t.kind ≠ .endOfText := TokenKind.noConfusion
  exact ⟨ht, hkind, by decide, (tokens_read_alone ht hkind).2⟩

/-- What the span of a name cuts out is a token that names, and nothing else. -/
theorem tokenize_cut_nameSpan (h : readDocument text = .ok root)
    (hobject : root.Contains (.object span ms)) (hm : m ∈ ms) :
    ∃ kind, (kind = .string m.name ∨ kind = .identifier m.name) ∧
      tokenize (m.nameSpan.cut text) =
        [⟨kind, ⟨0, m.nameSpan.length⟩⟩, ⟨.endOfText, ⟨m.nameSpan.length, 0⟩⟩] := by
  obtain ⟨us, hwithin, hderives⟩ := elementIn_of_readDocument h hobject
  obtain ⟨o, vs, c, rfl, -, -, -, hbody⟩ := of_derives_object hderives
  obtain ⟨k, d, ws, hmember, hnames, hspan, -⟩ := (membersIn_of_derives hbody).derived m hm
  have hk : k ∈ tokenize text :=
    List.mem_of_mem_filter (hwithin.subset ((infix_between o c vs).subset
      (hmember.subset List.mem_cons_self)))
  rw [hspan]
  exact ⟨k.kind, kind_of_names hnames, tokenize_cut_of_mem hk (closes_of_names hnames).ne_endOfText⟩

end token

/-! ## excerpts as documents -/

section document

variable {text : String} {root v : Node} {stretch : List Char}

/-- A stretch of text is a document if it stands for an object that does not nest too deep. -/
theorem readDocument_of_standsFor (h : StandsFor [] 0 stretch root) (hobject : root.isObject = true)
    (hheight : root.height ≤ maxDepth) : readDocument (String.ofList stretch) = .ok root := by
  obtain ⟨ts, hlexes, hderives⟩ := h
  refine (readDocument_eq_ok_iff _ _).2 ⟨?_, hheight⟩
  rw [hlexes.significantTokens_eq]
  exact .document (derives_object hderives hobject) rfl

theorem isObject_of_readDocument (h : readDocument text = .ok root) : root.isObject = true := by
  obtain ⟨hroot, -⟩ := (readDocument_eq_ok_iff text root).1 h
  generalize significantTokens text = ts at hroot
  cases hroot with
  | document hobject _ =>
      cases hobject
      rfl

/-- The text of the root, read alone, is the root again. -/
theorem readDocument_cut_root (h : readDocument text = .ok root) :
    ∃ root', readDocument (root.span.cut text) = .ok root' ∧
      root'.shift root.span.offset = root := by
  obtain ⟨-, hheight⟩ := (readDocument_eq_ok_iff text root).1 h
  have hend : ∀ c, [].head? = some c → breaks c = true := by simp
  obtain ⟨stretch, root', hcut, -, hstands, heq⟩ := exists_excerpt h (.self root) 0 hend
  have hobject : root'.isObject = true :=
    isObject_eq_of_mapSpans_eq heq ▸ isObject_of_readDocument h
  have hheight' : root'.height ≤ maxDepth := height_eq_of_mapSpans_eq heq ▸ hheight
  refine ⟨root', ?_, heq.trans (mapSpans_id root)⟩
  rw [hcut]
  exact readDocument_of_standsFor hstands hobject hheight'

/-- A text in the place of the value of a member `x`, as tokens. -/
theorem lexes_member {ts : List Token} (h : Lexes ['\x7d'] 3 stretch ts) :
    Lexes [] 0 ('\x7b' :: 'x' :: ':' :: (stretch ++ ['\x7d']))
      (⟨.openBrace, ⟨0, 1⟩⟩ :: ⟨.identifier "x", ⟨1, 1⟩⟩ :: ⟨.colon, ⟨2, 1⟩⟩ ::
        (ts ++ [⟨.closeBrace, ⟨3 + byteSize stretch, 1⟩⟩])) := by
  have hname : TokenKind.scan 'x' (':' :: (stretch ++ ['\x7d'] ++ [])) =
      (.identifier "x", ':' :: (stretch ++ ['\x7d'] ++ [])) :=
    @scan_before 'x' [] [':'] _ _ (by decide) (fun c hc => .inl hc)
  have hbrace :
      Lexes [] (3 + byteSize stretch) ['\x7d'] [⟨.closeBrace, ⟨3 + byteSize stretch, 1⟩⟩] :=
    .cons_char rfl .nil
  exact .cons_char rfl (.cons_char hname (.cons_char rfl (h.append hbrace)))

/-- The tokens of a value, behind those of a name and in braces, are an object with one member. -/
theorem derives_member {ts : List Token} {c : Token} (h : Derives .value ts v)
    (hc : c.kind = .closeBrace) :
    Derives .object
      (⟨.openBrace, ⟨0, 1⟩⟩ :: ⟨.identifier "x", ⟨1, 1⟩⟩ :: ⟨.colon, ⟨2, 1⟩⟩ :: (ts ++ [c]))
      (Node.object ⟨0, c.span.stop⟩ [⟨"x", ⟨1, 1⟩, v, false⟩]) := by
  have hmember : Derives .member (⟨.identifier "x", ⟨1, 1⟩⟩ :: ⟨.colon, ⟨2, 1⟩⟩ :: ts)
      ⟨"x", ⟨1, 1⟩, v, false⟩ := .member (.identifier rfl) rfl h
  have hbody := Derives.someMembers (.firstMember hmember) .none
  rw [List.append_nil] at hbody
  exact @Derives.object ⟨.openBrace, ⟨0, 1⟩⟩ c _ _ rfl hbody hc

/-- A stretch of text is the value of a member `x` if it stands for a value that leaves room around
it. -/
theorem readDocument_member (h : StandsFor ['\x7d'] 3 stretch v) (hheight : v.height < maxDepth) :
    readDocument ("\x7bx:" ++ String.ofList stretch ++ "\x7d") =
      .ok (.object ⟨0, byteSize stretch + 4⟩ [⟨"x", ⟨1, 1⟩, v, false⟩]) := by
  obtain ⟨ts, hlexes, hderives⟩ := h
  have htext : "\x7bx:" ++ String.ofList stretch ++ "\x7d" =
      String.ofList ('\x7b' :: 'x' :: ':' :: (stretch ++ ['\x7d'])) := String.ext (by simp)
  have hstop : byteSize stretch + 4 = (Span.mk (3 + byteSize stretch) 1).stop := by
    show byteSize stretch + 4 = 3 + byteSize stretch + 1
    omega
  rw [htext, hstop]
  refine (readDocument_eq_ok_iff _ _).2 ⟨?_, ?_⟩
  · rw [(lexes_member hlexes).significantTokens_eq, List.filter_cons_of_pos rfl,
      List.filter_cons_of_pos rfl, List.filter_cons_of_pos rfl, List.filter_append]
    exact .document (derives_member hderives rfl) rfl
  · show max v.height 0 + 1 ≤ maxDepth
    omega

/-- The text of a value inside a document is the same value where it is the value of a member. -/
theorem readDocument_cut_member (h : readDocument text = .ok root)
    (hv : root.Contains v) (hne : v ≠ root) :
    ∃ w, readDocument ("\x7bx:" ++ v.span.cut text ++ "\x7d") =
        .ok (.object ⟨0, v.span.length + 4⟩ [⟨"x", ⟨1, 1⟩, w, false⟩]) ∧
      w.shift v.span.offset = v.shift 3 := by
  obtain ⟨-, hheight⟩ := (readDocument_eq_ok_iff text root).1 h
  have hbrace : ∀ c, ['\x7d'].head? = some c → breaks c = true := by
    rintro c ⟨⟩
    decide
  obtain ⟨stretch, w, hcut, hlength, hstands, heq⟩ := exists_excerpt h hv 3 hbrace
  have hlow : w.height < maxDepth := by
    rw [height_eq_of_mapSpans_eq heq]
    exact Nat.lt_of_lt_of_le (height_lt_of_contains hv hne) hheight
  refine ⟨w, ?_, heq⟩
  rw [hcut, hlength]
  exact readDocument_member hstands hlow

/-- **The span of a node delimits exactly its own text.**

1. Each node of a document stands at character boundaries of the text and encloses its parts.
2. What the span of a name cuts out is read as one token that names the member, and the end of the
   text.
3. What the span of the root cuts out is read as the root, each span moved to the start of the text.
4. What the span of any other value `v` cuts out, in the place of the value of a member `x`, is read
   as `v`, each span moved from where `v` stands to the offset 3 behind the colon. -/
theorem excerpts_read_alone (h : readDocument text = .ok root) :
    (∀ n, root.Contains n → n.span.Marks text.toList ∧ n.span.Encloses n.parts) ∧
    (∀ span ms, root.Contains (.object span ms) → ∀ m ∈ ms, m.nameSpan.Marks text.toList ∧
      ∃ kind, (kind = .string m.name ∨ kind = .identifier m.name) ∧
        tokenize (m.nameSpan.cut text) =
          [⟨kind, ⟨0, m.nameSpan.length⟩⟩, ⟨.endOfText, ⟨m.nameSpan.length, 0⟩⟩]) ∧
    (∃ root', readDocument (root.span.cut text) = .ok root' ∧ root'.shift root.span.offset = root) ∧
    ∀ v, root.Contains v → v ≠ root →
      ∃ w, readDocument ("\x7bx:" ++ v.span.cut text ++ "\x7d") =
          .ok (.object ⟨0, v.span.length + 4⟩ [⟨"x", ⟨1, 1⟩, w, false⟩]) ∧
        w.shift v.span.offset = v.shift 3 := by
  refine ⟨fun n hn => ⟨(laidOut_of_contains h hn).marks, encloses_parts h hn⟩,
    fun span ms hobject m hm => ?_,
    readDocument_cut_root h, fun v hv hne => readDocument_cut_member h hv hne⟩
  exact ⟨(member_laidOut h hobject hm).name_marks, tokenize_cut_nameSpan h hobject hm⟩

end document

/-- A document behind a blank, with an object in a list, a comment and a repeated name. -/
def nestedText : String := " \x7b a: [true, \x7b'b': null\x7d], /* again */ 'a': 'x' \x7d"

/-- The object in the list in `nestedText`. -/
def nestedObject : Node := .object ⟨13, 11⟩ [⟨"b", ⟨14, 3⟩, .null ⟨19, 4⟩, false⟩]

/-- What `nestedText` is read as. -/
def nestedRoot : Node :=
  .object ⟨1, 48⟩
    [⟨"a", ⟨3, 1⟩, .array ⟨6, 19⟩ [.boolean ⟨7, 4⟩ true, nestedObject], false⟩,
      ⟨"a", ⟨39, 3⟩, .string ⟨44, 3⟩ "x", true⟩]

theorem excerpts_read_alone_nestedText :
    readDocument nestedText = .ok nestedRoot ∧
    nestedRoot.span.Encloses [⟨3, 1⟩, ⟨6, 19⟩, ⟨39, 3⟩, ⟨44, 3⟩] ∧
    (∃ root', readDocument (nestedRoot.span.cut nestedText) = .ok root' ∧
      root'.shift 1 = nestedRoot) ∧
    ∃ w, readDocument ("\x7bx:" ++ nestedObject.span.cut nestedText ++ "\x7d") =
        .ok (.object ⟨0, 15⟩ [⟨"x", ⟨1, 1⟩, w, false⟩]) ∧ w.shift 13 = nestedObject.shift 3 := by
  have hread : readDocument nestedText = .ok nestedRoot := by
    set_option maxRecDepth 4000 in with_unfolding_all rfl
  have hcontains : nestedRoot.Contains nestedObject :=
    .member List.mem_cons_self (.element (List.mem_cons_of_mem _ List.mem_cons_self)
      (.self nestedObject))
  have hne : nestedObject ≠ nestedRoot := fun heq => absurd (congrArg Node.span heq) (by decide)
  obtain ⟨hparts, -, hroot, hvalues⟩ := excerpts_read_alone hread
  exact ⟨hread, (hparts nestedRoot (.self nestedRoot)).2, hroot, hvalues nestedObject hcontains hne⟩

end Phrasebook
