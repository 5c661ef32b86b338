import Phrasebook.Proofs.Reading
import Phrasebook.Proofs.Spans

/-!
# Phrasebook.Proofs.Layout

Where the parts of a document stand in its text.

Every node that a document contains is itself derived from some of the tokens, which stand together
(`derives_of_contains`).  So it is enough to look at one node at a time: it runs from its first
token to its last one, and its members or elements stand between the two, one behind the other
(`Node.LaidOut`).
-/

namespace Phrasebook

open Grammar

/-- A node is another one, or stands somewhere inside it. -/
inductive Node.Contains : Node → Node → Prop where
  | self (n : Node) : Contains n n
  | member {span : Span} {ms : List Property} {m : Property} {n : Node} :
      m ∈ ms → Contains m.value n → Contains (.object span ms) n
  | element {span : Span} {ns : List Node} {e n : Node} :
      e ∈ ns → Contains e n → Contains (.array span ns) n

theorem Node.Contains.trans {root n inner : Node} (h : root.Contains n) (hn : n.Contains inner) :
    root.Contains inner := by
  induction h with
  | self => exact hn
  | member hm _ ih => exact .member hm (ih hn)
  | element he _ ih => exact .element he (ih hn)

/-! ## the tokens of a node -/

/-- A span runs from the start of one token to the end of another, or of the same. -/
structure Span.RunsOver (span : Span) (ts : List Token) : Prop where
  offset : ∃ t ∈ ts, span.offset = t.span.offset
  stop : ∃ t ∈ ts, span.stop = t.span.stop
  length_pos : 0 < span.length

section derives

variable {source : List Char} {ts us : List Token} {t : Token} {span : Span} {ms : List Property}
  {ns : List Node} {m : Property} {n : Node}

theorem Span.RunsOver.mono (h : span.RunsOver us) (hsub : us ⊆ ts) : span.RunsOver ts := by
  obtain ⟨⟨o, ho, hoffset⟩, ⟨c, hc, hstop⟩, hpos⟩ := h
  exact ⟨⟨o, hsub ho, hoffset⟩, ⟨c, hsub hc, hstop⟩, hpos⟩

theorem Span.RunsOver.marks (h : span.RunsOver ts) (hts : InOrder source ts) :
    span.Marks source := by
  obtain ⟨⟨o, ho, hoffset⟩, ⟨c, hc, hstop⟩, -⟩ := h
  have hmarks := marks_between (hts.marks o ho).boundary_offset (hts.marks c hc).boundary_stop
    (by rw [← hoffset, ← hstop]; exact Nat.le_add_right _ _)
  rwa [← hoffset, ← hstop, between, Span.stop, Nat.add_sub_cancel_left] at hmarks

/-- Every token but the end of the text runs over itself. -/
theorem runsOver_of_mem (hts : InOrder source ts) (ht : t ∈ ts) (hkind : t.kind ≠ .endOfText) :
    t.span.RunsOver ts :=
  ⟨⟨t, ht, rfl⟩, ⟨t, ht, rfl⟩, hts.length_pos t ht hkind⟩

/-- What two brackets enclose, these included, runs from the first to the last. -/
theorem runsOver_between {o c : Token} (hts : InOrder source (o :: us ++ [c]))
    (hc : c.kind ≠ .endOfText) :
    (Span.between o.span.offset c.span.stop).RunsOver (o :: us ++ [c]) := by
  have hpos := hts.length_pos c (by simp) hc
  have hle : o.span.offset + o.span.length ≤ c.span.offset :=
    hts.le_of_cons c (by simp)
  have hlt : o.span.offset < c.span.stop := by rw [Span.stop]; omega
  exact ⟨⟨o, by simp, rfl⟩, ⟨c, by simp, Span.between_stop (Nat.le_of_lt hlt)⟩,
    Nat.sub_pos_of_lt hlt⟩

/-- The span of a value runs from its first token to its last one. -/
theorem runsOver_of_derives (h : Derives .value ts n) (hts : InOrder source ts) :
    n.span.RunsOver ts := by
  cases h with
  | objectValue h =>
      cases h with
      | object _ _ hc => exact runsOver_between hts (by simp [hc])
  | arrayValue h =>
      cases h with
      | array _ _ hc => exact runsOver_between hts (by simp [hc])
  | string ht | number ht | boolean ht | null ht =>
      exact runsOver_of_mem hts (List.mem_singleton_self _) (by simp [ht])

theorem of_derives_object (h : Derives .value ts (Node.object span ms)) :
    ∃ o us c, ts = o :: us ++ [c] ∧ o.kind = .openBrace ∧ c.kind = .closeBrace ∧
      span = .between o.span.offset c.span.stop ∧ Derives .objectBody us ms := by
  cases h with
  | objectValue h =>
      cases h with
      | object ho hbody hc => exact ⟨_, _, _, rfl, ho, hc, rfl, hbody⟩
  | arrayValue h => cases h

theorem of_derives_array (h : Derives .value ts (Node.array span ns)) :
    ∃ o us c, ts = o :: us ++ [c] ∧ o.kind = .openBracket ∧ c.kind = .closeBracket ∧
      span = .between o.span.offset c.span.stop ∧ Derives .arrayBody us ns := by
  cases h with
  | objectValue h => cases h
  | arrayValue h =>
      cases h with
      | array ho hbody hc => exact ⟨_, _, _, rfl, ho, hc, rfl, hbody⟩

/-! ## the parts of a list -/

/-- A member is derived from some of the tokens: its name from one, and its value from those behind
the colon. -/
def MemberIn (ts : List Token) (m : Property) : Prop :=
  ∃ k c us, (k :: c :: us) <:+: ts ∧ Names k m.name ∧ m.nameSpan = k.span ∧
    Derives .value us m.value

/-- An element is derived from some of the tokens. -/
def ElementIn (ts : List Token) (n : Node) : Prop := ∃ us, us <:+: ts ∧ Derives .value us n

theorem MemberIn.mono (h : MemberIn us m) (hwithin : us <:+: ts) : MemberIn ts m := by
  obtain ⟨k, c, vs, hvs, hm⟩ := h
  exact ⟨k, c, vs, hvs.trans hwithin, hm⟩

theorem ElementIn.mono (h : ElementIn us n) (hwithin : us <:+: ts) : ElementIn ts n := by
  obtain ⟨vs, hvs, hn⟩ := h
  exact ⟨vs, hvs.trans hwithin, hn⟩

/-- A member is marked just if an earlier one has its name. -/
def RepetitionsMarked (ms : List Property) : Prop :=
  ∀ before m behind, ms = before ++ m :: behind → m.repeated = before.any (·.name == m.name)

theorem repetitionsMarked_nil : RepetitionsMarked [] := by
  intro before m behind heq
  simp at heq

theorem RepetitionsMarked.append (h : RepetitionsMarked ms) (m : Property) :
    RepetitionsMarked (ms ++ [mark ms m]) := by
  intro before m' behind heq
  obtain rfl | ⟨front, last, rfl⟩ := List.eq_nil_or_concat behind
  · obtain ⟨rfl, hlast⟩ := List.append_inj' heq rfl
    cases hlast
    rfl
  · rw [List.concat_eq_append, ← List.cons_append, ← List.append_assoc] at heq
    obtain ⟨rfl, -⟩ := List.append_inj' heq rfl
    exact h before m' front rfl

/-- What is known about a list of members from its tokens. -/
structure MembersIn (ts : List Token) (ms : List Property) : Prop where
  derived : ∀ m ∈ ms, MemberIn ts m
  marked : RepetitionsMarked ms
  ordered : ∀ source, InOrder source ts → ms.Pairwise (·.value.span.stop ≤ ·.nameSpan.offset)

/-- What is known about a list of elements from its tokens. -/
structure ElementsIn (ts : List Token) (ns : List Node) : Prop where
  derived : ∀ n ∈ ns, ElementIn ts n
  ordered : ∀ source, InOrder source ts → ns.Pairwise (·.span.stop ≤ ·.span.offset)

theorem memberIn_mark (earlier : List Property) (h : Derives .member ts m) :
    MemberIn ts (mark earlier m) := by
  cases h with
  | member hk _ hv => exact ⟨_, _, _, List.infix_refl _, hk, rfl, hv⟩

/-- The name of a member and its value run over its tokens, the value behind the name. -/
theorem MemberIn.runsOver (h : MemberIn ts m) (hts : InOrder source ts) :
    m.nameSpan.RunsOver ts ∧ m.value.span.RunsOver ts ∧ m.nameSpan.stop ≤ m.value.span.offset := by
  obtain ⟨k, c, us, hwithin, hk, hname, hvalue⟩ := h
  have hmember := hts.sublist hwithin.sublist
  have hvs : us ⊆ k :: c :: us := fun t ht => by simp [ht]
  have hrun := runsOver_of_derives hvalue (hmember.sublist (List.sublist_append_right [k, c] us))
  have hkind : k.kind ≠ .endOfText := by
    cases hk with
    | string hk | identifier hk => simp [hk]
  refine ⟨?_, (hrun.mono hvs).mono hwithin.subset, ?_⟩
  · rw [hname]
    exact (runsOver_of_mem hmember List.mem_cons_self hkind).mono hwithin.subset
  · obtain ⟨t, ht, hoffset⟩ := hrun.offset
    rw [hname, hoffset]
    exact hmember.le_of_cons t (by simp [ht])

theorem ElementIn.runsOver (h : ElementIn ts n) (hts : InOrder source ts) : n.span.RunsOver ts := by
  obtain ⟨us, hwithin, hn⟩ := h
  exact (runsOver_of_derives hn (hts.sublist hwithin.sublist)).mono hwithin.subset

theorem le_of_runsOver_append {front behind : Span} (hts : InOrder source (ts ++ us))
    (hfront : front.RunsOver ts) (hbehind : behind.RunsOver us) : front.stop ≤ behind.offset := by
  obtain ⟨t, ht, hstop⟩ := hfront.stop
  obtain ⟨u, hu, hoffset⟩ := hbehind.offset
  rw [hstop, hoffset]
  exact hts.le_of_append t ht u hu

theorem MembersIn.append {c : Token} (h : MembersIn ts ms) (hm : Derives .member us m) :
    MembersIn (ts ++ c :: us) (ms ++ [mark ms m]) where
  derived m' hm' := by
    obtain hm' | hm' := List.mem_append.1 hm'
    · exact (h.derived m' hm').mono (List.prefix_append _ _).isInfix
    · rw [List.mem_singleton.1 hm']
      exact (memberIn_mark ms hm).mono ⟨ts ++ [c], [], by simp⟩
  marked := h.marked.append m
  ordered source hts := by
    have hfront := hts.sublist (List.sublist_append_left ts (c :: us))
    have hbehind :=
      hts.sublist ((List.sublist_cons_self c us).trans (List.sublist_append_right ts _))
    refine List.pairwise_append.2 ⟨h.ordered source hfront,
      List.pairwise_singleton _ _, fun a ha b hb => ?_⟩
    rw [List.mem_singleton.1 hb]
    exact le_of_runsOver_append (hts.sublist ((List.sublist_cons_self c us).append_left ts))
      ((h.derived a ha).runsOver hfront).2.1 ((memberIn_mark ms hm).runsOver hbehind).1

theorem ElementsIn.append {c : Token} (h : ElementsIn ts ns) (hn : Derives .value us n) :
    ElementsIn (ts ++ c :: us) (ns ++ [n]) where
  derived n' hn' := by
    obtain hn' | hn' := List.mem_append.1 hn'
    · exact (h.derived n' hn').mono (List.prefix_append _ _).isInfix
    · rw [List.mem_singleton.1 hn']
      exact ⟨us, ⟨ts ++ [c], [], by simp⟩, hn⟩
  ordered source hts := by
    have hfront := hts.sublist (List.sublist_append_left ts (c :: us))
    have hbehind :=
      hts.sublist ((List.sublist_cons_self c us).trans (List.sublist_append_right ts _))
    refine List.pairwise_append.2 ⟨h.ordered source hfront,
      List.pairwise_singleton _ _, fun a ha b hb => ?_⟩
    rw [List.mem_singleton.1 hb]
    exact le_of_runsOver_append (hts.sublist ((List.sublist_cons_self c us).append_left ts))
      ((h.derived a ha).runsOver hfront) (runsOver_of_derives hn hbehind)

/-- What is known about the lists among the symbols of the grammar. -/
def Listed : (s : Symbol) → List Token → s.Meaning → Prop
  | .members, ts, ms => MembersIn ts ms
  | .elements, ts, ns => ElementsIn ts ns
  | _, _, _ => True

theorem listed_of_derives {s : Symbol} {x : s.Meaning} (h : Derives s ts x) : Listed s ts x := by
  induction h with
  | firstMember hm _ =>
      exact ⟨List.forall_mem_singleton.2 (memberIn_mark [] hm), repetitionsMarked_nil.append _,
        fun _ _ => List.pairwise_singleton _ _⟩
  | nextMember _ _ hm ihs _ => exact MembersIn.append ihs hm
  | firstElement hn _ =>
      exact ⟨List.forall_mem_singleton.2 ⟨_, List.infix_refl _, hn⟩,
        fun _ _ => List.pairwise_singleton _ _⟩
  | nextElement _ _ hn ihs _ => exact ElementsIn.append ihs hn
  | _ => trivial

theorem membersIn_of_derives (h : Derives .objectBody ts ms) : MembersIn ts ms := by
  cases h with
  | noMembers =>
      exact ⟨fun _ h => absurd h List.not_mem_nil, repetitionsMarked_nil,
        fun _ _ => List.Pairwise.nil⟩
  | someMembers hms hus =>
      have hlisted : MembersIn _ ms := listed_of_derives hms
      exact ⟨fun m hm => (hlisted.derived m hm).mono (List.prefix_append _ _).isInfix,
        hlisted.marked,
        fun source hts => hlisted.ordered source (hts.sublist (List.sublist_append_left _ _))⟩

theorem elementsIn_of_derives (h : Derives .arrayBody ts ns) : ElementsIn ts ns := by
  cases h with
  | noElements => exact ⟨fun _ h => absurd h List.not_mem_nil, fun _ _ => List.Pairwise.nil⟩
  | someElements hns hus =>
      have hlisted : ElementsIn _ ns := listed_of_derives hns
      exact ⟨fun n hn => (hlisted.derived n hn).mono (List.prefix_append _ _).isInfix,
        fun source hts => hlisted.ordered source (hts.sublist (List.sublist_append_left _ _))⟩

/-! ## the nodes of a document -/

theorem infix_between (o c : Token) (us : List Token) : us <:+: o :: us ++ [c] := ⟨[o], [c], rfl⟩

/-- Every node that a value contains is derived from some of its tokens, which stand together. -/
theorem derives_of_contains {root : Node} (h : root.Contains n) (hroot : Derives .value ts root) :
    ElementIn ts n := by
  induction h generalizing ts with
  | self => exact ⟨ts, List.infix_refl ts, hroot⟩
  | member hm _ ih =>
      obtain ⟨o, us, c, rfl, -, -, -, hbody⟩ := of_derives_object hroot
      obtain ⟨k, d, vs, hwithin, -, -, hvalue⟩ := (membersIn_of_derives hbody).derived _ hm
      have hvs : vs <:+: k :: d :: vs := (List.suffix_append [k, d] vs).isInfix
      exact (ih hvalue).mono (hvs.trans (hwithin.trans (infix_between o c us)))
  | element he _ ih =>
      obtain ⟨o, us, c, rfl, -, -, -, hbody⟩ := of_derives_array hroot
      obtain ⟨vs, hwithin, hvalue⟩ := (elementsIn_of_derives hbody).derived _ he
      exact (ih hvalue).mono (hwithin.trans (infix_between o c us))

/-- A member stands strictly inside the span of its object, its name before its value. -/
structure Member.LaidOut (m : Property) (source : List Char) (outer : Span) : Prop where
  name_marks : m.nameSpan.Marks source
  name_length_pos : 0 < m.nameSpan.length
  offset_lt : outer.offset < m.nameSpan.offset
  name_stop_le : m.nameSpan.stop ≤ m.value.span.offset
  stop_lt : m.value.span.stop < outer.stop

/-- A node stands in a text, and its members or elements strictly inside it, one behind the
other. -/
structure Node.LaidOut (n : Node) (source : List Char) : Prop where
  marks : n.span.Marks source
  length_pos : 0 < n.span.length
  members : ∀ ms, n.members? = some ms → (∀ m ∈ ms, m.LaidOut source n.span) ∧
    ms.Pairwise (·.value.span.stop ≤ ·.nameSpan.offset)
  elements : ∀ ns, n.elements? = some ns →
    (∀ e ∈ ns, n.span.offset < e.span.offset ∧ e.span.stop < n.span.stop) ∧
    ns.Pairwise (·.span.stop ≤ ·.span.offset)

/-- What runs over the tokens between two brackets stands strictly inside what they enclose. -/
theorem inside_of_runsOver {o c : Token} (hts : InOrder source (o :: us ++ [c]))
    (ho : o.kind ≠ .endOfText) (hc : c.kind ≠ .endOfText) (h : span.RunsOver us) :
    (Span.between o.span.offset c.span.stop).offset < span.offset ∧
      span.stop < (Span.between o.span.offset c.span.stop).stop := by
  obtain ⟨⟨t, ht, hoffset⟩, ⟨u, hu, hstop⟩, -⟩ := h
  have hopos := hts.length_pos o (by simp) ho
  have hcpos := hts.length_pos c (by simp) hc
  have hfront : o.span.offset + o.span.length ≤ t.span.offset := hts.le_of_cons t (by simp [ht])
  have hbehind : u.span.stop ≤ c.span.offset :=
    hts.le_of_append u (List.mem_cons_of_mem o hu) c (List.mem_singleton_self c)
  have hall : o.span.offset + o.span.length ≤ c.span.offset := hts.le_of_cons c (by simp)
  have hcstop : c.span.offset + c.span.length = c.span.stop := rfl
  rw [Span.between_stop (by omega), hoffset, hstop]
  exact ⟨show o.span.offset < t.span.offset by omega, by omega⟩

theorem laidOut_of_derives (h : Derives .value ts n) (hts : InOrder source ts) :
    n.LaidOut source := by
  have hrun := runsOver_of_derives h hts
  refine ⟨hrun.marks hts, hrun.length_pos, fun ms hms => ?_, fun ns hns => ?_⟩
  · cases n with
    | object span =>
        cases hms
        obtain ⟨o, us, c, rfl, ho, hc, rfl, hbody⟩ := of_derives_object h
        have hus := hts.sublist (infix_between o c us).sublist
        have hmembers := membersIn_of_derives hbody
        refine ⟨fun m hm => ?_, hmembers.ordered source hus⟩
        obtain ⟨hname, hvalue, hle⟩ := (hmembers.derived m hm).runsOver hus
        have hfirst := (inside_of_runsOver hts (by simp [ho]) (by simp [hc]) hname).1
        have hlast := (inside_of_runsOver hts (by simp [ho]) (by simp [hc]) hvalue).2
        exact ⟨hname.marks hus, hname.length_pos, hfirst, hle, hlast⟩
    | _ => cases hms
  · cases n with
    | array span =>
        cases hns
        obtain ⟨o, us, c, rfl, ho, hc, rfl, hbody⟩ := of_derives_array h
        have hus := hts.sublist (infix_between o c us).sublist
        have helements := elementsIn_of_derives hbody
        refine ⟨fun e he => ?_, helements.ordered source hus⟩
        exact inside_of_runsOver hts (by simp [ho]) (by simp [hc])
          ((helements.derived e he).runsOver hus)
    | _ => cases hns

theorem repetitionsMarked_of_derives (h : Derives .value ts (Node.object span ms)) :
    RepetitionsMarked ms := by
  obtain ⟨_, _, _, -, -, -, -, hbody⟩ := of_derives_object h
  exact (membersIn_of_derives hbody).marked

end derives

section document

variable {text : String} {root n : Node} (h : readDocument text = .ok root)

include h

/-- The root of a document is derived from its tokens, and so is every node in it. -/
theorem elementIn_of_readDocument (hn : root.Contains n) :
    ElementIn (significantTokens text) n := by
  obtain ⟨hroot, -⟩ := (readDocument_eq_ok_iff text root).1 h
  generalize significantTokens text = ts at hroot
  cases hroot with
  | document hobject _ =>
      exact (derives_of_contains hn (.objectValue hobject)).mono (List.prefix_append _ _).isInfix

/-- Every node of a document stands in its text. -/
theorem laidOut_of_contains (hn : root.Contains n) : n.LaidOut text.toList := by
  obtain ⟨us, hwithin, hderives⟩ := elementIn_of_readDocument h hn
  exact laidOut_of_derives hderives ((inOrder_significantTokens text).sublist hwithin.sublist)

theorem member_laidOut {m : Property} {span : Span} {ms : List Property}
    (hobject : root.Contains (.object span ms)) (hm : m ∈ ms) : m.LaidOut text.toList span :=
  ((laidOut_of_contains h hobject).members ms rfl).1 m hm

theorem pairwise_members {span : Span} {ms : List Property}
    (hobject : root.Contains (.object span ms)) :
    ms.Pairwise (·.value.span.stop ≤ ·.nameSpan.offset) :=
  ((laidOut_of_contains h hobject).members ms rfl).2

/-- What a node contains stands within its span. -/
theorem within_of_contains {inner : Node} (hn : root.Contains n) (hinner : n.Contains inner) :
    n.span.offset ≤ inner.span.offset ∧ inner.span.stop ≤ n.span.stop := by
  induction hinner with
  | self => exact ⟨Nat.le_refl _, Nat.le_refl _⟩
  | @member span ms m inner hm _ ih =>
      have hlaid := member_laidOut h hn hm
      have hname := m.nameSpan.offset_le_stop
      have hvalue := ih (hn.trans (.member hm (.self _)))
      have hfront : span.offset < m.nameSpan.offset := hlaid.offset_lt
      have hmiddle := hlaid.name_stop_le
      have hbehind : m.value.span.stop < span.stop := hlaid.stop_lt
      exact ⟨show span.offset ≤ _ by omega, show _ ≤ span.stop by omega⟩
  | @element span ns e inner he _ ih =>
      have hvalue := ih (hn.trans (.element he (.self _)))
      obtain ⟨hfront, hbehind⟩ := ((laidOut_of_contains h hn).elements ns rfl).1 e he
      exact ⟨Nat.le_trans (Nat.le_of_lt hfront) hvalue.1,
        Nat.le_trans hvalue.2 (Nat.le_of_lt hbehind)⟩

/-- Every object of a document marks the members whose name an earlier one has. -/
theorem repetitionsMarked_of_contains {span : Span} {ms : List Property}
    (hn : root.Contains (.object span ms)) : RepetitionsMarked ms := by
  obtain ⟨us, -, hderives⟩ := elementIn_of_readDocument h hn
  exact repetitionsMarked_of_derives hderives

end document

end Phrasebook
