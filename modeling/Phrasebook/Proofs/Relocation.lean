import Mathlib.Data.List.Forall2
import Phrasebook.Proofs.Grammar

/-!
# Phrasebook.Proofs.Relocation

The same tokens at other places.

A derivation looks at the kinds of its tokens, and puts spans together from theirs.  Where two lists
of tokens are of the same kinds, and two ways of mapping spans make their spans equal, so are the
trees that they stand for (`exists_derives_of_relocated`).  Moving a text by some bytes is the case
in mind (`Span.shift`).
-/

namespace Phrasebook

/-! ## trees at other places -/

/-- A span that many bytes further on. -/
def Span.shift (s : Span) (bytes : Nat) : Span := ⟨s.offset + bytes, s.length⟩

mutual

/-- A node with each of its spans mapped. -/
def Node.mapSpans (f : Span → Span) : Node → Node
  | .string span value => .string (f span) value
  | .number span value => .number (f span) value
  | .boolean span value => .boolean (f span) value
  | .null span => .null (f span)
  | .object span members => .object (f span) (mapSpansOfMembers f members)
  | .array span elements => .array (f span) (mapSpansOfElements f elements)

/-- Members with each of their spans mapped. -/
def mapSpansOfMembers (f : Span → Span) : List Property → List Property
  | [] => []
  | m :: rest => ⟨m.name, f m.nameSpan, m.value.mapSpans f, m.repeated⟩ :: mapSpansOfMembers f rest

/-- Elements with each of their spans mapped. -/
def mapSpansOfElements (f : Span → Span) : List Node → List Node
  | [] => []
  | n :: rest => n.mapSpans f :: mapSpansOfElements f rest

end

/-- A node that many bytes further on. -/
def Node.shift (n : Node) (bytes : Nat) : Node := n.mapSpans (·.shift bytes)

/-- A member with each of its spans mapped. -/
def Member.mapSpans (f : Span → Span) (m : Property) : Property :=
  ⟨m.name, f m.nameSpan, m.value.mapSpans f, m.repeated⟩

section mapSpans

variable {f g : Span → Span}

theorem mapSpansOfMembers_eq (ms : List Property) :
    mapSpansOfMembers f ms = ms.map (Member.mapSpans f) := by
  induction ms with
  | nil => rfl
  | cons m rest ih =>
      rw [mapSpansOfMembers, ih]
      rfl

theorem mapSpansOfElements_eq (ns : List Node) :
    mapSpansOfElements f ns = ns.map (Node.mapSpans f) := by
  induction ns with
  | nil => rfl
  | cons n rest ih =>
      rw [mapSpansOfElements, ih]
      rfl

theorem object_mapSpans_eq {span span' : Span} {ms ms' : List Property} (hspan : f span = g span')
    (hms : ms.map (Member.mapSpans f) = ms'.map (Member.mapSpans g)) :
    (Node.object span ms).mapSpans f = (Node.object span' ms').mapSpans g := by
  rw [Node.mapSpans, Node.mapSpans, mapSpansOfMembers_eq, mapSpansOfMembers_eq, hspan, hms]

theorem array_mapSpans_eq {span span' : Span} {ns ns' : List Node} (hspan : f span = g span')
    (hns : ns.map (Node.mapSpans f) = ns'.map (Node.mapSpans g)) :
    (Node.array span ns).mapSpans f = (Node.array span' ns').mapSpans g := by
  rw [Node.mapSpans, Node.mapSpans, mapSpansOfElements_eq, mapSpansOfElements_eq, hspan, hns]

theorem any_name_mapSpans (ms : List Property) (name : String) :
    (ms.map (Member.mapSpans f)).any (·.name == name) = ms.any (·.name == name) := by
  rw [List.any_map]
  rfl

theorem isObject_mapSpans (n : Node) : (n.mapSpans f).isObject = n.isObject := by
  cases n with
  | _ => rfl

mutual

/-- Mapping spans leaves the height. -/
theorem height_mapSpans (n : Node) : (n.mapSpans f).height = n.height := by
  cases n with
  | object span members =>
      rw [Node.mapSpans, Node.height, Node.height, heightOfMembers_mapSpans members]
  | array span elements =>
      rw [Node.mapSpans, Node.height, Node.height, heightOfElements_mapSpans elements]
  | _ => rfl

theorem heightOfMembers_mapSpans (ms : List Property) :
    heightOfMembers (mapSpansOfMembers f ms) = heightOfMembers ms := by
  cases ms with
  | nil => rfl
  | cons m rest =>
      obtain ⟨name, nameSpan, value, repeated⟩ := m
      rw [mapSpansOfMembers, heightOfMembers, heightOfMembers, height_mapSpans value,
        heightOfMembers_mapSpans rest]

theorem heightOfElements_mapSpans (ns : List Node) :
    heightOfElements (mapSpansOfElements f ns) = heightOfElements ns := by
  cases ns with
  | nil => rfl
  | cons n rest =>
      rw [mapSpansOfElements, heightOfElements, heightOfElements, height_mapSpans n,
        heightOfElements_mapSpans rest]

end

/-- Mapping every span to itself changes nothing. -/
theorem mapSpans_id (n : Node) : n.mapSpans id = n := by
  induction n using Node.inductionOn with
  | object span ms ih =>
      have hms : ∀ m ∈ ms, Member.mapSpans id m = m := fun m hm => by
        simp [Member.mapSpans, ih m hm]
      rw [Node.mapSpans, mapSpansOfMembers_eq, List.map_congr_left hms, List.map_id', id_eq]
  | array span ns ih =>
      rw [Node.mapSpans, mapSpansOfElements_eq, List.map_congr_left ih, List.map_id', id_eq]
  | _ => rfl

/-- Trees that differ in their spans only are of one height. -/
theorem height_eq_of_mapSpans_eq {n n' : Node} (h : n.mapSpans f = n'.mapSpans g) :
    n.height = n'.height := by
  rw [← height_mapSpans n, h, height_mapSpans]

/-- Of trees that differ in their spans only, both are objects or none is. -/
theorem isObject_eq_of_mapSpans_eq {n n' : Node} (h : n.mapSpans f = n'.mapSpans g) :
    n.isObject = n'.isObject := by
  rw [← isObject_mapSpans n, h, isObject_mapSpans]

end mapSpans

/-! ## derivations at other places -/

namespace Grammar

/-- What a symbol stands for, with each span mapped. -/
def Symbol.mapSpans (f : Span → Span) : (s : Symbol) → s.Meaning → s.Meaning
  | .document, n | .object, n | .array, n | .value, n => Node.mapSpans f n
  | .objectBody, ms | .members, ms => List.map (Member.mapSpans f) ms
  | .member, m => Member.mapSpans f m
  | .arrayBody, ns | .elements, ns => List.map (Node.mapSpans f) ns

/-- Tokens of one kind that take up room, and whose spans are mapped to one span. -/
structure Relocated (f g : Span → Span) (t t' : Token) : Prop where
  kind : t.kind = t'.kind
  span : f t.span = g t'.span
  length_pos : 0 < t.span.length

/-- Two ways of mapping spans that agree on a span between two others, none of them empty, if they
agree on these. -/
def AgreeBetween (f g : Span → Span) : Prop :=
  ∀ o c o' c', 0 < o.length → 0 < c.length → f o = g o' → f c = g c' →
    f (.between o.offset c.stop) = g (.between o'.offset c'.stop)

section relocated

variable {f g : Span → Span} {t t' : Token} {ts ts' us : List Token} {name : String}

theorem Relocated.names (h : Relocated f g t t') (hname : Names t name) : Names t' name := by
  cases hname with
  | string ht => exact .string (h.kind.symm.trans ht)
  | identifier ht => exact .identifier (h.kind.symm.trans ht)

theorem trailing_of_relocated (hts : List.Forall₂ (Relocated f g) ts ts') (h : Trailing ts) :
    Trailing ts' := by
  cases h with
  | none =>
      cases hts
      exact .none
  | comma ht =>
      cases hts with
      | cons htoken hrest =>
          cases hrest
          exact .comma (htoken.kind.symm.trans ht)

theorem of_forall₂_append (h : List.Forall₂ (Relocated f g) (ts ++ us) ts') :
    ∃ as bs, ts' = as ++ bs ∧ List.Forall₂ (Relocated f g) ts as ∧
      List.Forall₂ (Relocated f g) us bs := by
  induction ts generalizing ts' with
  | nil => exact ⟨[], ts', rfl, .nil, h⟩
  | cons t ts ih =>
      cases h with
      | cons htoken hrest =>
          obtain ⟨as, bs, rfl, has, hbs⟩ := ih hrest
          exact ⟨_ :: as, bs, rfl, .cons htoken has, hbs⟩

theorem of_forall₂_cons (h : List.Forall₂ (Relocated f g) (t :: ts) ts') :
    ∃ a as, ts' = a :: as ∧ Relocated f g t a ∧ List.Forall₂ (Relocated f g) ts as := by
  cases h with
  | cons htoken hrest => exact ⟨_, _, rfl, htoken, hrest⟩

theorem of_forall₂_singleton (h : List.Forall₂ (Relocated f g) [t] ts') :
    ∃ a, ts' = [a] ∧ Relocated f g t a := by
  obtain ⟨a, as, rfl, ht, has⟩ := of_forall₂_cons h
  cases has
  exact ⟨a, rfl, ht⟩

theorem map_concat_eq {α β : Type} {p q : α → β} {as bs : List α} {a b : α}
    (hlist : as.map p = bs.map q) (hlast : p a = q b) : (as ++ [a]).map p = (bs ++ [b]).map q := by
  rw [List.map_append, List.map_append, hlist, List.map_singleton, List.map_singleton, hlast]

theorem mark_of_mapSpans_eq {ms ms' : List Property} {m m' : Property}
    (hms : ms.map (Member.mapSpans f) = ms'.map (Member.mapSpans g))
    (hm : m.mapSpans f = m'.mapSpans g) : (mark ms m).mapSpans f = (mark ms' m').mapSpans g := by
  obtain ⟨hname, hspan, hvalue, -⟩ := Member.mk.inj hm
  have hrepeated : ms.any (·.name == m.name) = ms'.any (·.name == m'.name) := by
    rw [← @any_name_mapSpans f ms, hms, any_name_mapSpans, hname]
  rw [Member.mapSpans, Member.mapSpans]
  exact Member.mk.injEq .. ▸ ⟨hname, hspan, hvalue, hrepeated⟩

/-- Tokens of the same kinds stand for the same tree, at their own places. -/
theorem exists_derives_of_relocated {s : Symbol} {x : s.Meaning} (hbetween : AgreeBetween f g)
    (h : Derives s ts x) (hts : List.Forall₂ (Relocated f g) ts ts') :
    ∃ x', Derives s ts' x' ∧ s.mapSpans f x = s.mapSpans g x' := by
  induction h generalizing ts' with
  | document _ he ih =>
      obtain ⟨as, bs, rfl, has, hbs⟩ := of_forall₂_append hts
      obtain ⟨e', rfl, he'⟩ := of_forall₂_singleton hbs
      obtain ⟨root', hroot', heq⟩ := ih has
      exact ⟨root', .document hroot' (he'.kind.symm.trans he), heq⟩
  | object ho _ hc ih =>
      obtain ⟨as, bs, rfl, has, hbs⟩ := of_forall₂_append hts
      obtain ⟨o', as, rfl, ho', has⟩ := of_forall₂_cons has
      obtain ⟨c', rfl, hc'⟩ := of_forall₂_singleton hbs
      obtain ⟨ms', hms', heq⟩ := ih has
      exact ⟨_, .object (ho'.kind.symm.trans ho) hms' (hc'.kind.symm.trans hc),
        object_mapSpans_eq (hbetween _ _ _ _ ho'.length_pos hc'.length_pos ho'.span hc'.span) heq⟩
  | noMembers =>
      cases hts
      exact ⟨[], .noMembers, rfl⟩
  | someMembers _ hus ih =>
      obtain ⟨as, bs, rfl, has, hbs⟩ := of_forall₂_append hts
      obtain ⟨ms', hms', heq⟩ := ih has
      exact ⟨ms', .someMembers hms' (trailing_of_relocated hbs hus), heq⟩
  | firstMember _ ih =>
      obtain ⟨m', hm', heq⟩ := ih hts
      exact ⟨_, .firstMember hm', congrArg (fun m => [m]) (mark_of_mapSpans_eq rfl heq)⟩
  | nextMember _ hc _ ihs ih =>
      obtain ⟨as, bs, rfl, has, hbs⟩ := of_forall₂_append hts
      obtain ⟨c', bs, rfl, hc', hbs⟩ := of_forall₂_cons hbs
      obtain ⟨ms', hms', heqs⟩ := ihs has
      obtain ⟨m', hm', heq⟩ := ih hbs
      exact ⟨_, .nextMember hms' (hc'.kind.symm.trans hc) hm',
        map_concat_eq heqs (mark_of_mapSpans_eq heqs heq)⟩
  | member hk hc _ ih =>
      obtain ⟨k', as, rfl, hk', has⟩ := of_forall₂_cons hts
      obtain ⟨c', as, rfl, hc', has⟩ := of_forall₂_cons has
      obtain ⟨v', hv', heq⟩ := ih has
      refine ⟨_, .member (hk'.names hk) (hc'.kind.symm.trans hc) hv', ?_⟩
      show Member.mk _ _ _ _ = Member.mk _ _ _ _
      exact Member.mk.injEq .. ▸ ⟨rfl, hk'.span, heq, rfl⟩
  | array ho _ hc ih =>
      obtain ⟨as, bs, rfl, has, hbs⟩ := of_forall₂_append hts
      obtain ⟨o', as, rfl, ho', has⟩ := of_forall₂_cons has
      obtain ⟨c', rfl, hc'⟩ := of_forall₂_singleton hbs
      obtain ⟨ns', hns', heq⟩ := ih has
      exact ⟨_, .array (ho'.kind.symm.trans ho) hns' (hc'.kind.symm.trans hc),
        array_mapSpans_eq (hbetween _ _ _ _ ho'.length_pos hc'.length_pos ho'.span hc'.span) heq⟩
  | noElements =>
      cases hts
      exact ⟨[], .noElements, rfl⟩
  | someElements _ hus ih =>
      obtain ⟨as, bs, rfl, has, hbs⟩ := of_forall₂_append hts
      obtain ⟨ns', hns', heq⟩ := ih has
      exact ⟨ns', .someElements hns' (trailing_of_relocated hbs hus), heq⟩
  | firstElement _ ih =>
      obtain ⟨n', hn', heq⟩ := ih hts
      exact ⟨_, .firstElement hn', congrArg (fun n => [n]) heq⟩
  | nextElement _ hc _ ihs ih =>
      obtain ⟨as, bs, rfl, has, hbs⟩ := of_forall₂_append hts
      obtain ⟨c', bs, rfl, hc', hbs⟩ := of_forall₂_cons hbs
      obtain ⟨ns', hns', heqs⟩ := ihs has
      obtain ⟨n', hn', heq⟩ := ih hbs
      exact ⟨_, .nextElement hns' (hc'.kind.symm.trans hc) hn', map_concat_eq heqs heq⟩
  | objectValue _ ih =>
      obtain ⟨n', hn', heq⟩ := ih hts
      exact ⟨n', .objectValue hn', heq⟩
  | arrayValue _ ih =>
      obtain ⟨n', hn', heq⟩ := ih hts
      exact ⟨n', .arrayValue hn', heq⟩
  | string ht =>
      obtain ⟨t', rfl, ht'⟩ := of_forall₂_singleton hts
      exact ⟨_, .string (ht'.kind.symm.trans ht), congrArg (Node.string · _) ht'.span⟩
  | number ht =>
      obtain ⟨t', rfl, ht'⟩ := of_forall₂_singleton hts
      exact ⟨_, .number (ht'.kind.symm.trans ht), congrArg (Node.number · _) ht'.span⟩
  | boolean ht =>
      obtain ⟨t', rfl, ht'⟩ := of_forall₂_singleton hts
      exact ⟨_, .boolean (ht'.kind.symm.trans ht), congrArg (Node.boolean · _) ht'.span⟩
  | null ht =>
      obtain ⟨t', rfl, ht'⟩ := of_forall₂_singleton hts
      exact ⟨_, .null (ht'.kind.symm.trans ht), congrArg Node.null ht'.span⟩

/-- A document whose tokens are relocated, up to the end of the text. -/
theorem exists_document_of_relocated {e e' : Token} {root : Node} (hbetween : AgreeBetween f g)
    (h : Derives .document (ts ++ [e]) root) (hts : List.Forall₂ (Relocated f g) ts ts')
    (he : e'.kind = .endOfText) :
    ∃ root' : Node, Derives .document (ts' ++ [e']) root' ∧ root.mapSpans f = root'.mapSpans g := by
  obtain ⟨root', hroot', heq⟩ := exists_derives_of_relocated hbetween (of_derives_document h) hts
  exact ⟨root', .document hroot' he, heq⟩

end relocated

end Grammar

end Phrasebook
