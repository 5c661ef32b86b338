import Phrasebook.Proofs.Places
import Phrasebook.Proofs.RepeatedReading

/-!
# Phrasebook.Proofs.FirstOccurrence

Of several members with one name, the first one counts.

The members of an object are asked for in two ways: `Node.get?` goes over all of them and takes the
first one with a name, and `Node.properties` goes by the marks that the reader has set.  The two
agree on every object of every tree that a reader returns, also where it is asked again behind a
fault (`Reader.readMany`): the marks are those of `RepetitionsMarked`, so what is not marked is the
first member with its name.
-/

namespace Phrasebook

open Grammar

/-! ## every tree that a reader returns -/

section readings

variable {text : String} {count : Nat} {root n : Node}

/-- Every tree that a reader of a text returns is derived from tokens that stand together in the
text. -/
theorem derives_of_mem_readMany (h : .ok root ∈ (Reader.ofString text).readMany count) :
    ∃ us, us <:+: significantTokens text ∧ Derives .object us root := by
  rw [Reader.readMany_eq_map] at h
  obtain ⟨n, -, hread⟩ := List.mem_map.1 h
  have htokens := (Reader.within_after text n).tokens
  generalize (Reader.ofString text).after n = r at hread htokens
  have hresult : (Place.document.read r.depth r.size
      ((significantTokens text).drop r.position)).result = .ok root := by
    rw [← htokens]
    exact hread
  obtain ⟨us, e, rest, hsplit, he, hadvance⟩ := Place.read_eq_ok_iff.1 hresult
  have hwithin : us <:+: significantTokens text :=
    (hsplit ▸ List.prefix_append us (e :: rest)).isInfix.trans (List.drop_suffix _ _).isInfix
  obtain ⟨hdocument, -⟩ := (Place.advance_eq_finished_iff he).1 hadvance
  exact ⟨us, hwithin, of_derives_document hdocument⟩

/-- So is every node in it. -/
theorem elementIn_of_mem_readMany (h : .ok root ∈ (Reader.ofString text).readMany count)
    (hn : root.Contains n) : ElementIn (significantTokens text) n := by
  obtain ⟨us, hwithin, hobject⟩ := derives_of_mem_readMany h
  exact (derives_of_contains hn (.objectValue hobject)).mono hwithin

end readings

/-! ## the members of an object -/

section members

variable {span : Span} {ms : List Property} {m p : Property} {name : String}

theorem RepetitionsMarked.repeated_iff (h : RepetitionsMarked ms) {before behind : List Property}
    (hsplit : ms = before ++ m :: behind) : m.repeated = true ↔
      ∃ earlier ∈ before, earlier.name = m.name := by
  rw [h before m behind hsplit]
  simp only [List.any_eq_true, beq_iff_eq]

/-- The properties of an object are the first members with their names. -/
theorem RepetitionsMarked.properties_eq (h : RepetitionsMarked ms) :
    (Node.object span ms).properties = distinctOn (·.name) ms :=
  h.filter_eq

theorem RepetitionsMarked.nodup_properties (h : RepetitionsMarked ms) :
    ((Node.object span ms).properties.map (·.name)).Nodup := by
  rw [h.properties_eq, map_distinctOn]
  exact nodup_distinct _

/-- Every name in an object is the name of a property. -/
theorem RepetitionsMarked.exists_property (h : RepetitionsMarked ms) (hm : m ∈ ms) :
    ∃ p ∈ (Node.object span ms).properties, p.name = m.name := by
  rw [h.properties_eq]
  exact List.mem_map.1 (mem_map_distinctOn.2 (List.mem_map_of_mem hm))

/-- Looking a name up among all members finds the property with this name. -/
theorem RepetitionsMarked.get?_eq (h : RepetitionsMarked ms) (name : String) :
    (Node.object span ms).get? name =
      ((Node.object span ms).properties.find? (·.name == name)).map (·.value) := by
  rw [h.properties_eq, find?_distinctOn]
  rfl

/-- The property with a name is what the name stands for. -/
theorem RepetitionsMarked.get?_of_mem (h : RepetitionsMarked ms)
    (hp : p ∈ (Node.object span ms).properties) :
    (Node.object span ms).get? p.name = some p.value := by
  rw [h.get?_eq, (find?_key_eq_some_iff h.nodup_properties).2 ⟨hp, rfl⟩, Option.map_some]

theorem RepetitionsMarked.eq_of_name_eq (h : RepetitionsMarked ms) {q : Property}
    (hp : p ∈ (Node.object span ms).properties) (hq : q ∈ (Node.object span ms).properties)
    (hname : p.name = q.name) : p = q :=
  List.inj_on_of_nodup_map h.nodup_properties hp hq hname

theorem get?_object_eq_none_iff :
    (Node.object span ms).get? name = none ↔ ∀ m ∈ ms, m.name ≠ name := by
  show Option.map _ (ms.find? _) = none ↔ _
  simp only [Option.map_eq_none_iff, List.find?_eq_none, beq_iff_eq, ne_eq]

end members

/-- **The first occurrence of a name wins**, in every object of every tree that a reader returns.

1. A member is marked as repeated just if an earlier member of the object has its name.
2. The properties are members in the order of the text, no two with one name, and one for every
   name.
3. A name that some member has stands for the value of the one property with this name.
4. A name that no member has stands for nothing. -/
theorem first_occurrence_wins {text : String} {count : Nat} {root : Node} {span : Span}
    {ms : List Property} (h : .ok root ∈ (Reader.ofString text).readMany count)
    (hobject : root.Contains (.object span ms)) :
    let object := Node.object span ms
    (∀ before m behind, ms = before ++ m :: behind →
      (m.repeated = true ↔ ∃ earlier ∈ before, earlier.name = m.name)) ∧
    (object.properties.Sublist ms ∧ ms.Pairwise (·.value.span.stop ≤ ·.nameSpan.offset) ∧
      object.properties.Pairwise (·.name ≠ ·.name) ∧
      ∀ m ∈ ms, ∃ p ∈ object.properties, p.name = m.name) ∧
    (∀ name, (∃ m ∈ ms, m.name = name) →
      ∃ p, (∀ q, q ∈ object.properties ∧ q.name = name ↔ q = p) ∧ object.get? name = some p.value) ∧
    ∀ name, object.get? name = none ↔ ∀ m ∈ ms, m.name ≠ name := by
  obtain ⟨us, hwithin, hderives⟩ := elementIn_of_mem_readMany h hobject
  have hmarked : RepetitionsMarked ms := repetitionsMarked_of_derives hderives
  have hlaid :=
    laidOut_of_derives hderives ((inOrder_significantTokens text).sublist hwithin.sublist)
  refine ⟨fun _ _ _ => hmarked.repeated_iff, ⟨List.filter_sublist, (hlaid.members ms rfl).2,
    List.pairwise_map.1 hmarked.nodup_properties, fun _ => hmarked.exists_property⟩, ?_,
    fun _ => get?_object_eq_none_iff⟩
  rintro _ ⟨m, hm, rfl⟩
  obtain ⟨p, hp, hname⟩ := @RepetitionsMarked.exists_property span ms m hmarked hm
  refine ⟨p, fun q => ⟨fun hq => ?_, fun hq => hq ▸ ⟨hp, hname⟩⟩, hname ▸ hmarked.get?_of_mem hp⟩
  exact hmarked.eq_of_name_eq hq.1 hp (hq.2.trans hname.symm)

/-- Two documents behind a fault: the reader stops in front of the second brace and goes on there.
In the object that it then returns a name is spelled in four ways. -/
def respelledText : String :=
  "\x7b \x7ba: \x7bb: null, b: true\x7d, 'a': true, \"a\": false, \"\\u0061\": null, c: true\x7d"

/-- The object inside the one in `respelledText`. -/
def respelledInner : List Property :=
  [⟨"b", ⟨7, 1⟩, .null ⟨10, 4⟩, false⟩, ⟨"b", ⟨16, 1⟩, .boolean ⟨19, 4⟩ true, true⟩]

/-- The members of the object in `respelledText`. -/
def respelledMembers : List Property :=
  [⟨"a", ⟨3, 1⟩, .object ⟨6, 18⟩ respelledInner, false⟩,
    ⟨"a", ⟨26, 3⟩, .boolean ⟨31, 4⟩ true, true⟩, ⟨"a", ⟨37, 3⟩, .boolean ⟨42, 5⟩ false, true⟩,
    ⟨"a", ⟨49, 8⟩, .null ⟨59, 4⟩, true⟩, ⟨"c", ⟨65, 1⟩, .boolean ⟨68, 4⟩ true, false⟩]

theorem first_occurrence_wins_respelledText :
    let root := Node.object ⟨2, 71⟩ respelledMembers
    .ok root ∈ (Reader.ofString respelledText).readMany 2 ∧ root.Contains root ∧
      (∃ p, (∀ q, q ∈ root.properties ∧ q.name = "a" ↔ q = p) ∧ root.get? "a" = some p.value) ∧
      root.get? "b" = none := by
  intro root
  have hread : .ok root ∈ (Reader.ofString respelledText).readMany 2 := by
    have hsecond : ((Reader.ofString respelledText).readMany 2)[1]? = some (.ok root) := by
      set_option maxRecDepth 8000 in with_unfolding_all rfl
    exact List.mem_of_getElem? hsecond
  obtain ⟨-, -, hfound, hnone⟩ := first_occurrence_wins hread (.self root)
  exact ⟨hread, .self root, hfound "a" ⟨_, List.mem_cons_self, rfl⟩, (hnone "b").2 (by decide)⟩

end Phrasebook
