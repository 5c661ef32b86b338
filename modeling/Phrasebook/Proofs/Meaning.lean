import Mathlib.Logic.Relation
import Phrasebook.Proofs.Lockstep
import Phrasebook.Proofs.Places

/-!
# Phrasebook.Proofs.Meaning

What a document means for its check.

Two documents have the same meaning if their trees become equal in these steps:

1. members whose name an earlier one has are left out, at every depth, and so are all spans
   (`Node.bare`);
2. of the root only the metadata and the two sections are kept, and of the metadata only the version
   and the languages (`Node.essence`);
3. the members of the root, and those of the metadata, are put into another order
   (`Node.Rearranges`).

Documents with the same meaning give one book, and the same diagnostics at other places.  Looking a
name up finds the first member with it, also where a later one is left out; and where names are
distinct, it does not depend on their order.
-/

namespace Phrasebook

/-! ## bare trees -/

/-- A number without the sign of zero: the two zeros are equal numbers. -/
def Binary64.withoutZeroSign (x : Binary64) : Binary64 :=
  if x.bits.toNat = signBit then ⟨0⟩ else x

/-- The span of what has no place. -/
def Span.nowhere : Span := ⟨0, 0⟩

mutual

/-- A node without its spans and without members whose name an earlier one has. -/
def Node.bare : Node → Node
  | .string _ value => .string .nowhere value
  | .number _ value => .number .nowhere value.withoutZeroSign
  | .boolean _ value => .boolean .nowhere value
  | .null _ => .null .nowhere
  | .object _ members => .object .nowhere (bareMembers members)
  | .array _ elements => .array .nowhere (bareElements elements)

/-- Members without their spans, and without those whose name an earlier one has. -/
def bareMembers : List Property → List Property
  | [] => []
  | m :: rest =>
    (if m.repeated then [] else [⟨m.name, .nowhere, m.value.bare, false⟩]) ++ bareMembers rest

/-- Elements without their spans. -/
def bareElements : List Node → List Node
  | [] => []
  | n :: rest => n.bare :: bareElements rest

end

/-- A member without its spans. -/
def Member.bare (m : Property) : Property := ⟨m.name, .nowhere, m.value.bare, false⟩

theorem bareMembers_eq (ms : List Property) :
    bareMembers ms = (ms.filter (!·.repeated)).map Member.bare := by
  induction ms with
  | nil => rfl
  | cons m rest ih =>
      rw [bareMembers, ih]
      cases hrepeated : m.repeated with
      | true => simp [hrepeated]
      | false => simp [hrepeated, Member.bare]

theorem bareElements_eq (ns : List Node) : bareElements ns = ns.map Node.bare := by
  induction ns with
  | nil => rfl
  | cons n rest ih => rw [bareElements, ih, List.map_cons]

@[simp] theorem text?_bare (n : Node) : n.bare.text? = n.text? := by
  cases n <;> rfl

@[simp] theorem isObject_bare (n : Node) : n.bare.isObject = n.isObject := by
  cases n <;> rfl

@[simp] theorem typeName_bare (n : Node) : n.bare.typeName = n.typeName := by
  cases n <;> rfl

@[simp] theorem elements?_bare (n : Node) :
    n.bare.elements? = n.elements?.map (·.map Node.bare) := by
  cases n with
  | array span elements => exact congrArg some (bareElements_eq elements)
  | _ => rfl

@[simp] theorem properties_bare (n : Node) : n.bare.properties = n.properties.map Member.bare := by
  cases n with
  | object span members =>
      show (bareMembers members).filter _ = _
      rw [bareMembers_eq, List.filter_eq_self.2 (List.forall_mem_map.2 fun _ _ => rfl)]
      rfl
  | _ => rfl

/-! ## looking names up -/

section lookup

variable {ms ns : List Property} {span : Span} {name : String} {names : List String}

theorem get?_object (span : Span) (ms : List Property) (name : String) :
    (Node.object span ms).get? name = (ms.find? (·.name == name)).map (·.value) := rfl

/-- Objects in which repetitions are marked. -/
def Node.Marked (n : Node) : Prop := ∀ span ms, n = .object span ms → RepetitionsMarked ms

/-- A name stands for the same value in the bare tree. -/
theorem get?_bare {n : Node} (h : n.Marked) (name : String) :
    n.bare.get? name = (n.get? name).map Node.bare := by
  cases n with
  | object span ms =>
      rw [Node.bare, get?_object, get?_object, bareMembers_eq,
        (h span ms rfl).filter_eq, List.find?_map]
      show Option.map _ (Option.map _ ((distinctOn _ ms).find? (·.name == name))) = _
      rw [find?_distinctOn, Option.map_map, Option.map_map]
      rfl
  | _ => rfl

/-- An object with those members only that have one of these names. -/
def Node.only (names : List String) : Node → Node
  | .object span members => .object span (members.filter fun m => names.contains m.name)
  | n => n

@[simp] theorem isObject_only (names : List String) (n : Node) :
    (n.only names).isObject = n.isObject := by
  cases n <;> rfl

theorem get?_only (hname : name ∈ names) (n : Node) : (n.only names).get? name = n.get? name := by
  cases n with
  | object span ms =>
      have hsame : (fun m : Property =>
            decide ((names.contains m.name = true) ∧ (m.name == name) = true)) =
          fun m => m.name == name := by
        funext m
        by_cases hm : m.name = name
        · simp [hm, hname]
        · simp [hm]
      rw [Node.only, get?_object, get?_object, List.find?_filter, hsame]
  | _ => rfl

end lookup

/-! ## the same meaning -/

/-- Metadata with nothing but the version and the languages. -/
def Member.essence (m : Property) : Property :=
  if m.name = "metadata" then { m with value := m.value.only ["version", "languages"] } else m

/-- What a check reads of the root of a document. -/
def Node.essence (root : Node) : Node :=
  match root.bare.only ["metadata", "phrases", "nouns"] with
  | .object span members => .object span (members.map Member.essence)
  | n => n

/-- The members of a root, or those of its metadata, in another order. -/
inductive Node.Rearranges : Node → Node → Prop where
  | root {span : Span} {ms ns : List Property} : ms.Perm ns →
      Rearranges (.object span ms) (.object span ns)
  | metadata {span inner : Span} {before behind ms ns : List Property} {m : Property} :
      m.name = "metadata" → m.value = .object inner ms → ms.Perm ns →
      Rearranges (.object span (before ++ m :: behind))
        (.object span (before ++ { m with value := .object inner ns } :: behind))

/-- Two documents mean the same if what a check reads of them is equal but for the order. -/
def Node.SameMeaning (root root' : Node) : Prop :=
  Relation.ReflTransGen Node.Rearranges root.essence root'.essence

/-! ## what is found in a document -/

/-- What a check finds in metadata: whether they are an object, the version and the languages. -/
def Node.headline (n : Node) : Bool × Option Node × Option Node :=
  (n.isObject, n.get? "version", n.get? "languages")

/-- What a check finds in a root: the metadata and the two sections. -/
def Node.found (root : Node) :
    Option (Bool × Option Node × Option Node) × Option Node × Option Node :=
  ((root.get? "metadata").map Node.headline, root.get? "phrases", root.get? "nouns")

/-- A node that is no object with two members of one name. -/
def Node.Distinct (n : Node) : Prop := ∀ ms, n.members? = some ms → (ms.map (·.name)).Nodup

/-- A root that has no two members of one name, and whose metadata have none. -/
structure Node.Unambiguous (root : Node) : Prop where
  distinct : root.Distinct
  metadata : ∀ ms, root.members? = some ms → ∀ m ∈ ms, m.name = "metadata" → m.value.Distinct

section rearranges

variable {a b : Node} {span inner : Span} {before behind ms ns : List Property}
  {m : Property} {name : String}

theorem get?_object_perm (hperm : ms.Perm ns) (hdistinct : (ms.map (·.name)).Nodup)
    (name : String) : (Node.object span ms).get? name = (Node.object span ns).get? name := by
  rw [get?_object, get?_object, find?_key_eq_of_perm hperm hdistinct]

theorem headline_perm (hperm : ms.Perm ns) (hdistinct : (ms.map (·.name)).Nodup) :
    (Node.object span ms).headline = (Node.object span ns).headline := by
  rw [Node.headline, Node.headline, get?_object_perm hperm hdistinct,
    get?_object_perm hperm hdistinct]
  rfl

/-- A value found under one name is not that of a member with another name. -/
theorem get?_replace_of_ne (hname : m.name ≠ name) (v : Node) :
    (Node.object span (before ++ { m with value := v } :: behind)).get? name =
      (Node.object span (before ++ m :: behind)).get? name := by
  have hm : (m.name == name) = false := beq_eq_false_iff_ne.2 hname
  rw [get?_object, get?_object, List.find?_append, List.find?_append,
    List.find?_cons, List.find?_cons, hm]

/-- Replacing a value by one that gives the same leaves what is found the same. -/
theorem map_get?_replace {α : Type} {f : Node → α} {v : Node}
    (hf : f m.value = f v) (name : String) :
    ((Node.object span (before ++ m :: behind)).get? name).map f =
      ((Node.object span (before ++ { m with value := v } :: behind)).get? name).map f := by
  rw [get?_object, get?_object, List.find?_append, List.find?_append,
    List.find?_cons, List.find?_cons]
  cases before.find? (·.name == name) with
  | some first => rfl
  | none =>
      cases m.name == name with
      | false => rfl
      | true => exact congrArg some hf

/-- One rearrangement changes nothing of what is found. -/
theorem found_of_rearranges (h : a.Rearranges b) (ha : a.Unambiguous) : a.found = b.found := by
  cases h with
  | @root span ms ns hperm =>
      have hget (name : String) :
          (Node.object span ms).get? name = (Node.object span ns).get? name :=
        get?_object_perm hperm (ha.distinct ms rfl) name
      rw [Node.found, Node.found, hget, hget, hget]
  | @metadata span inner before behind ms ns m hname hvalue hperm =>
      have hdistinct := ha.metadata _ rfl m (by simp) hname
      rw [hvalue] at hdistinct
      have hheadline : m.value.headline = (Node.object inner ns).headline := by
        rw [hvalue]
        exact headline_perm hperm (hdistinct ms rfl)
      have hphrases : m.name ≠ "phrases" := by simp [hname]
      have hnouns : m.name ≠ "nouns" := by simp [hname]
      rw [Node.found, Node.found, map_get?_replace hheadline,
        get?_replace_of_ne hphrases (.object inner ns),
        get?_replace_of_ne hnouns (.object inner ns)]

/-- A rearrangement leaves names distinct. -/
theorem unambiguous_of_rearranges (h : a.Rearranges b) (ha : a.Unambiguous) : b.Unambiguous := by
  cases h with
  | @root span ms ns hperm =>
      have hnames := (hperm.map (·.name)).nodup_iff.1 (ha.distinct ms rfl)
      refine ⟨fun ms' hms' => ?_, fun ms' hms' m hm => ?_⟩
      · cases hms'
        exact hnames
      · cases hms'
        exact ha.metadata ms rfl m (hperm.mem_iff.2 hm)
  | @metadata span inner before behind ms ns m hname hvalue hperm =>
      have hdistinct := ha.metadata _ rfl m (by simp) hname
      rw [hvalue] at hdistinct
      refine ⟨fun ms' hms' => ?_, fun ms' hms' m' hm' hname' => ?_⟩
      · cases hms'
        have hnames := ha.distinct _ rfl
        rw [List.map_append, List.map_cons] at hnames ⊢
        exact hnames
      · cases hms'
        obtain hbefore | rfl | hbehind :
            m' ∈ before ∨ m' = { m with value := .object inner ns } ∨ m' ∈ behind := by
          simpa using hm'
        · exact ha.metadata _ rfl m' (by simp [hbefore]) hname'
        · intro us hus
          cases hus
          exact (hperm.map (·.name)).nodup_iff.1 (hdistinct ms rfl)
        · exact ha.metadata _ rfl m' (by simp [hbehind]) hname'

/-- Any number of rearrangements changes nothing of what is found. -/
theorem found_of_reflTransGen (h : Relation.ReflTransGen Node.Rearranges a b) (ha : a.Unambiguous) :
    a.found = b.found := by
  have hboth : a.found = b.found ∧ b.Unambiguous := by
    induction h with
    | refl => exact ⟨rfl, ha⟩
    | tail _ hstep ih =>
        obtain ⟨hfound, hunambiguous⟩ := ih
        exact ⟨hfound.trans (found_of_rearranges hstep hunambiguous),
          unambiguous_of_rearranges hstep hunambiguous⟩
  exact hboth.1

end rearranges

/-! ## what is found in the essence -/

/-- What a check finds in metadata, without spans. -/
def Node.bareHeadline (n : Node) : Bool × Option Node × Option Node :=
  (n.isObject, (n.get? "version").map Node.bare, (n.get? "languages").map Node.bare)

section essence

variable {root : Node}

@[simp] theorem name_essence (m : Property) : m.essence.name = m.name := by
  unfold Member.essence
  split <;> rfl

theorem members?_essence (root : Node) :
    root.essence.members? =
      (root.bare.only ["metadata", "phrases", "nouns"]).members?.map (·.map Member.essence) := by
  unfold Node.essence
  cases root.bare.only ["metadata", "phrases", "nouns"] <;> rfl

/-- In the essence a name stands for what it stands for in the bare tree, the metadata for what is
kept of them. -/
theorem get?_essence {name : String} (hname : name ∈ ["metadata", "phrases", "nouns"])
    (root : Node) :
    root.essence.get? name =
      (root.bare.get? name).map
        fun v => if name = "metadata" then v.only ["version", "languages"] else v := by
  rw [← get?_only hname root.bare, Node.get?, Node.get?, members?_essence]
  cases (root.bare.only ["metadata", "phrases", "nouns"]).members? with
  | none => rfl
  | some ms =>
      show Option.map _ ((ms.map Member.essence).find? _) = Option.map _ (Option.map _ (ms.find? _))
      rw [List.find?_map]
      have hsame : ((fun m : Property => m.name == name) ∘ Member.essence) =
          fun m => m.name == name := by
        funext m
        simp
      rw [hsame]
      cases hfind : ms.find? (·.name == name) with
      | none => rfl
      | some m =>
          have hm : m.name = name := by simpa using List.find?_some hfind
          simp only [Option.map_some, Member.essence, hm]
          split <;> rfl

theorem marked_of_contains {text : String} {n : Node} (h : readDocument text = .ok root)
    (hn : root.Contains n) : n.Marked := by
  rintro span ms rfl
  exact repetitionsMarked_of_contains h hn

theorem headline_only_bare {node : Node} (h : node.Marked) :
    (node.bare.only ["version", "languages"]).headline = node.bareHeadline := by
  have hversion : "version" ∈ ["version", "languages"] := by simp
  have hlanguages : "languages" ∈ ["version", "languages"] := by simp
  rw [Node.headline, Node.bareHeadline, isObject_only, isObject_bare, get?_only hversion,
    get?_only hlanguages, get?_bare h, get?_bare h]

/-- What is found in the essence of a document is what is found in the document, without spans. -/
theorem found_essence {text : String} (h : readDocument text = .ok root) :
    root.essence.found = ((root.get? "metadata").map Node.bareHeadline,
      (root.get? "phrases").map Node.bare, (root.get? "nouns").map Node.bare) := by
  have hmarked := marked_of_contains h (.self root)
  have hmetadata : (root.essence.get? "metadata").map Node.headline =
      (root.get? "metadata").map Node.bareHeadline := by
    rw [get?_essence (by simp), get?_bare hmarked]
    cases hnode : root.get? "metadata" with
    | none => rfl
    | some node =>
        have hinner := marked_of_contains h (contains_of_get? hnode)
        exact congrArg some (headline_only_bare hinner)
  have hphrases : root.essence.get? "phrases" = (root.get? "phrases").map Node.bare := by
    rw [get?_essence (by simp), get?_bare hmarked]
    exact Option.map_id'
  have hnouns : root.essence.get? "nouns" = (root.get? "nouns").map Node.bare := by
    rw [get?_essence (by simp), get?_bare hmarked]
    exact Option.map_id'
  rw [Node.found, hmetadata, hphrases, hnouns]

theorem distinct_bare {n : Node} (h : n.Marked) : n.bare.Distinct := by
  intro ms hms
  cases n with
  | object span members =>
      cases hms
      rw [bareMembers_eq, (h span members rfl).filter_eq, List.map_map]
      show ((distinctOn _ members).map (·.name)).Nodup
      rw [map_distinctOn]
      exact nodup_distinct _
  | _ => cases hms

theorem Node.Distinct.only {n : Node} (h : n.Distinct) (names : List String) :
    (n.only names).Distinct := by
  intro ms hms
  cases n with
  | object span members =>
      cases hms
      exact (h members rfl).sublist (List.filter_sublist.map _)
  | _ => cases hms

/-- A value in the bare tree of a document has no two members of one name. -/
theorem distinct_of_mem_members_bare {text : String} {ms : List Property} {m : Property}
    (h : readDocument text = .ok root) (hms : root.bare.members? = some ms) (hm : m ∈ ms) :
    m.value.Distinct := by
  cases root with
  | object span members =>
      cases hms
      rw [bareMembers_eq] at hm
      obtain ⟨o, ho, rfl⟩ := List.mem_map.1 hm
      have hcontains : (Node.object span members).Contains o.value :=
        .member (List.mem_filter.1 ho).1 (.self _)
      exact distinct_bare (marked_of_contains h hcontains)
  | _ => cases hms

theorem subset_of_members?_only {n : Node} {names : List String} {ms : List Property}
    (h : (n.only names).members? = some ms) : ∃ us, n.members? = some us ∧ ms ⊆ us := by
  cases n with
  | object span us =>
      cases h
      exact ⟨us, rfl, List.filter_subset_self us⟩
  | _ => cases h

/-- The essence of a document has no two members of one name. -/
theorem unambiguous_essence {text : String} (h : readDocument text = .ok root) :
    root.essence.Unambiguous := by
  have hroot := (distinct_bare (marked_of_contains h (.self root))).only
    ["metadata", "phrases", "nouns"]
  refine ⟨fun ms hms => ?_, fun ms hms m hm hname => ?_⟩
  · rw [members?_essence] at hms
    obtain ⟨us, hus, rfl⟩ := Option.map_eq_some_iff.1 hms
    have hnames : us.map (fun m => m.essence.name) = us.map (·.name) :=
      List.map_congr_left fun m _ => name_essence m
    rw [List.map_map]
    show (us.map fun m => m.essence.name).Nodup
    rw [hnames]
    exact hroot us hus
  · rw [members?_essence] at hms
    obtain ⟨us, hus, rfl⟩ := Option.map_eq_some_iff.1 hms
    obtain ⟨u, hu, rfl⟩ := List.mem_map.1 hm
    obtain ⟨vs, hvs, hsubset⟩ := subset_of_members?_only hus
    rw [name_essence] at hname
    have hvalue : u.essence.value = u.value.only ["version", "languages"] := by
      rw [Member.essence, if_pos hname]
    rw [hvalue]
    exact (distinct_of_mem_members_bare h hvs (hsubset hu)).only _

end essence

/-! ## documents of one meaning -/

/-- A diagnostic that quotes from the text of its document: it is about a declared language that is
no string. -/
def Node.Quotes (root : Node) (d : Diagnostic) : Prop :=
  d.code = .invalidLanguage ∧ ∃ node elements element, root.Declares node elements ∧
    element ∈ elements ∧
    element.text? = none ∧ d.span = element.span

/-- Diagnostics of two documents that say the same, at whatever places.  Only where both quote from
their texts the messages may differ. -/
structure SaysSame (root root' : Node) (d d' : Diagnostic) : Prop where
  code : d.code = d'.code
  severity : d.severity = d'.severity
  message : d.message = d'.message ∨ root.Quotes d ∧ root'.Quotes d'

theorem forall₂_of_map_eq {α β γ : Type} {f : α → γ} {g : β → γ} {as : List α} {bs : List β}
    (h : as.map f = bs.map g) : List.Forall₂ (fun a b => f a = g b) as bs := by
  rw [← List.forall₂_map_left_iff (R := fun c b => c = g b),
    ← List.forall₂_map_right_iff (R := Eq), h]
  exact List.forall₂_same.2 fun _ _ => rfl

theorem rel_of_map_eq {α β γ : Type} {f : α → γ} {g : β → γ} {a? : Option α} {b? : Option β}
    (h : a?.map f = b?.map g) : Option.Rel (fun a b => f a = g b) a? b? := by
  cases a? with
  | none =>
      cases b? with
      | none => exact .none
      | some b => cases h
  | some a =>
      cases b? with
      | none => cases h
      | some b => exact .some (Option.some.inj h)

theorem rel_mono {α β : Type} {R T : α → β → Prop} {a? : Option α} {b? : Option β}
    (hRT : ∀ a b, R a b → T a b) (h : Option.Rel R a? b?) : Option.Rel T a? b? := by
  cases h with
  | none => exact .none
  | some hab => exact .some (hRT _ _ hab)

/-- Nodes with one bare tree, at whatever places, in sinks that say the same. -/
def sameBare (root root' : Node) : Likeness where
  spans _ _ := True
  nodes m n := m.bare = n.bare
  sinks x y := List.Forall₂ (SaysSame root root') x.diagnostics y.diagnostics
  span _ := trivial
  text? {m n} h := by rw [← text?_bare m, h, text?_bare]
  isObject {m n} h := by rw [← isObject_bare m, h, isObject_bare]
  typeName {m n} h := by rw [← typeName_bare m, h, typeName_bare]
  elements? {m n} h := by
    have helements := congrArg Node.elements? h
    rw [elements?_bare, elements?_bare] at helements
    exact rel_mono (fun _ _ => forall₂_of_map_eq) (rel_of_map_eq helements)
  properties {m n} h := by
    have hproperties := congrArg Node.properties h
    rw [properties_bare, properties_bare] at hproperties
    refine (forall₂_of_map_eq hproperties).imp fun p q hpq => ?_
    have hname := congrArg Member.name hpq
    have hvalue := congrArg Member.value hpq
    exact ⟨hname, trivial, hvalue⟩
  report problem hs _ := by
    refine List.rel_append hs ?_
    exact .cons ⟨rfl, rfl, .inl rfl⟩ .nil
  log es fs hs := by
    simp only [Sink.extend, List.append_nil]
    exact hs

section meaning

variable {text text' : String} {root root' : Node}

/-- What quotes from both texts need not say the same. -/
theorem quotesAlike_sameBare {node node' : Node} {as bs : List Node} (h : root.Declares node as)
    (h' : root'.Declares node' bs) : (sameBare root root').QuotesAlike as bs := by
  intro a ha b hb hab htext
  have htext' : b.text? = none := ((sameBare root root').text? hab).symm.trans htext
  intro x y hs
  unfold languageOf
  rw [htext, htext']
  refine ⟨rfl, List.rel_append hs (.cons ⟨rfl, rfl, .inr ⟨⟨rfl, ?_⟩, rfl, ?_⟩⟩ .nil)⟩
  · exact ⟨node, as, a, h, ha, htext, rfl⟩
  · exact ⟨node', bs, b, h', hb, htext', rfl⟩

theorem roots_of_sameMeaning (h : readDocument text = .ok root)
    (h' : readDocument text' = .ok root') (hsame : root.SameMeaning root') :
    (sameBare root root').Roots root root' := by
  have hfound := found_of_reflTransGen hsame (unambiguous_essence h)
  rw [found_essence h, found_essence h', Prod.mk.injEq, Prod.mk.injEq] at hfound
  obtain ⟨hmetadata, hphrases, hnouns⟩ := hfound
  refine ⟨trivial, ?_, fun entries => ?_, quotesAlike_sameBare⟩
  · refine rel_mono (fun v w hvw => ?_) (rel_of_map_eq hmetadata)
    rw [Node.bareHeadline, Node.bareHeadline, Prod.mk.injEq, Prod.mk.injEq] at hvw
    obtain ⟨hobject, hversion, hlanguages⟩ := hvw
    exact ⟨trivial, hobject, rel_of_map_eq hversion, rel_of_map_eq hlanguages⟩
  · cases entries with
    | phrases => exact rel_of_map_eq hphrases
    | nouns => exact rel_of_map_eq hnouns

/-- **The outcome depends on the meaning of a document, not on its layout**: where repeated names
are tolerated, two documents of one meaning give one book, and diagnostics that say the same one by
one. -/
theorem outcome_of_sameMeaning (fileId : String) (options : Options)
    (h : readDocument text = .ok root) (h' : readDocument text' = .ok root')
    (hsame : root.SameMeaning root') (hfirst : options.duplicateKeys = .firstWins) :
    (validate text fileId options).data = (validate text' fileId options).data ∧
      List.Forall₂ (SaysSame root root') (validate text fileId options).diagnostics
        (validate text' fileId options).diagnostics := by
  have hrepetitions : (sameBare root root').RepetitionsAlike options root root' := fun hreject => by
    rw [hfirst] at hreject
    cases hreject
  have hparallel :=
    Likeness.parallel_checkRoot options false (roots_of_sameMeaning h h' hsame) hrepetitions
  have hsinks : (sameBare root root').sinks (.ofString text fileId) (.ofString text' fileId) := .nil
  obtain ⟨hdata, x, y, hdiagnostics, hx, hy⟩ := Likeness.outcomes_of_parallel h h' hsinks hparallel
  rw [← hx, ← hy]
  exact ⟨hdata, hdiagnostics⟩

end meaning

/-- A document with a language that is no string. -/
def plainText : String :=
  "\x7bmetadata:\x7blanguages:['de',[]],version:'1'\x7d,phrases:\x7bHi:\x7bde:'Hallo'\x7d\x7d\x7d"

/-- What `plainText` is read as. -/
def plainRoot : Node :=
  .object ⟨0, 70⟩
    [⟨"metadata", ⟨1, 8⟩,
        .object ⟨10, 33⟩
          [⟨"languages", ⟨11, 9⟩, .array ⟨21, 9⟩ [.string ⟨22, 4⟩ "de", .array ⟨27, 2⟩ []], false⟩,
            ⟨"version", ⟨31, 7⟩, .string ⟨39, 3⟩ "1", false⟩], false⟩,
      ⟨"phrases", ⟨44, 7⟩,
        .object ⟨52, 17⟩
          [⟨"Hi", ⟨53, 2⟩, .object ⟨56, 12⟩ [⟨"de", ⟨57, 2⟩, .string ⟨60, 7⟩ "Hallo", false⟩],
            false⟩],
        false⟩]

/-- The same document in another order, with a repeated and an unknown name. -/
def shuffledText : String :=
  "\x7bphrases:\x7b'Hi':\x7bde:'Hallo',de:[]\x7d\x7d,x:[]," ++
    "metadata:\x7bversion:'1',languages:['de',[ ]]\x7d\x7d"

/-- What `shuffledText` is read as. -/
def shuffledRoot : Node :=
  .object ⟨0, 84⟩
    [⟨"phrases", ⟨1, 7⟩,
        .object ⟨9, 25⟩
          [⟨"Hi", ⟨10, 4⟩,
              .object ⟨15, 18⟩
                [⟨"de", ⟨16, 2⟩, .string ⟨19, 7⟩ "Hallo", false⟩,
                  ⟨"de", ⟨27, 2⟩, .array ⟨30, 2⟩ [], true⟩],
              false⟩], false⟩,
      ⟨"x", ⟨35, 1⟩, .array ⟨37, 2⟩ [], false⟩,
      ⟨"metadata", ⟨40, 8⟩,
        .object ⟨49, 34⟩
          [⟨"version", ⟨50, 7⟩, .string ⟨58, 3⟩ "1", false⟩,
            ⟨"languages", ⟨62, 9⟩, .array ⟨72, 10⟩ [.string ⟨73, 4⟩ "de", .array ⟨78, 3⟩ []],
              false⟩], false⟩]

/-- The root is put into another order, and then the metadata. -/
theorem sameMeaning_plainRoot : plainRoot.SameMeaning shuffledRoot :=
  .head (.root (.swap _ _ _))
    (.single (@Node.Rearranges.metadata _ _ [_] _ _ _ _ rfl rfl (.swap _ _ _)))

theorem outcome_of_sameMeaning_plainText :
    readDocument plainText = .ok plainRoot ∧ readDocument shuffledText = .ok shuffledRoot ∧
      plainRoot.SameMeaning shuffledRoot ∧
      (validate plainText "book" {}).data = (validate shuffledText "book" {}).data ∧
      List.Forall₂ (SaysSame plainRoot shuffledRoot) (validate plainText "book" {}).diagnostics
        (validate shuffledText "book" {}).diagnostics := by
  have hplain : readDocument plainText = .ok plainRoot := by
    set_option maxRecDepth 4000 in with_unfolding_all rfl
  have hshuffled : readDocument shuffledText = .ok shuffledRoot := by
    set_option maxRecDepth 4000 in with_unfolding_all rfl
  exact ⟨hplain, hshuffled, sameMeaning_plainRoot,
    outcome_of_sameMeaning "book" {} hplain hshuffled sameMeaning_plainRoot rfl⟩

end Phrasebook
