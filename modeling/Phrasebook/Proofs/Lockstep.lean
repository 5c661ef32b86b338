import Mathlib.Data.List.Forall2
import Phrasebook.Proofs.Reports

/-!
# Phrasebook.Proofs.Lockstep

Two checks side by side.

Checks run in lockstep if from related sinks they come to related results and related sinks.
Lockstep composes, so that each check of a document is followed along its own definition.

A check looks at little of a document.  A `Likeness` says what two documents must have in common for
their checks to run in lockstep: which spans, nodes and sinks count as alike.  It leaves open how
much of spans and of sinks is compared, and asks nothing of the log.
-/

namespace Phrasebook

variable {α β γ δ : Type}

/-! ## lists side by side -/

section lists

variable {R : α → β → Prop} {as : List α} {bs : List β}

theorem eq_of_forall₂ {as bs : List α} (h : List.Forall₂ Eq as bs) : as = bs :=
  List.forall₂_eq_eq_eq (α := α) ▸ h

/-- Of two related options, both give something or neither does. -/
theorem rel_cases {a? : Option α} {b? : Option β} (h : Option.Rel R a? b?) :
    (a? = none ∧ b? = none) ∨ ∃ a b, a? = some a ∧ b? = some b ∧ R a b := by
  cases h with
  | none => exact .inl ⟨rfl, rfl⟩
  | some hab => exact .inr ⟨_, _, rfl, rfl, hab⟩

/-- Related lists have related first items of a kind. -/
theorem rel_find? {p : α → Bool} {q : β → Bool} (hpq : ∀ a b, R a b → p a = q b)
    (h : List.Forall₂ R as bs) : Option.Rel R (as.find? p) (bs.find? q) := by
  induction h with
  | nil => exact .none
  | @cons a b as bs hab _ ih =>
      have hhead := hpq a b hab
      cases hp : p a with
      | true =>
          rw [List.find?_cons_of_pos hp, List.find?_cons_of_pos (hhead ▸ hp)]
          exact .some hab
      | false =>
          rw [List.find?_cons_of_neg (by simp [hp]), List.find?_cons_of_neg (by simp [← hhead, hp])]
          exact ih

theorem rel_filter {p : α → Bool} {q : β → Bool} (hpq : ∀ a b, R a b → p a = q b)
    (h : List.Forall₂ R as bs) : List.Forall₂ R (as.filter p) (bs.filter q) :=
  List.rel_filter (fun a b hab => Bool.coe_iff_coe.2 (hpq a b hab)) h

theorem rel_distinctOn {key : α → String} {key' : β → String} (hkey : ∀ a b, R a b → key a = key' b)
    (h : List.Forall₂ R as bs) : List.Forall₂ R (distinctOn key as) (distinctOn key' bs) := by
  induction h with
  | nil => exact .nil
  | @cons a b as bs hab _ ih =>
      refine .cons hab (rel_filter (fun c d hcd => ?_) ih)
      rw [hkey a b hab, hkey c d hcd]

theorem map_eq_of_rel {f : α → γ} {g : β → γ} (hfg : ∀ a b, R a b → f a = g b)
    (h : List.Forall₂ R as bs) : as.map f = bs.map g :=
  eq_of_forall₂ (List.rel_map (fun a b hab => hfg a b hab) h)

theorem filterMap_eq_of_rel {f : α → Option γ} {g : β → Option γ} (hfg : ∀ a b, R a b → f a = g b)
    (h : List.Forall₂ R as bs) : as.filterMap f = bs.filterMap g := by
  refine eq_of_forall₂ (List.rel_filterMap (fun a b hab => ?_) h)
  rw [hfg a b hab]
  cases g b with
  | none => exact .none
  | some c => exact .some rfl

theorem mapM_eq_of_rel {f : α → Option γ} {g : β → Option γ} (hfg : ∀ a b, R a b → f a = g b)
    (h : List.Forall₂ R as bs) : as.mapM f = bs.mapM g := by
  induction h with
  | nil => rfl
  | @cons a b as bs hab _ ih => rw [List.mapM_cons, List.mapM_cons, hfg a b hab, ih]

theorem all_eq_of_rel {p : α → Bool} {q : β → Bool} (hpq : ∀ a b, R a b → p a = q b)
    (h : List.Forall₂ R as bs) : as.all p = bs.all q := by
  induction h with
  | nil => rfl
  | @cons a b as bs hab _ ih => rw [List.all_cons, List.all_cons, hpq a b hab, ih]

theorem isEmpty_eq_of_rel (h : List.Forall₂ R as bs) : as.isEmpty = bs.isEmpty := by
  cases h with
  | nil => rfl
  | cons _ _ => rfl

end lists

/-! ## checks in lockstep -/

/-- From related sinks, two checks come to related results and related sinks. -/
def Lockstep (S : Sink → Sink → Prop) (R : α → β → Prop) (c : Check α) (d : Check β) : Prop :=
  ∀ x y, S x y → R (c.run x).1 (d.run y).1 ∧ S (c.run x).2 (d.run y).2

section lockstep

variable {S : Sink → Sink → Prop} {R : α → β → Prop} {T : γ → δ → Prop}

theorem lockstep_pure {a : α} {b : β} (h : R a b) : Lockstep S R (pure a) (pure b) :=
  fun _ _ hs => ⟨h, hs⟩

theorem lockstep_get : Lockstep S S get get := fun _ _ hs => ⟨hs, hs⟩

theorem Lockstep.bind {c : Check α} {d : Check β} {f : α → Check γ} {g : β → Check δ}
    (hc : Lockstep S R c d) (hn : ∀ a b, R a b → Lockstep S T (f a) (g b)) :
    Lockstep S T (c >>= f) (d >>= g) := by
  intro x y hs
  obtain ⟨hresult, hsinks⟩ := hc x y hs
  rw [run_bind, run_bind]
  exact hn _ _ hresult _ _ hsinks

/-- Checks whose first parts come to one result. -/
theorem Lockstep.bind_eq {c d : Check α} {f : α → Check γ} {g : α → Check δ}
    (hc : Lockstep S Eq c d) (hn : ∀ a, Lockstep S T (f a) (g a)) :
    Lockstep S T (c >>= f) (d >>= g) := by
  refine hc.bind fun a b hab => ?_
  subst hab
  exact hn a

/-- Checks whose last parts only make something of one result. -/
theorem Lockstep.bind_pure {c d : Check α} {f : α → γ} (hc : Lockstep S Eq c d) :
    Lockstep S Eq (c >>= fun a => pure (f a)) (d >>= fun a => pure (f a)) :=
  hc.bind_eq fun _ => lockstep_pure rfl

/-- Checks with a first part that is left out on both sides or on neither. -/
theorem Lockstep.ite_bind {condition : Prop} [Decidable condition] {c d : Check Unit} {f : Check γ}
    {g : Check δ} (hc : condition → Lockstep S Eq c d) (hf : Lockstep S T f g) :
    Lockstep S T (if condition then c >>= fun _ => f else f)
      (if condition then d >>= fun _ => g else g) := by
  by_cases h : condition
  · rw [if_pos h, if_pos h]
    exact (hc h).bind_eq fun _ => hf
  · rw [if_neg h, if_neg h]
    exact hf

theorem lockstep_collect {as : List α} {bs : List β} {c : α → Check (Option γ)}
    {d : β → Check (Option γ)} (hcd : ∀ a ∈ as, ∀ b ∈ bs, R a b → Lockstep S Eq (c a) (d b))
    (h : List.Forall₂ R as bs) : Lockstep S Eq (collect c as) (collect d bs) := by
  induction h with
  | nil => exact lockstep_pure rfl
  | cons hab _ ih =>
      refine (hcd _ List.mem_cons_self _ List.mem_cons_self hab).bind_eq fun result => ?_
      have hrest := ih fun a ha b hb => hcd a (List.mem_cons_of_mem _ ha) b
        (List.mem_cons_of_mem _ hb)
      exact hrest.bind_eq fun results => lockstep_pure rfl

theorem lockstep_forEach {as : List α} {bs : List β} {c : α → Check Unit} {d : β → Check Unit}
    (hcd : ∀ a b, R a b → Lockstep S Eq (c a) (d b)) (h : List.Forall₂ R as bs) :
    Lockstep S Eq (forEach c as) (forEach d bs) := by
  induction h with
  | nil => exact lockstep_pure rfl
  | cons hab _ ih => exact (hcd _ _ hab).bind_eq fun _ => ih

/-- One list of items, checked on both sides. -/
theorem lockstep_forEach_same {as bs : List α} {c d : α → Check Unit} (has : as = bs)
    (h : ∀ a, Lockstep S Eq (c a) (d a)) : Lockstep S Eq (forEach c as) (forEach d bs) := by
  subst has
  exact lockstep_forEach (R := Eq) (fun a b hab => hab ▸ h a) (List.forall₂_same.2 fun _ _ => rfl)

end lockstep

/-! ## likeness -/

/-- Two members with one name, at alike places and with alike values. -/
structure Member.Alike (spans : Span → Span → Prop) (nodes : Node → Node → Prop) (p q : Property) :
    Prop where
  name : p.name = q.name
  nameSpan : spans p.nameSpan q.nameSpan
  value : nodes p.value q.value

/-- Which spans, nodes and sinks count as alike, where a check cannot tell alike nodes apart. -/
structure Likeness where
  spans : Span → Span → Prop
  nodes : Node → Node → Prop
  sinks : Sink → Sink → Prop
  span {m n : Node} : nodes m n → spans m.span n.span
  text? {m n : Node} : nodes m n → m.text? = n.text?
  isObject {m n : Node} : nodes m n → m.isObject = n.isObject
  typeName {m n : Node} : nodes m n → m.typeName = n.typeName
  elements? {m n : Node} : nodes m n → Option.Rel (List.Forall₂ nodes) m.elements? n.elements?
  properties {m n : Node} :
    nodes m n → List.Forall₂ (Member.Alike spans nodes) m.properties n.properties
  /-- Sinks stay alike when one problem is reported at alike places. -/
  report {x y : Sink} {p q : Span} (problem : Problem) : sinks x y → spans p q →
    sinks (x.extend [x.locate p problem] []) (y.extend [y.locate q problem] [])
  /-- Sinks stay alike whatever is logged. -/
  log {x y : Sink} (es fs : List LogEvent) : sinks x y → sinks (x.extend [] es) (y.extend [] fs)

namespace Likeness

variable (L : Likeness)

/-- Members that are alike. -/
abbrev Members (p q : Property) : Prop := p.Alike L.spans L.nodes q

/-- Translations that are alike. -/
structure Translations (t u : Translation α) : Prop where
  language : t.language = u.language
  node : L.nodes t.node u.node
  value : t.value = u.value

/-- A way of reading nodes that does not tell alike ones apart. -/
def Respects (read : Node → Option α) : Prop := ∀ {m n}, L.nodes m n → read m = read n

/-- Two checks that run in lockstep to one result. -/
abbrev Parallel (c d : Check α) : Prop := Lockstep L.sinks Eq c d

variable {L} {m n : Node} {p q : Span} {entry entry' : Property}
  {metadata : Metadata} {key : String}

theorem respects_text? : L.Respects Node.text? := L.text?

theorem respects_texts? : L.Respects texts? := by
  intro m n h
  unfold texts?
  obtain ⟨hm, hn⟩ | ⟨as, bs, hm, hn, hrel⟩ := rel_cases (L.elements? h)
  · rw [hm, hn]
  · rw [hm, hn]
    exact mapM_eq_of_rel (fun _ _ => L.text?) hrel

/-! ## reports -/

theorem parallel_reportAt (h : L.spans p q) (problem : Problem) :
    L.Parallel (reportAt p problem) (reportAt q problem) := by
  intro x y hs
  rw [run_reportAt, run_reportAt]
  exact ⟨rfl, L.report problem hs h⟩

theorem parallel_reportNode (h : L.nodes m n) (problem : Problem) :
    L.Parallel (reportNode m problem) (reportNode n problem) := parallel_reportAt (L.span h) problem

theorem parallel_reportName (h : L.Members entry entry') (problem : Problem) :
    L.Parallel (reportName entry problem) (reportName entry' problem) :=
  parallel_reportAt h.nameSpan problem

theorem parallel_logEvent (event event' : LogEvent) :
    L.Parallel (logEvent event) (logEvent event') := by
  intro x y hs
  rw [run_logEvent, run_logEvent]
  exact ⟨rfl, L.log [event] [event'] hs⟩

/-! ## entries -/

theorem rel_readTranslation? {read : Node → Option α} (hread : L.Respects read)
    (h : L.Members entry entry') :
    Option.Rel L.Translations (readTranslation? read entry) (readTranslation? read entry') := by
  unfold readTranslation?
  rw [hread h.value]
  cases read entry'.value with
  | none => exact .none
  | some value => exact .some ⟨congrArg Language.normalize h.name, h.value, rfl⟩

/-- Alike entries give alike translations, or are given up alike. -/
theorem lockstep_readTranslations {read : Node → Option α} (hread : L.Respects read)
    (expected : String) (h : L.Members entry entry') :
    Lockstep L.sinks (Option.Rel (List.Forall₂ L.Translations))
      (readTranslations expected read entry) (readTranslations expected read entry') := by
  have hproperties := L.properties h.value
  unfold readTranslations
  rw [L.isObject h.value]
  by_cases hobject : entry'.value.isObject = true
  · rw [if_pos hobject, if_pos hobject]
    have hfind : Option.Rel L.Members (entry.value.properties.find? fun p => (read p.value).isNone)
        (entry'.value.properties.find? fun p => (read p.value).isNone) :=
      rel_find? (fun a b hab => by rw [hread hab.value]) hproperties
    obtain ⟨hp, hq⟩ | ⟨p, q, hp, hq, hpq⟩ := rel_cases hfind
    · rw [hp, hq]
      refine lockstep_pure (.some (rel_distinctOn (fun _ _ ht => ht.language) ?_))
      exact List.rel_filterMap (fun _ _ hab => rel_readTranslation? hread hab) hproperties
    · simp only [hp, hq, hpq.name, h.name, L.typeName hpq.value]
      exact (parallel_reportNode hpq.value _).bind_eq fun _ => lockstep_pure .none
  · rw [if_neg hobject, if_neg hobject, h.name, L.typeName h.value]
    exact (parallel_reportNode h.value _).bind_eq fun _ => lockstep_pure .none

theorem parallel_entryKey (h : L.Members entry entry') :
    L.Parallel (entryKey entry) (entryKey entry') := by
  unfold entryKey
  rw [h.name]
  split
  next identifier _ =>
    exact Lockstep.ite_bind (fun _ => parallel_reportName h _) (lockstep_pure rfl)
  next => exact (parallel_reportName h _).bind_pure

theorem parallel_reportMissing (h : L.Members entry entry') (required : List String)
    {present present' : List String} (hpresent : present = present') :
    L.Parallel (reportMissing entry key required present)
      (reportMissing entry' key required present') := by
  subst hpresent
  exact lockstep_forEach_same rfl fun _ => parallel_reportNode h.value _

section translations

variable {ts us : List (Translation α)} {t u : Translation α}

theorem parallel_reportExtra (known : List String) (h : List.Forall₂ L.Translations ts us) :
    L.Parallel (reportExtra key known ts) (reportExtra key known us) := by
  refine lockstep_forEach (R := L.Translations) (fun t u htu => ?_)
    (rel_filter (fun t u htu => ?_) h)
  · rw [htu.language]
    exact parallel_reportNode htu.node _
  · rw [htu.language]

theorem languages_eq (h : List.Forall₂ L.Translations ts us) :
    (ts.map (·.language)) = us.map (·.language) := map_eq_of_rel (fun _ _ htu => htu.language) h

end translations

/-! ## phrases -/

theorem unknownArguments_eq {t u : Translation String} (arguments : List String)
    (h : L.Translations t u) :
    unknownArguments arguments t = unknownArguments arguments u := by
  rw [unknownArguments, unknownArguments, h.value]

theorem unusedArguments_eq {t u : Translation String} (arguments : List String)
    (h : L.Translations t u) :
    unusedArguments arguments t = unusedArguments arguments u := by
  rw [unusedArguments, unusedArguments, h.value]

theorem parallel_reportArguments {t u : Translation String} (arguments : List String)
    (h : L.Translations t u) :
    L.Parallel (reportArguments key arguments t) (reportArguments key arguments u) := by
  unfold reportArguments
  rw [h.language]
  refine Lockstep.bind_eq ?_ fun _ => ?_
  · exact lockstep_forEach_same (unknownArguments_eq arguments h) fun _ =>
      parallel_reportNode h.node _
  · exact lockstep_forEach_same (unusedArguments_eq arguments h) fun _ =>
      parallel_reportNode h.node _

theorem parallel_phraseOf {ts us : List (Translation String)} (h : L.Members entry entry')
    (hts : List.Forall₂ L.Translations ts us) :
    L.Parallel (phraseOf entry metadata ts key) (phraseOf entry' metadata us key) := by
  have hforeign : List.Forall₂ L.Translations (ts.filter fun t => t.language != Language.english)
      (us.filter fun t => t.language != Language.english) :=
    rel_filter (fun t u htu => by rw [htu.language]) hts
  unfold phraseOf
  rw [h.name]
  refine (parallel_reportMissing h _ (languages_eq hts)).bind_eq fun _ => ?_
  refine (parallel_reportExtra _ hforeign).bind_eq fun _ => ?_
  refine (lockstep_forEach (R := L.Translations) (fun t u htu => parallel_reportArguments _ htu)
    hforeign).bind_eq fun _ => ?_
  rw [all_eq_of_rel (fun t u htu => by rw [unknownArguments_eq _ htu]) hforeign]
  split
  · have htexts : (ts.map fun t => (t.language, t.value)) = us.map fun t => (t.language, t.value) :=
      map_eq_of_rel (fun t u htu => by rw [htu.language, htu.value]) hts
    refine lockstep_pure ?_
    rw [phraseTexts, phraseTexts, htexts]
  · exact (parallel_logEvent _ _).bind_pure

theorem parallel_validatePhrase (h : L.Members entry entry') :
    L.Parallel (validatePhrase entry metadata) (validatePhrase entry' metadata) := by
  refine (lockstep_readTranslations respects_text? _ h).bind fun ts us hts => ?_
  cases hts with
  | none => exact lockstep_pure rfl
  | some hts =>
      refine (parallel_entryKey h).bind_eq fun key => ?_
      cases key with
      | none => exact lockstep_pure rfl
      | some key => exact parallel_phraseOf h hts

/-! ## nouns -/

theorem forms?_eq {t u : Translation (List String)} (h : L.Translations t u) :
    forms? t = forms? u := by
  rw [forms?, forms?, h.value]

theorem parallel_nounOf {ts us : List (Translation (List String))} (h : L.Members entry entry')
    (hts : List.Forall₂ L.Translations ts us) :
    L.Parallel (nounOf entry metadata ts key) (nounOf entry' metadata us key) := by
  have hincomplete : List.Forall₂ L.Translations (ts.filter fun t => (forms? t).isNone)
      (us.filter fun t => (forms? t).isNone) :=
    rel_filter (fun t u htu => by rw [forms?_eq htu]) hts
  have hforms : (ts.filterMap fun t => (forms? t).map fun f => (t.language, f)) =
      us.filterMap fun t => (forms? t).map fun f => (t.language, f) :=
    filterMap_eq_of_rel (fun t u htu => by rw [forms?_eq htu, htu.language]) hts
  unfold nounOf
  refine (parallel_reportMissing h _ (languages_eq hts)).bind_eq fun _ => ?_
  refine (parallel_reportExtra _ hts).bind_eq fun _ => ?_
  refine (lockstep_forEach (R := L.Translations) (fun t u htu => ?_)
    hincomplete).bind_eq fun _ => ?_
  · rw [htu.language]
    exact parallel_reportNode htu.node _
  · rw [hforms]
    exact lockstep_pure rfl

theorem parallel_validateNoun (h : L.Members entry entry') :
    L.Parallel (validateNoun entry metadata) (validateNoun entry' metadata) := by
  refine (lockstep_readTranslations respects_texts? _ h).bind fun ts us hts => ?_
  cases hts with
  | none => exact lockstep_pure rfl
  | some hts =>
      refine (parallel_entryKey h).bind_eq fun key => ?_
      cases key with
      | none => exact lockstep_pure rfl
      | some key => exact (parallel_nounOf h hts).bind_pure

/-! ## metadata -/

variable (L) in
/-- Metadata that are alike in what a check reads of them. -/
structure Metadatas (m n : Node) : Prop where
  span : L.spans m.span n.span
  isObject : m.isObject = n.isObject
  version : Option.Rel L.nodes (m.get? "version") (n.get? "version")
  languages : Option.Rel L.nodes (m.get? "languages") (n.get? "languages")

/-- A value is looked up at alike places, or missing on both sides. -/
theorem span_getD {m? n? : Option Node} (h : L.spans m.span n.span)
    (hget : Option.Rel L.nodes m? n?) : L.spans (m?.getD m).span (n?.getD n).span := by
  cases hget with
  | none => exact h
  | some hvalue => exact L.span hvalue

theorem parallel_versionOf (h : L.Metadatas m n) : L.Parallel (versionOf m) (versionOf n) := by
  unfold versionOf
  obtain ⟨hm, hn⟩ | ⟨v, w, hm, hn, hvw⟩ := rel_cases h.version
  · rw [hm, hn]
    exact (parallel_reportAt h.span _).bind_pure
  · simp only [hm, hn, L.text? hvw]
    split
    · split
      · exact (parallel_reportNode hvw _).bind_pure
      · exact lockstep_pure rfl
    · exact (parallel_reportNode hvw _).bind_pure

/-- Only what is no string is quoted from its document. -/
theorem parallel_languageOf {code : String} (h : L.nodes m n) (htext : m.text? = some code) :
    L.Parallel (languageOf m) (languageOf n) := by
  unfold languageOf
  rw [← L.text? h, htext]
  simp only
  split
  · exact lockstep_pure rfl
  · refine (parallel_logEvent _ _).bind_eq fun _ => ?_
    exact (parallel_reportNode h _).bind_pure

variable (L) in
/-- Alike declared languages that are no strings are reported alike, although their texts are
quoted. -/
def QuotesAlike (as bs : List Node) : Prop :=
  ∀ a ∈ as, ∀ b ∈ bs, L.nodes a b → a.text? = none → L.Parallel (languageOf a) (languageOf b)

theorem parallel_languages {as bs : List Node} (h : List.Forall₂ L.nodes as bs)
    (hquotes : L.QuotesAlike as bs) :
    L.Parallel (collect languageOf as) (collect languageOf bs) := by
  refine lockstep_collect (fun a ha b hb hab => ?_) h
  cases htext : a.text? with
  | none => exact hquotes a ha b hb hab htext
  | some code => exact parallel_languageOf hab htext

theorem rel_elements (h : L.Metadatas m n) :
    Option.Rel (List.Forall₂ L.nodes) ((m.get? "languages").bind Node.elements?)
      ((n.get? "languages").bind Node.elements?) := by
  obtain ⟨hm, hn⟩ | ⟨v, w, hm, hn, hvw⟩ := rel_cases h.languages
  · rw [hm, hn]
    exact .none
  · rw [hm, hn]
    exact L.elements? hvw

theorem parallel_metadataOf (h : L.Metadatas m n)
    (hquotes : ∀ as bs, (m.get? "languages").bind Node.elements? = some as →
      (n.get? "languages").bind Node.elements? = some bs → L.QuotesAlike as bs) :
    L.Parallel (metadataOf m) (metadataOf n) := by
  unfold metadataOf
  refine (parallel_versionOf h).bind_eq fun version => ?_
  obtain ⟨hm, hn⟩ | ⟨as, bs, hm, hn, hrel⟩ := rel_cases (rel_elements h)
  · rw [hm, hn]
    exact (parallel_reportAt (span_getD h.span h.languages) _).bind_pure
  · rw [hm, hn]
    exact (parallel_languages hrel (hquotes as bs hm hn)).bind_pure

/-! ## roots -/

variable (L) in
/-- Roots that are alike in what a check reads of them. -/
structure Roots (root root' : Node) : Prop where
  span : L.spans root.span root'.span
  metadata : Option.Rel L.Metadatas (root.get? "metadata") (root'.get? "metadata")
  sections (entries : Section) : Option.Rel L.nodes (root.get? entries.name)
    (root'.get? entries.name)
  quotes {node node' : Node} {as bs : List Node} :
    root.Declares node as → root'.Declares node' bs → L.QuotesAlike as bs

variable {root root' : Node}

theorem parallel_validateMetadata (h : L.Roots root root') :
    L.Parallel (validateMetadata root) (validateMetadata root') := by
  unfold validateMetadata
  obtain ⟨hm, hn⟩ | ⟨v, w, hm, hn, hvw⟩ := rel_cases h.metadata
  · rw [hm, hn]
    exact (parallel_reportAt h.span _).bind_pure
  · simp only [hm, hn, hvw.isObject]
    by_cases hobject : w.isObject = true
    · rw [if_pos hobject, if_pos hobject]
      refine parallel_metadataOf hvw fun as bs has hbs => ?_
      exact h.quotes ⟨hm, hvw.isObject.trans hobject, has⟩ ⟨hn, hobject, hbs⟩
    · rw [if_neg hobject, if_neg hobject]
      exact (parallel_reportAt hvw.span _).bind_pure

theorem rel_sectionOf? (h : L.Roots root root') (entries : Section) :
    Option.Rel L.nodes (sectionOf? root entries) (sectionOf? root' entries) := by
  unfold sectionOf?
  obtain ⟨hm, hn⟩ | ⟨v, w, hm, hn, hvw⟩ := rel_cases (h.sections entries)
  · rw [hm, hn]
    exact .none
  · rw [hm, hn, Option.filter_some, Option.filter_some, L.isObject hvw]
    split
    · exact .some hvw
    · exact .none

theorem span_sectionPlace (h : L.Roots root root') (entries : Section) :
    L.spans (sectionPlace root entries).span (sectionPlace root' entries).span := by
  unfold sectionPlace
  obtain ⟨hm, hn⟩ | ⟨v, w, hm, hn, hvw⟩ := rel_cases (h.sections entries)
  · rw [hm, hn]
    exact h.span
  · rw [hm, hn]
    exact L.span hvw

theorem parallel_checkPhrase (h : L.Members entry entry') :
    L.Parallel (checkPhrase metadata entry) (checkPhrase metadata entry') := by
  refine (parallel_validatePhrase h).bind_eq fun phrase => ?_
  cases phrase with
  | some phrase => exact lockstep_pure rfl
  | none => exact (parallel_logEvent _ _).bind_pure

theorem parallel_reportCollision (h : L.Members entry entry')
    (phrases : List Phrase) (noun : Noun) :
    L.Parallel (reportCollision phrases entry noun) (reportCollision phrases entry' noun) := by
  unfold reportCollision
  split
  · exact parallel_reportName h _
  · exact lockstep_pure rfl

theorem parallel_checkNoun (h : L.Members entry entry') (options : Options)
    (phrases : List Phrase) :
    L.Parallel (checkNoun options metadata phrases entry)
      (checkNoun options metadata phrases entry') := by
  refine (parallel_validateNoun h).bind_eq fun noun => ?_
  cases noun with
  | none => exact (parallel_logEvent _ _).bind_pure
  | some noun =>
      exact Lockstep.ite_bind (fun _ => parallel_reportCollision h phrases noun) (lockstep_pure rfl)

theorem parallel_checkEntries {check check' : Property → Check (Option α)}
    (hcheck : ∀ p q, L.Members p q → L.Parallel (check p) (check' q)) (cancel : Bool)
    (entries : Section) (h : L.nodes m n) :
    L.Parallel (checkEntries cancel entries m check) (checkEntries cancel entries n check') := by
  have hproperties := L.properties h
  unfold checkEntries
  rw [isEmpty_eq_of_rel hproperties]
  split
  · exact (parallel_logEvent _ _).bind_pure
  · refine (lockstep_collect (fun p _ q _ hpq => hcheck p q hpq) hproperties).bind_eq fun _ => ?_
    exact lockstep_pure rfl

theorem parallel_checkPhrases (h : L.Roots root root') (cancel : Bool) :
    L.Parallel (checkPhrases cancel root metadata) (checkPhrases cancel root' metadata) := by
  unfold checkPhrases
  obtain ⟨hm, hn⟩ | ⟨v, w, hm, hn, hvw⟩ := rel_cases (rel_sectionOf? h .phrases)
  · rw [hm, hn]
    exact (parallel_reportAt (span_sectionPlace h .phrases) _).bind_pure
  · rw [hm, hn]
    exact parallel_checkEntries (fun _ _ => parallel_checkPhrase) cancel .phrases hvw

theorem parallel_checkNouns (h : L.Roots root root') (options : Options) (cancel : Bool)
    (phrases : List Phrase) :
    L.Parallel (checkNouns options cancel root metadata phrases)
      (checkNouns options cancel root' metadata phrases) := by
  unfold checkNouns
  obtain ⟨hm, hn⟩ | ⟨v, w, hm, hn, hvw⟩ := rel_cases (rel_sectionOf? h .nouns)
  · rw [hm, hn]
    exact Lockstep.ite_bind (fun _ => parallel_reportAt (span_sectionPlace h .nouns) _)
      (lockstep_pure rfl)
  · rw [hm, hn]
    exact parallel_checkEntries (fun _ _ hpq => parallel_checkNoun hpq options phrases)
      cancel .nouns hvw

theorem parallel_checkSections (h : L.Roots root root') (options : Options) (cancel : Bool) :
    L.Parallel (checkSections options cancel root metadata)
      (checkSections options cancel root' metadata) := by
  refine (parallel_checkPhrases h cancel).bind_eq fun phrases => ?_
  cases phrases with
  | none => exact lockstep_pure rfl
  | some phrases =>
      refine (parallel_checkNouns h options cancel phrases).bind_eq fun nouns => ?_
      cases nouns with
      | none => exact lockstep_pure rfl
      | some nouns =>
          refine lockstep_get.bind fun sink sink' _ => ?_
          exact (parallel_logEvent _ _).bind_pure

/-- Repeated names are reported alike, where they are reported. -/
def RepetitionsAlike (L : Likeness) (options : Options) (root root' : Node) : Prop :=
  options.duplicateKeys = .reject → List.Forall₂ L.Members root.repetitions root'.repetitions

/-- **Alike documents are checked alike.** -/
theorem parallel_checkRoot (options : Options) (cancel : Bool) (h : L.Roots root root')
    (hrepetitions : L.RepetitionsAlike options root root') :
    L.Parallel (checkRoot options cancel root) (checkRoot options cancel root') := by
  refine (parallel_logEvent _ _).bind_eq fun _ => Lockstep.ite_bind (fun hreject => ?_) ?_
  · refine lockstep_forEach (R := L.Members) (fun p q hpq => ?_) (hrepetitions hreject)
    rw [hpq.name]
    exact parallel_reportName hpq _
  · refine (parallel_validateMetadata h).bind_eq fun metadata => ?_
    cases metadata with
    | none => exact (parallel_logEvent _ _).bind_pure
    | some metadata =>
        exact (parallel_logEvent _ _).bind_eq fun _ => parallel_checkSections h options cancel

/-- Documents that are checked in parallel give one book, and alike diagnostics. -/
theorem outcomes_of_parallel {text text' fileId fileId' : String} {options : Options}
    (h : readDocument text = .ok root) (h' : readDocument text' = .ok root')
    (hsinks : L.sinks (.ofString text fileId) (.ofString text' fileId'))
    (hparallel : L.Parallel (checkRoot options false root) (checkRoot options false root')) :
    (validate text fileId options).data = (validate text' fileId' options).data ∧
      ∃ x y, L.sinks x y ∧ x.diagnostics = (validate text fileId options).diagnostics ∧
        y.diagnostics = (validate text' fileId' options).diagnostics := by
  obtain ⟨hbook, hafter⟩ := hparallel _ _ hsinks
  rw [validate, validate, run_eq, run_eq, checkText_of_document h, checkText_of_document h']
  generalize (checkRoot options false root).run (.ofString text fileId) = left at hbook hafter
  generalize (checkRoot options false root').run (.ofString text' fileId') = right at hbook hafter
  obtain ⟨book, x⟩ := left
  obtain ⟨book', y⟩ := right
  cases hbook
  cases book with
  | ok book => exact ⟨rfl, x, y, hafter, rfl, rfl⟩
  | error interruption => exact ⟨rfl, _, _, hsinks, rfl, rfl⟩

end Likeness

end Phrasebook
