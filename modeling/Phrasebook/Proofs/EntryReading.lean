import Phrasebook.Proofs.Lockstep
import Phrasebook.Proofs.Places

/-!
# Phrasebook.Proofs.EntryReading

How an entry is read, told by the names and values that stand in it.

1. Of the members of an entry, those count that are the first with their name
   (`Member.firstProperties`); in a document they are the members without a mark
   (`Member.properties_eq`).
2. An entry is refused for its value, or for the first property of a wrong kind (`Member.Refused`).
3. An entry with a value of the right shape gives one translation for each language, from the first
   property for it (`forall₂_translationsOf`).
-/

namespace Phrasebook

variable {α β : Type}

namespace Member

/-- The members of the value of an entry, of several with one name the first; none if the value is
no object. -/
def firstProperties (entry : Property) : List Property :=
  distinctOn (·.name) (entry.value.members?.getD [])

/-- The language that a property translates into. -/
def language (p : Property) : String := Language.normalize p.name

/-- The properties of an entry, of several for one language the first. -/
def languageProperties (entry : Property) : List Property :=
  distinctOn language entry.firstProperties

/-- The first property of an entry for a language. -/
def property? (entry : Property) (language : String) : Option Property :=
  entry.firstProperties.find? (·.language == language)

/-- The value of an entry is an object whose values are of the kind that `read` expects. -/
def HasShape (entry : Property) (read : Node → Option α) : Prop :=
  entry.value.isObject = true ∧ ∀ p ∈ entry.firstProperties, (read p.value).isSome = true

instance (entry : Property) (read : Node → Option α) : Decidable (entry.HasShape read) :=
  inferInstanceAs (Decidable (_ ∧ _))

/-- Why an entry is refused, and where: its value is no object, or a property, the first of this
sort, is of another kind than `read` expects and `expected` names. -/
inductive Refused (entry : Property) (expected : String) (read : Node → Option α) :
    Span → Problem → Prop where
  | noObject : entry.value.isObject = false →
      Refused entry expected read entry.value.span (.jsonException
        ("Expected an object of translations for '" ++ entry.name ++ "', found " ++
          entry.value.typeName))
  | wrongKind {before behind : List Property} {p : Property} :
      entry.firstProperties = before ++ p :: behind → (∀ q ∈ before, (read q.value).isSome = true) →
      read p.value = none →
      Refused entry expected read p.value.span (.jsonException
        ("Translation '" ++ p.name ++ "' of '" ++ entry.name ++ "' must be " ++
          expected ++ ", found " ++ p.value.typeName))

/-- A property gives a translation. -/
structure Gives (read : Node → Option α) (p : Property) (t : Translation α) : Prop where
  language : t.language = p.language
  node : t.node = p.value
  value : read p.value = some t.value

variable {entry : Property} {expected : String} {read : Node → Option α} {place : Span}
  {problem : Problem} {s : Sink}

/-- In a document, the properties of an entry are the first members with their names. -/
theorem properties_eq {text : String} {root : Node} {span : Span} {ms : List Property}
    (h : readDocument text = .ok root) (hobject : root.Contains (.object span ms))
    (hentry : entry ∈ ms) : entry.value.properties = entry.firstProperties := by
  cases hvalue : entry.value with
  | object inner members =>
      have hcontains : root.Contains (.object inner members) :=
        hvalue ▸ contains_value hobject hentry
      rw [firstProperties, hvalue]
      exact (repetitionsMarked_of_contains h hcontains).filter_eq
  | _ => rw [firstProperties, hvalue]; rfl

theorem isObject_of_mem_firstProperties {p : Property} (h : p ∈ entry.firstProperties) :
    entry.value.isObject = true := by
  cases hvalue : entry.value with
  | object => rfl
  | _ =>
      rw [firstProperties, hvalue] at h
      cases h

theorem Gives.unique {p : Property} {t u : Translation α} (ht : Gives read p t)
    (hu : Gives read p u) : t = u := by
  obtain ⟨_, _, tvalue⟩ := t
  obtain ⟨_, _, uvalue⟩ := u
  obtain rfl : tvalue = uvalue := Option.some.inj (ht.value.symm.trans hu.value)
  obtain rfl := ht.language.trans hu.language.symm
  obtain rfl := ht.node.trans hu.node.symm
  rfl

/-! ## refused or of the right shape -/

/-- The first property of a wrong kind. -/
theorem find?_isNone_eq_some_iff {ps : List Property} {p : Property} :
    ps.find? (fun q => (read q.value).isNone) = some p ↔
      ∃ before behind, ps = before ++ p :: behind ∧
      (∀ q ∈ before, (read q.value).isSome = true) ∧ read p.value = none := by
  simp only [List.find?_eq_some_iff_append, Option.isNone_iff_eq_none, Option.not_isNone]
  constructor
  · rintro ⟨hnone, before, behind, hsplit, hbefore⟩
    exact ⟨before, behind, hsplit, hbefore, hnone⟩
  · rintro ⟨before, behind, hsplit, hbefore, hnone⟩
    exact ⟨hnone, before, behind, hsplit, hbefore⟩

theorem find?_isNone_eq_none_iff {ps : List Property} :
    ps.find? (fun q => (read q.value).isNone) = none ↔ ∀ p ∈ ps, (read p.value).isSome = true := by
  simp only [List.find?_eq_none, Bool.not_eq_true, Option.isNone_eq_false_iff]

theorem Refused.code (h : entry.Refused expected read place problem) :
    problem.code = .jsonException := by
  cases h <;> rfl

theorem Refused.not_hasShape (h : entry.Refused expected read place problem) :
    ¬ entry.HasShape read := by
  rintro ⟨hobject, hvalues⟩
  cases h with
  | noObject hno => simp [hobject] at hno
  | @wrongKind before behind p hsplit _ hnone =>
      have hsome := hvalues p (by simp [hsplit])
      simp [hnone] at hsome

/-- An entry is refused for one reason only. -/
theorem Refused.unique {place' : Span} {problem' : Problem}
    (h : entry.Refused expected read place problem)
    (h' : entry.Refused expected read place' problem') : place = place' ∧ problem = problem' := by
  have hobject {before behind : List Property} {p : Property}
      (hsplit : entry.firstProperties = before ++ p :: behind) : entry.value.isObject = true :=
    isObject_of_mem_firstProperties (p := p) (by simp [hsplit])
  cases h with
  | noObject hno =>
      cases h' with
      | noObject => exact ⟨rfl, rfl⟩
      | wrongKind hsplit => simp [hobject hsplit] at hno
  | @wrongKind before behind p hsplit hbefore hnone =>
      cases h' with
      | noObject hno => simp [hobject hsplit] at hno
      | @wrongKind before' behind' p' hsplit' hbefore' hnone' =>
          have hfirst := find?_isNone_eq_some_iff.2 ⟨before, behind, hsplit, hbefore, hnone⟩
          have hfirst' := find?_isNone_eq_some_iff.2 ⟨before', behind', hsplit', hbefore', hnone'⟩
          cases hfirst.symm.trans hfirst'
          exact ⟨rfl, rfl⟩

/-- An entry without the right shape is refused. -/
theorem exists_refused (expected : String) (h : ¬ entry.HasShape read) :
    ∃ place problem, entry.Refused expected read place problem := by
  cases hobject : entry.value.isObject with
  | false => exact ⟨_, _, .noObject hobject⟩
  | true =>
      cases hfind : entry.firstProperties.find? fun p => (read p.value).isNone with
      | some p =>
          obtain ⟨before, behind, hsplit, hbefore, hnone⟩ := find?_isNone_eq_some_iff.1 hfind
          exact ⟨_, _, .wrongKind hsplit hbefore hnone⟩
      | none => exact absurd ⟨hobject, find?_isNone_eq_none_iff.1 hfind⟩ h

end Member

/-! ## what the check of an entry does -/

section check

variable {entry : Property} {expected : String} {read : Node → Option α} {place : Span}
  {problem : Problem} (next : List (Translation α) → String → Check (Option β))
  (hproperties : entry.value.properties = entry.firstProperties)

include hproperties

/-- A refused entry is given up with one report. -/
theorem readEntry_of_refused (h : entry.Refused expected read place problem) (s : Sink) :
    returned (readEntry expected read entry next) s = none ∧
      reported (readEntry expected read entry next) s = [s.locate place problem] := by
  cases h with
  | noObject hno =>
      have hread : readTranslations expected read entry = _ := if_neg (by simp [hno])
      rw [readEntry, hread]
      exact ⟨rfl, rfl⟩
  | @wrongKind before behind p hsplit hbefore hnone =>
      have hobject : entry.value.isObject = true :=
        Member.isObject_of_mem_firstProperties (p := p) (by simp [hsplit])
      have hfind := Member.find?_isNone_eq_some_iff.2 ⟨before, behind, hsplit, hbefore, hnone⟩
      rw [readEntry, readTranslations, if_pos hobject, hproperties, hfind]
      exact ⟨rfl, rfl⟩

/-- An entry of the right shape is handed on with its translations. -/
theorem readEntry_of_hasShape (expected : String) (h : entry.HasShape read) (s : Sink) :
    returned (readEntry expected read entry next) s =
        returned (withKey entry (next (translationsOf read entry))) s ∧
      reported (readEntry expected read entry next) s =
        reported (withKey entry (next (translationsOf read entry))) s := by
  have hfind := Member.find?_isNone_eq_none_iff.2 h.2
  rw [← hproperties] at hfind
  rw [readEntry, readTranslations, if_pos h.1, hfind]
  exact ⟨rfl, rfl⟩

/-- The translations of an entry are given, one each, by the first properties for their
languages. -/
theorem forall₂_translationsOf (h : entry.HasShape read) :
    List.Forall₂ (Member.Gives read) entry.languageProperties (translationsOf read entry) := by
  have hall : ∀ ps : List Property, (∀ p ∈ ps, (read p.value).isSome = true) →
      List.Forall₂ (Member.Gives read) ps (ps.filterMap (readTranslation? read)) := by
    intro ps hps
    induction ps with
    | nil => exact .nil
    | cons p rest ih =>
        obtain ⟨hp, hrest⟩ := List.forall_mem_cons.1 hps
        obtain ⟨value, hvalue⟩ := Option.isSome_iff_exists.1 hp
        have hread : readTranslation? read p = some ⟨p.language, p.value, value⟩ := by
          rw [readTranslation?, hvalue]
          rfl
        rw [List.filterMap_cons_some hread]
        exact .cons ⟨rfl, rfl, hvalue⟩ (ih hrest)
  rw [translationsOf, hproperties]
  exact rel_distinctOn (fun _ _ hgives => hgives.language.symm) (hall _ h.2)

/-- An entry has a property for a language just if it has a translation, which that property
gives. -/
theorem property?_cases (h : entry.HasShape read) (language : String) :
    (entry.property? language = none ∧
      (translationsOf read entry).find? (·.language == language) = none) ∨
      ∃ p t, entry.property? language = some p ∧
        (translationsOf read entry).find? (·.language == language) = some t ∧ p.Gives read t := by
  have hrel : Option.Rel (Member.Gives read) (entry.property? language)
      ((translationsOf read entry).find? (·.language == language)) := by
    rw [Member.property?, ← find?_distinctOn]
    exact rel_find? (fun _ _ hgives => by rw [hgives.language])
      (forall₂_translationsOf hproperties h)
  cases hp : entry.property? language <;>
    cases ht : (translationsOf read entry).find? (·.language == language) <;>
      rw [hp, ht] at hrel <;>
    cases hrel
  · exact .inl ⟨rfl, rfl⟩
  next hgives => exact .inr ⟨_, _, rfl, rfl, hgives⟩

end check

/-- The translations of an entry are into different languages. -/
theorem nodup_languages (read : Node → Option α) (entry : Property) :
    ((translationsOf read entry).map (·.language)).Nodup := by
  rw [translationsOf, map_distinctOn]
  exact nodup_distinct _

end Phrasebook
