import Mathlib.Data.List.Nodup
import Phrasebook.Model

/-!
# Phrasebook.Proofs.TranslationMap

Maps from languages to texts, as looked up and listed.

Looking up sees the last text that was inserted for a language (`get?_insert`).  Which languages a
map lists depends on the inserted languages alone, and not on their texts (`languages_ofList`).
-/

namespace Phrasebook

theorem lookup_cons_eq (key name value : String) (entries : List (String × String)) :
    ((name, value) :: entries).lookup key =
      if key = name then some value else entries.lookup key := by
  rw [List.lookup_cons]
  by_cases h : key = name
  · rw [if_pos h, beq_iff_eq.2 h]
  · rw [if_neg h, beq_eq_false_iff_ne.2 h]

/-- Looking a key up sees the entry that was inserted last. -/
theorem lookup_insertEntry (key other value : String) (entries : List (String × String)) :
    (insertEntry key value entries).lookup other =
      if other = key then some value else entries.lookup other := by
  induction entries with
  | nil =>
      rw [insertEntry, lookup_cons_eq]
  | cons entry rest ih =>
      obtain ⟨name, old⟩ := entry
      rw [insertEntry]
      split
      · rw [lookup_cons_eq]
      · split
        next heq =>
          subst heq
          rw [lookup_cons_eq, lookup_cons_eq]
          split <;> rfl
        next hne =>
          rw [lookup_cons_eq, lookup_cons_eq, ih]
          by_cases hname : other = name
          · have hother : other ≠ key := fun hkey => hne (hkey.symm.trans hname)
            rw [if_pos hname, if_pos hname, if_neg hother]
          · rw [if_neg hname, if_neg hname]

/-- A key above all others is inserted behind them. -/
theorem insertEntry_of_lt {key : String} (value : String) {entries : List (String × String)}
    (h : ∀ e ∈ entries, e.1 < key) : insertEntry key value entries = entries ++ [(key, value)] := by
  induction entries with
  | nil => rfl
  | cons entry rest ih =>
      obtain ⟨hentry, hrest⟩ := List.forall_mem_cons.1 h
      have hne : key ≠ entry.1 := fun heq => String.lt_irrefl key (heq ▸ hentry)
      rw [insertEntry, if_neg (String.lt_asymm hentry), if_neg hne, ih hrest, List.cons_append]

/-- Among ascending keys, looking a key up finds the one entry that has it. -/
theorem lookup_eq_some_iff {entries : List (String × String)} (h : Ascending entries)
    {key value : String} : entries.lookup key = some value ↔ (key, value) ∈ entries := by
  induction entries with
  | nil => simp
  | cons entry rest ih =>
      obtain ⟨name, old⟩ := entry
      obtain ⟨hfirst, hrest⟩ := List.pairwise_cons.1 h
      rw [lookup_cons_eq, List.mem_cons, Prod.mk.injEq]
      split
      next heq =>
        subst heq
        have hbehind : (key, value) ∉ rest := fun hmem => String.lt_irrefl key (hfirst _ hmem)
        simp [hbehind, eq_comm]
      next hne => rw [ih hrest, or_iff_right fun heq => hne heq.1]

/-- Inserts a key into a list of ascending keys that may hold it already. -/
def insertKey (key : String) : List String → List String
  | [] => [key]
  | other :: rest =>
    if key < other then key :: other :: rest
    else if key = other then key :: rest
    else other :: insertKey key rest

theorem map_fst_insertEntry (key value : String) (entries : List (String × String)) :
    (insertEntry key value entries).map (·.1) = insertKey key (entries.map (·.1)) := by
  induction entries with
  | nil => rfl
  | cons entry rest ih =>
      rw [insertEntry, List.map_cons, insertKey]
      split
      · rfl
      · split
        · rfl
        · rw [List.map_cons, ih]

namespace Translations

variable (t : Translations) (language text : String) (entries : List (String × String))

theorem get?_insert (other : String) :
    (t.insert language text).get? other = if other = language then some text else t.get? other :=
  lookup_insertEntry language other text t.entries

@[simp] theorem get?_insert_self : (t.insert language text).get? language = some text := by
  rw [get?_insert, if_pos rfl]

theorem languages_insert : (t.insert language text).languages = insertKey language t.languages :=
  map_fst_insertEntry language text t.entries

/-- The map with the texts of a list inserted, the first one first. -/
def insertAll : Translations := entries.foldl (fun t e => t.insert e.1 e.2) t

theorem mem_of_get?_insertAll (h : (t.insertAll entries).get? language = some text) :
    (language, text) ∈ entries ∨ t.get? language = some text := by
  induction entries generalizing t with
  | nil => exact .inr h
  | cons entry rest ih =>
      obtain hrest | hinsert := ih _ h
      · exact .inl (List.mem_cons_of_mem _ hrest)
      · rw [get?_insert] at hinsert
        split at hinsert
        next hlanguage =>
          cases hinsert
          exact .inl (hlanguage ▸ List.mem_cons_self)
        next => exact .inr hinsert

/-- Entries that go on with the ascending order of a map come behind its own. -/
theorem entries_insertAll (h : Ascending (t.entries ++ entries)) :
    (t.insertAll entries).entries = t.entries ++ entries := by
  induction entries generalizing t with
  | nil => exact (List.append_nil t.entries).symm
  | cons entry rest ih =>
      have hbefore : ∀ e ∈ t.entries, e.1 < entry.1 := fun e he =>
        (List.pairwise_append.1 h).2.2 e he entry List.mem_cons_self
      have hinsert : (t.insert entry.1 entry.2).entries = t.entries ++ [entry] :=
        insertEntry_of_lt entry.2 hbefore
      rw [List.append_cons, ← hinsert] at h ⊢
      exact ih (t.insert entry.1 entry.2) h

/-- A map is the map of its own entries. -/
@[simp] theorem ofList_entries : ofList t.entries = t := by
  have hentries : (ofList t.entries).entries = t.entries :=
    entries_insertAll empty t.entries t.ascending
  exact (mk.injEq ..).mpr hentries

/-- A map of a list gives no text that the list does not give. -/
theorem mem_of_get?_ofList (h : (ofList entries).get? language = some text) :
    (language, text) ∈ entries := by
  obtain hmem | hempty := mem_of_get?_insertAll empty language text entries h
  · exact hmem
  · cases hempty

theorem isSome_get?_insertAll :
    ((t.insertAll entries).get? language).isSome = true ↔
      language ∈ entries.map (·.1) ∨ (t.get? language).isSome = true := by
  induction entries generalizing t with
  | nil => simp only [insertAll, List.foldl_nil, List.map_nil, List.not_mem_nil, false_or]
  | cons entry rest ih =>
      have hrest := ih (t.insert entry.1 entry.2)
      rw [get?_insert] at hrest
      rw [insertAll, List.foldl_cons, ← insertAll, hrest, List.map_cons, List.mem_cons]
      by_cases hlanguage : language = entry.1
      · simp only [hlanguage, if_true, Option.isSome_some, or_true, true_or]
      · simp only [hlanguage, if_false, false_or]

/-- A map of a list gives a text for just the languages of the list. -/
theorem isSome_get?_ofList :
    ((ofList entries).get? language).isSome = true ↔ language ∈ entries.map (·.1) := by
  refine (isSome_get?_insertAll empty language entries).trans (or_iff_left ?_)
  exact Bool.false_ne_true

/-- The languages of a map are those that it gives a text for. -/
theorem mem_languages : language ∈ t.languages ↔ (t.get? language).isSome = true := by
  rw [languages, List.mem_map, get?, List.lookup_isSome_iff]
  simp only [beq_iff_eq, eq_comm (a := language)]

/-- Where no language is repeated in a list, the map of the list gives the texts of the list. -/
theorem get?_ofList_eq_some_iff (hdistinct : (entries.map (·.1)).Nodup) :
    (ofList entries).get? language = some text ↔ (language, text) ∈ entries := by
  refine ⟨mem_of_get?_ofList language text entries, fun hmem => ?_⟩
  have hlanguage : language ∈ entries.map (·.1) := List.mem_map.2 ⟨_, hmem, rfl⟩
  obtain ⟨other, hother⟩ :=
    Option.isSome_iff_exists.1 ((isSome_get?_ofList language entries).2 hlanguage)
  have hsame : (language, other) = (language, text) :=
    List.inj_on_of_nodup_map hdistinct (mem_of_get?_ofList language other entries hother) hmem rfl
  rw [hother, (Prod.mk.inj hsame).2]

/-- Maps that give the same texts are equal. -/
theorem ext_get? {t u : Translations} (h : ∀ language, t.get? language = u.get? language) :
    t = u := by
  have hnodup (t : Translations) : t.entries.Nodup := by
    refine List.Pairwise.imp ?_ t.ascending
    rintro a b hlt rfl
    exact String.lt_irrefl a.1 hlt
  have hmem (e : String × String) : e ∈ t.entries ↔ e ∈ u.entries := by
    have hlookup : t.entries.lookup e.1 = u.entries.lookup e.1 := h e.1
    rw [← lookup_eq_some_iff t.ascending, ← lookup_eq_some_iff u.ascending, hlookup]
  have hentries : t.entries = u.entries :=
    ((List.perm_ext_iff_of_nodup (hnodup t) (hnodup u)).2 hmem).eq_of_pairwise
      (fun a b _ _ hab hba => absurd hba (String.lt_asymm hab)) t.ascending u.ascending
  exact (mk.injEq ..).mpr hentries

/-- The order of a list without repeated languages does not matter for its map. -/
theorem ofList_eq_of_perm {entries entries' : List (String × String)}
    (hdistinct : (entries.map (·.1)).Nodup) (hperm : entries.Perm entries') :
    ofList entries = ofList entries' := by
  refine ext_get? fun language => Option.ext fun text => ?_
  rw [get?_ofList_eq_some_iff language text entries hdistinct,
    get?_ofList_eq_some_iff language text entries' ((hperm.map _).nodup_iff.1 hdistinct),
    hperm.mem_iff]

theorem languages_insertAll :
    (t.insertAll entries).languages =
      (entries.map (·.1)).foldl (fun languages key => insertKey key languages) t.languages := by
  induction entries generalizing t with
  | nil => rfl
  | cons entry rest ih =>
      rw [List.map_cons, List.foldl_cons, ← languages_insert t entry.1 entry.2]
      exact ih _

/-- The languages of a map of a list depend on the languages in the list alone. -/
theorem languages_ofList :
    (ofList entries).languages =
      (entries.map (·.1)).foldl (fun languages key => insertKey key languages) [] :=
  languages_insertAll empty entries

end Translations

end Phrasebook
