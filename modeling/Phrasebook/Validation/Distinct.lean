/-!
# Phrasebook.Validation.Distinct

Dropping repeated items from a list: of several items with one key the first is kept, in its place.
-/

namespace Phrasebook

/-- The items whose key no earlier item has. -/
def distinctOn {α : Type} (key : α → String) : List α → List α
  | [] => []
  | item :: rest => item :: (distinctOn key rest).filter fun other => key other != key item

/-- The texts that stand nowhere earlier in the list. -/
def distinct (texts : List String) : List String := distinctOn id texts

theorem distinctOn_sublist {α : Type} (key : α → String) (items : List α) :
    (distinctOn key items).Sublist items := by
  induction items with
  | nil => exact List.Sublist.slnil
  | cons item rest ih => exact (List.filter_sublist.trans ih).cons_cons item

/-- Dropping repeated items drops no key. -/
theorem mem_map_distinctOn {α : Type} {key : α → String} {items : List α} {k : String} :
    k ∈ (distinctOn key items).map key ↔ k ∈ items.map key := by
  induction items with
  | nil => rfl
  | cons item rest ih =>
      rw [distinctOn, List.map_cons, List.map_cons, List.mem_cons, List.mem_cons, ← ih]
      by_cases hk : k = key item
      · simp only [hk, true_or]
      · simp only [hk, false_or, List.mem_map, List.mem_filter, bne_iff_ne]
        constructor
        · rintro ⟨other, ⟨hother, _⟩, rfl⟩
          exact ⟨other, hother, rfl⟩
        · rintro ⟨other, hother, rfl⟩
          exact ⟨other, ⟨hother, hk⟩, rfl⟩

/-- The keys of the items kept are the distinct keys. -/
theorem map_distinctOn {α : Type} (key : α → String) (items : List α) :
    (distinctOn key items).map key = distinct (items.map key) := by
  induction items with
  | nil => rfl
  | cons item rest ih =>
      rw [distinctOn, List.map_cons, List.map_cons, distinct, distinctOn, ← distinct,
        ← ih, List.filter_map]
      rfl

/-- Behind other items, an item is kept just if none of them has its key. -/
theorem distinctOn_concat {α : Type} (key : α → String) (items : List α) (item : α) :
    distinctOn key (items ++ [item]) =
      distinctOn key items ++ if items.any (key · == key item) then [] else [item] := by
  induction items with
  | nil => rfl
  | cons first rest ih =>
      rw [List.cons_append, distinctOn, ih, distinctOn, List.filter_append,
        List.cons_append, List.any_cons]
      cases hrest : rest.any (key · == key item) with
      | true => rw [Bool.or_true, if_pos rfl, List.filter_nil]
      | false =>
          rw [Bool.or_false, if_neg Bool.false_ne_true, List.filter_cons, List.filter_nil]
          by_cases hfirst : key first = key item
          · simp [hfirst]
          · simp [hfirst, Ne.symm hfirst]

/-- Dropping repeated items keeps the first one with each key. -/
theorem find?_distinctOn {α : Type} (key : α → String) (items : List α) (k : String) :
    (distinctOn key items).find? (key · == k) = items.find? (key · == k) := by
  induction items with
  | nil => rfl
  | cons item rest ih =>
      rw [distinctOn, List.find?_cons, List.find?_cons]
      cases hkey : key item == k with
      | true => rfl
      | false =>
          have hne : key item ≠ k := beq_eq_false_iff_ne.1 hkey
          have hsame : (fun other =>
                decide (((key other != key item) = true) ∧ (key other == k) = true)) =
              fun other => key other == k := by
            funext other
            by_cases hother : key other = k
            · simp [hother, Ne.symm hne]
            · simp [hother]
          rw [← ih, List.find?_filter, hsame]

/-- Where all keys differ, nothing is dropped. -/
theorem distinctOn_eq_self {α : Type} {key : α → String} {items : List α}
    (h : (items.map key).Nodup) : distinctOn key items = items := by
  induction items with
  | nil => rfl
  | cons item rest ih =>
      rw [List.map_cons, List.nodup_cons] at h
      rw [distinctOn, ih h.2, List.filter_eq_self.2]
      intro other hother
      refine bne_iff_ne.2 fun hkey => h.1 ?_
      exact hkey ▸ List.mem_map.2 ⟨other, hother, rfl⟩

@[simp] theorem mem_distinct {texts : List String} {text : String} :
    text ∈ distinct texts ↔ text ∈ texts := by
  have hmap := @mem_map_distinctOn String id texts text
  rwa [List.map_id, List.map_id] at hmap

/-- Leaving texts out and dropping repeated ones can be done in either order. -/
theorem distinct_filter (p : String → Bool) (texts : List String) :
    distinct (texts.filter p) = (distinct texts).filter p := by
  induction texts with
  | nil => rfl
  | cons text rest ih =>
      have hcons (others : List String) :
          distinct (text :: others) = text :: (distinct others).filter (· != text) := rfl
      rw [hcons, List.filter_cons, List.filter_cons]
      cases hp : p text with
      | true =>
          rw [if_pos rfl, if_pos rfl, hcons, ih, List.filter_filter, List.filter_filter]
          simp [Bool.and_comm]
      | false =>
          rw [if_neg Bool.false_ne_true, if_neg Bool.false_ne_true, ih, List.filter_filter]
          refine List.filter_congr fun other _ => ?_
          by_cases hother : other = text
          · simp [hother, hp]
          · simp [hother]

theorem nodup_distinct (texts : List String) : (distinct texts).Nodup := by
  induction texts with
  | nil => exact List.nodup_nil
  | cons text rest ih =>
      refine List.nodup_cons.2 ⟨fun hmem => ?_, ih.filter _⟩
      have hne := (List.mem_filter.1 hmem).2
      exact bne_iff_ne.1 hne rfl

end Phrasebook
