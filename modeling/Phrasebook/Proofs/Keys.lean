import Mathlib.Data.List.Nodup

/-!
# Phrasebook.Proofs.Keys

Lists of items that have different keys.

One item is then meant by a key, however it is asked for: as the first one that has it
(`find?_key_eq_some_iff`), as the first one in another order (`find?_key_eq_of_perm`), or as all of
those that have it (`filter_key_eq`).
-/

namespace Phrasebook

variable {α κ : Type} [BEq κ] [LawfulBEq κ] {key : α → κ} {items others : List α} {k : κ}

theorem find?_key_eq_some_iff (h : (items.map key).Nodup) {item : α} :
    items.find? (key · == k) = some item ↔ item ∈ items ∧ key item = k := by
  constructor
  · intro hfind
    exact ⟨List.mem_of_find?_eq_some hfind, by simpa using List.find?_some hfind⟩
  · rintro ⟨hmem, rfl⟩
    cases hfind : items.find? (key · == key item) with
    | none => simpa using List.find?_eq_none.1 hfind item hmem
    | some other =>
        have hkey : key other = key item := by simpa using List.find?_some hfind
        rw [List.inj_on_of_nodup_map h (List.mem_of_find?_eq_some hfind) hmem hkey]

/-- The order of the items does not matter. -/
theorem find?_key_eq_of_perm (hperm : items.Perm others) (h : (items.map key).Nodup) :
    items.find? (key · == k) = others.find? (key · == k) := by
  have hothers : (others.map key).Nodup := (hperm.map key).nodup_iff.1 h
  refine Option.ext fun item => ?_
  rw [find?_key_eq_some_iff h, find?_key_eq_some_iff hothers, hperm.mem_iff]

/-- There is one item with a key or none. -/
theorem filter_key_eq (h : (items.map key).Nodup) :
    items.filter (key · == k) = (items.find? (key · == k)).toList := by
  induction items with
  | nil => rfl
  | cons item rest ih =>
      rw [List.map_cons, List.nodup_cons] at h
      rw [List.filter_cons, List.find?_cons]
      cases hkey : key item == k with
      | false => simpa using ih h.2
      | true =>
          have hnone : rest.filter (key · == k) = [] := by
            refine List.filter_eq_nil_iff.2 fun other hother hsame => h.1 ?_
            rw [beq_iff_eq.1 hkey, ← beq_iff_eq.1 hsame]
            exact List.mem_map_of_mem hother
          simp [hnone]

end Phrasebook
