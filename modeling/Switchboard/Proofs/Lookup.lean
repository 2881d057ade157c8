import Mathlib.Data.List.Nodup

/-!
# Looking up entries

A list of keys and values in which no key is repeated is a finite map: what is
looked up for a key is the value that the list has for it, wherever it stands.
The same goes for elements that are found by a feature which no two of them
share.
-/

namespace Switchboard

variable {κ α β : Type}

section Entries

variable [BEq κ] [LawfulBEq κ] {entries : List (κ × β)} {key : κ} {value : β}

theorem lookup_eq_some_iff (once : (entries.map Prod.fst).Nodup) :
    entries.lookup key = some value ↔ (key, value) ∈ entries := by
  constructor
  · intro found
    obtain ⟨earlier, later, rfl, -⟩ := List.lookup_eq_some_iff.mp found
    simp
  · intro listed
    obtain ⟨earlier, later, rfl⟩ := List.append_of_mem listed
    refine List.lookup_eq_some_iff.mpr ⟨earlier, later, rfl, fun entry before => ?_⟩
    rw [List.map_append, List.map_cons, List.nodup_append] at once
    rw [bne_iff_ne]
    rintro rfl
    exact once.2.2 _ (List.mem_map_of_mem before) _ List.mem_cons_self rfl

theorem lookup_eq_none_iff : entries.lookup key = none ↔ ∀ value, (key, value) ∉ entries := by
  rw [List.lookup_eq_none_iff]
  constructor
  · intro others value listed
    exact absurd (others _ listed) (by simp)
  · rintro absent ⟨other, value⟩ listed
    rw [bne_iff_ne]
    rintro rfl
    exact absent value listed

end Entries

theorem find?_eq_some_of_mem [DecidableEq κ] {feature : α → κ} {list : List α} {element : α}
    (injective : Function.Injective feature) (listed : element ∈ list) :
    list.find? (fun other => feature other = feature element) = some element := by
  cases found : list.find? fun other => feature other = feature element with
  | none => exact absurd (decide_eq_true rfl) (List.find?_eq_none.mp found element listed)
  | some other =>
      have same : feature other = feature element := by simpa using List.find?_some found
      rw [injective same]

end Switchboard
