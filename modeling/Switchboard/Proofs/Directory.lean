import Mathlib.Data.List.Basic
import Switchboard.Directory

/-!
# The directory as a map

Looking up an identity decides everything else that can be asked of a
directory. The entries list each registered identity once, a registration
adds one identity that was free, and erasing takes out one identity and
nothing else.
-/

namespace Switchboard

namespace Identity

@[simp]
theorem order_eq_eq_iff {first second : Identity} : order first second = .eq ↔ first = second :=
  Std.LawfulEqCmp.compare_eq_iff_eq

theorem isEmpty_iff {identity : Identity} : identity.isEmpty = true ↔ identity.name = "" :=
  String.isEmpty_iff

end Identity

/-- A map that loses one of its entries has one entry less. -/
theorem size_erase_of_contains {α β : Type} {order : α → α → Ordering} [Std.TransCmp order]
    {map : Std.ExtTreeMap α β order} {key : α} (present : map.contains key = true) :
    (map.erase key).size + 1 = map.size := by
  have positive : map.size ≠ 0 := by
    intro vacant
    have nothing : map = ∅ := by
      rw [← Std.ExtTreeMap.isEmpty_iff, Std.ExtTreeMap.isEmpty_eq_size_beq_zero, vacant]
      rfl
    rw [nothing] at present
    simp at present
  rw [Std.ExtTreeMap.size_erase, if_pos present]
  omega

namespace Directory

variable {Handle : Type} {directory next : Directory Handle} {identity other : Identity}
  {handle : Handle}

theorem contains_eq_isSome_find? (directory : Directory Handle) (identity : Identity) :
    directory.contains identity = (directory.find? identity).isSome :=
  Std.ExtTreeMap.contains_eq_isSome_getElem?

theorem contains_iff_exists_find? :
    directory.contains identity = true ↔ ∃ handle, directory.find? identity = some handle := by
  rw [contains_eq_isSome_find?, Option.isSome_iff_exists]

theorem contains_of_find? (found : directory.find? identity = some handle) :
    directory.contains identity = true :=
  contains_iff_exists_find?.mpr ⟨handle, found⟩

theorem contains_eq_false_iff :
    directory.contains identity = false ↔ directory.find? identity = none := by
  rw [contains_eq_isSome_find?, Option.isSome_eq_false_iff, Option.isNone_iff_eq_none]

@[simp]
theorem find?_empty (identity : Identity) : (empty : Directory Handle).find? identity = none :=
  Std.ExtTreeMap.getElem?_empty

theorem get_eq_ok_iff :
    directory.get identity = .ok handle ↔ directory.find? identity = some handle := by
  rw [get]
  cases directory.find? identity <;> simp

theorem get_eq_error_iff {error : DirectoryError} :
    directory.get identity = .error error ↔
      directory.find? identity = none ∧ error = .notRegistered identity := by
  rw [get]
  cases directory.find? identity <;> simp [eq_comm]

/-! ## Entries -/

theorem mem_identities_iff :
    identity ∈ directory.identities ↔ directory.contains identity = true := by
  rw [identities, Std.ExtTreeMap.mem_keys, contains, Std.ExtTreeMap.contains_iff_mem]

theorem pairwise_identities (directory : Directory Handle) :
    directory.identities.Pairwise fun before after => Identity.order before after = .lt :=
  Std.ExtTreeMap.ordered_keys

theorem length_identities (directory : Directory Handle) :
    directory.identities.length = directory.size :=
  Std.ExtTreeMap.length_keys

theorem length_entries (directory : Directory Handle) :
    directory.entries.length = directory.size :=
  Std.ExtTreeMap.length_toList

theorem mem_entries_iff :
    (identity, handle) ∈ directory.entries ↔ directory.find? identity = some handle :=
  Std.ExtTreeMap.mem_toList_iff_getElem?_eq_some

/-- No identity is listed twice. -/
theorem nodup_entries (directory : Directory Handle) :
    (directory.entries.map Prod.fst).Nodup :=
  List.pairwise_map.mpr <| directory.table.distinct_keys_toList.imp fun apart same =>
    apart (Identity.order_eq_eq_iff.mpr same)

/-! ## Adding and erasing -/

/-- A registration succeeds exactly for a name that is not empty and not in
use. -/
theorem add_eq_ok_iff :
    directory.add identity handle = .ok next ↔
      identity.isEmpty = false ∧ directory.find? identity = none ∧
        next = ⟨directory.table.insert identity handle⟩ := by
  rw [add]
  by_cases unnamed : identity.isEmpty
  · simp [unnamed]
  · rw [← contains_eq_false_iff]
    by_cases taken : directory.contains identity
    · simp [unnamed, taken]
    · simp [unnamed, taken, eq_comm]

theorem find?_add (added : directory.add identity handle = .ok next) (other : Identity) :
    next.find? other = if other = identity then some handle else directory.find? other := by
  obtain ⟨_, _, rfl⟩ := add_eq_ok_iff.mp added
  rw [find?, Std.ExtTreeMap.getElem?_insert]
  by_cases same : other = identity
  · simp [same]
  · rw [if_neg (mt Identity.order_eq_eq_iff.mp (Ne.symm same)), if_neg same]
    rfl

theorem contains_add (added : directory.add identity handle = .ok next) (other : Identity) :
    next.contains other = (decide (other = identity) || directory.contains other) := by
  rw [contains_eq_isSome_find?, contains_eq_isSome_find?, find?_add added]
  by_cases same : other = identity <;> simp [same]

theorem size_add (added : directory.add identity handle = .ok next) :
    next.size = directory.size + 1 := by
  obtain ⟨_, free, rfl⟩ := add_eq_ok_iff.mp added
  have fresh : identity ∉ directory.table := by
    rw [Std.ExtTreeMap.mem_iff_isSome_getElem?, ← find?, free]
    simp
  simp [size, Std.ExtTreeMap.size_insert, fresh]

@[simp]
theorem find?_erase (directory : Directory Handle) (identity other : Identity) :
    (directory.erase identity).find? other =
      if other = identity then none else directory.find? other := by
  rw [find?, erase, Std.ExtTreeMap.getElem?_erase]
  by_cases same : other = identity
  · simp [same]
  · rw [if_neg (mt Identity.order_eq_eq_iff.mp (Ne.symm same)), if_neg same]
    rfl

@[simp]
theorem contains_erase (directory : Directory Handle) (identity other : Identity) :
    (directory.erase identity).contains other =
      (decide (other ≠ identity) && directory.contains other) := by
  rw [contains_eq_isSome_find?, contains_eq_isSome_find?, find?_erase]
  by_cases same : other = identity <;> simp [same]

theorem size_erase_add_one (found : directory.find? identity = some handle) :
    (directory.erase identity).size + 1 = directory.size :=
  size_erase_of_contains (contains_of_find? found)

end Directory

end Switchboard
