import Switchboard.Proofs.Rooms.Lifetime

/-!
# Leaving in any order

When two identities leave everything, the rooms that are left do not show who
went first. A room that nobody else was in is destroyed by whoever leaves it
last, so the order decides by whom, but in no order is it destroyed twice.
-/

namespace Switchboard

namespace Rooms

variable {rooms next : Rooms} {room : String} {first second : Identity}

/-- The table keeps the members of the rooms that have any. -/
theorem Sound.getElem?_eq (sound : rooms.Sound) (room : String) :
    rooms.table[room]? = if rooms.hasMembers room then some (rooms.peers room) else none := by
  rw [sound.hasMembers_eq, Std.ExtTreeMap.contains_eq_isSome_getElem?, peers_eq]
  cases rooms.table[room]? <;> rfl

/-- Rooms are told apart by nothing but their members. -/
theorem Sound.eq_of_mem_peers_iff (sound : rooms.Sound) (soundNext : next.Sound)
    (same : ∀ room member, member ∈ rooms.peers room ↔ member ∈ next.peers room) :
    rooms = next := by
  have peers : ∀ room, rooms.peers room = next.peers room :=
    fun room => Std.ExtTreeSet.ext_mem fun {member} => same room member
  have tables : rooms.table = next.table := by
    apply Std.ExtTreeMap.ext_getElem?
    intro room
    rw [sound.getElem?_eq, soundNext.getElem?_eq, hasMembers, hasMembers, peers]
  exact congrArg Rooms.mk tables

theorem Sound.leaveAll_comm (sound : rooms.Sound) (first second : Identity) :
    ((rooms.leaveAll first).1.leaveAll second).1 =
      ((rooms.leaveAll second).1.leaveAll first).1 := by
  have soundFirst := sound.leaveAll first
  have soundSecond := sound.leaveAll second
  apply (soundFirst.leaveAll second).eq_of_mem_peers_iff (soundSecond.leaveAll first)
  intro room member
  rw [soundFirst.mem_peers_leaveAll, sound.mem_peers_leaveAll, soundSecond.mem_peers_leaveAll,
    sound.mem_peers_leaveAll, and_right_comm]

/-! ## Destroyed rooms -/

theorem nodup_deserted (rooms : Rooms) (identity : Identity) :
    (rooms.deserted identity).Nodup :=
  (Std.ExtTreeMap.nodup_keys.filter _).filter _

/-- A room without any other member than two identities is gone when both have
left, whoever goes first. -/
theorem Sound.mem_deserted_in_turn (sound : rooms.Sound) :
    room ∈ rooms.deserted first ++ (rooms.leaveAll first).1.deserted second ↔
      (first ∈ rooms.peers room ∨ second ∈ rooms.peers room) ∧
        ∀ member ∈ rooms.peers room, member = first ∨ member = second := by
  rw [List.mem_append, mem_deserted, mem_deserted]
  simp only [sound.mem_peers_leaveAll]
  grind

theorem Sound.nodup_deserted_in_turn (sound : rooms.Sound) (first second : Identity) :
    (rooms.deserted first ++ (rooms.leaveAll first).1.deserted second).Nodup := by
  refine List.nodup_append.mpr ⟨nodup_deserted _ _, nodup_deserted _ _, ?_⟩
  rintro room deserted _ later rfl
  have stays := (mem_deserted.mp later).1
  rw [sound.mem_peers_leaveAll] at stays
  exact stays.2 ((mem_deserted.mp deserted).2 second stays.1)

/-- Two who leave everything destroy the same rooms in either order. -/
theorem Sound.perm_leaveAll_snd (sound : rooms.Sound) (first second : Identity) :
    ((rooms.leaveAll first).2 ++ ((rooms.leaveAll first).1.leaveAll second).2).Perm
      ((rooms.leaveAll second).2 ++ ((rooms.leaveAll second).1.leaveAll first).2) := by
  rw [sound.leaveAll_snd, (sound.leaveAll first).leaveAll_snd, sound.leaveAll_snd,
    (sound.leaveAll second).leaveAll_snd, ← List.map_append, ← List.map_append]
  apply List.Perm.map
  rw [List.perm_ext_iff_of_nodup (sound.nodup_deserted_in_turn first second)
    (sound.nodup_deserted_in_turn second first)]
  intro room
  simp only [sound.mem_deserted_in_turn, or_comm]

end Rooms

end Switchboard
