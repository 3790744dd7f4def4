import Allotment.GrowArray
import Allotment.Proofs.Allocator.Contract

namespace Allotment

private theorem Memory.loadRange_shift {Object : Type} {memory other : Memory Object}
    {start place count : Nat}
    (agree : ∀ position, position < count →
      other.load (place + position) = memory.load (start + position)) :
    other.loadRange place count = memory.loadRange start count := by
  apply List.ext_getElem (by simp)
  intro position inside _
  simp only [length_loadRange] at inside
  simp [loadRange_eq, agree position inside]

namespace GrowArray
open Allocator Custody
variable {Object σ T : Type} [Element Object T]

section Contents
variable {array other : GrowArray T} {memory memory' : Memory Object}

theorem getElem_toList {index : Nat} (inside : index < (array.toList memory).length) :
    (array.toList memory)[index] = Element.load T memory (array.addressOf index) := by
  simp [toList]

theorem lt_of_get?_eq_some {index : Nat} {value : T} (found : array.get? memory index = some value) :
    index < array.length := by
  by_cases inside : index < array.length
  · exact inside
  · rw [get?, if_neg inside] at found
    cases found

theorem toList_congr (length : other.length = array.length)
    (agree : ∀ position, position < array.length * Element.size T →
      memory'.load (other.address + position) = memory.load (array.address + position)) :
    other.toList memory' = array.toList memory := by
  apply List.ext_getElem (by simp [length])
  intro index inside inside'
  rw [getElem_toList, getElem_toList, Element.load, Element.load]
  rw [length_toList] at inside'
  have below : (index + 1) * Element.size T ≤ array.length * Element.size T :=
    Nat.mul_le_mul_right _ inside'
  rw [Nat.succ_mul] at below
  refine congrArg Element.decode (Memory.loadRange_shift fun position within => ?_)
  have same := agree (index * Element.size T + position) (by omega)
  rwa [← Nat.add_assoc, ← Nat.add_assoc] at same

private theorem toList_store [LawfulElement Object T] (array : GrowArray T) (memory : Memory Object)
    (index : Nat) (value : T) :
    array.toList (Element.store memory (array.addressOf index) value) =
      (array.toList memory).set index value := by
  apply List.ext_getElem (by simp)
  intro position inside _
  rw [getElem_toList, List.getElem_set]
  by_cases same : index = position
  · subst same
    rw [if_pos rfl, Element.load_store]
  · rw [if_neg same, getElem_toList]
    refine Element.load_store_of_disjoint memory value ?_
    rcases Nat.lt_or_gt_of_ne same with before | behind
    · have below := Nat.mul_le_mul_right (Element.size T) (Nat.succ_le_of_lt before)
      rw [Nat.succ_mul] at below
      exact .inl (by simp only [addressOf]; omega)
    · have below := Nat.mul_le_mul_right (Element.size T) (Nat.succ_le_of_lt behind)
      rw [Nat.succ_mul] at below
      exact .inr (by simp only [addressOf]; omega)

/-- The array with one more element, the value behind the last one. -/
def extended (array : GrowArray T) : GrowArray T := { array with length := array.length + 1 }

private theorem toList_extended (array : GrowArray T) (memory : Memory Object) :
    array.extended.toList memory =
      array.toList memory ++ [Element.load T memory (array.addressOf array.length)] := by
  simp only [toList, extended, List.range_succ, List.map_append, List.map_cons, List.map_nil]
  rfl

end Contents

/-- The array owns a block with room for its capacity, and fills no more than that. -/
structure Owned [Custody σ] (array : GrowArray T) (host : σ) : Prop where
  sound : Sound host
  fits : array.length ≤ array.capacity
  bytes : arraySize? (Element.size T) array.capacity = some (Element.size T * array.capacity)
  held : array.capacity ≠ 0 → Holds host array.address (Element.size T * array.capacity)

theorem Owned.empty [Custody σ] {host : σ} (sized : Element.size T ≠ 0) (sound : Sound host) :
    (empty T).Owned host := by
  have none : (GrowArray.empty T).capacity = 0 := if_neg sized
  refine ⟨sound, Nat.zero_le _, ?_, fun some => (some none).elim⟩
  rw [none]
  rfl

variable [Allocator Object σ]

section Runs
variable {array : GrowArray T} {host : σ} {index : Nat}

/-- The host once a value is stored at an index. -/
def written (array : GrowArray T) (host : σ) (index : Nat) (value : T) : σ :=
  withMemory host (Element.store (memory host) (array.addressOf index) value)

theorem toList_written [Custody σ] [LawfulAllocator Object σ] [LawfulElement Object T]
    (array : GrowArray T) (host : σ) (index : Nat) (value : T) :
    array.toList (memory (array.written host index value)) =
      (array.toList (memory host)).set index value := by
  rw [written, LawfulCustody.memory_withMemory, toList_store]

omit [Allocator Object σ] in
theorem load_store_of_outside [LawfulElement Object T] {memory : Memory Object}
    (inside : index < array.capacity) (value : T) {other : Nat}
    (apart : other < array.address ∨
      array.address + Element.size T * array.capacity ≤ other) :
    (Element.store memory (array.addressOf index) value).load other = memory.load other := by
  have below := Nat.mul_le_mul_right (Element.size T) (Nat.succ_le_of_lt inside)
  rw [Nat.succ_mul, Nat.mul_comm array.capacity] at below
  refine Memory.load_storeRange_of_outside _ ?_
  rw [LawfulElement.length_encode, addressOf]
  omega

theorem run_replace (inside : index < array.length) (value : T) :
    (replace index value).run (array, host) =
      ⟨.ok (array.get? (memory host) index), (array, array.written host index value), []⟩ := by
  have found : array.get? (memory host) index =
      some (Element.load T (memory host) (array.addressOf index)) := if_pos inside
  rw [replace, Step.run_bind_of_quiet (Step.run_get _)]
  dsimp only
  rw [found]
  rfl

theorem run_push_of_room (room : array.length < array.capacity) (value : T) :
    (push value).run (array, host) =
      ⟨.ok (), (array.extended, array.written host array.length value), []⟩ := by
  have full : (array.length == array.capacity) = false := beq_false_of_ne (Nat.ne_of_lt room)
  refine Step.run_owning_of_ok ?_
  rw [Step.run_bind_of_quiet (Step.run_get _)]
  dsimp only
  rw [full, Step.when_false]
  rfl

end Runs

/-- The array still owns its block, and the elements are the same. -/
structure Preserved [Custody σ] (before after : GrowArray T × σ) : Prop where
  owned : after.1.Owned after.2
  toList : after.1.toList (memory after.2) = before.1.toList (memory before.2)

omit [Element Object T] [Allocator Object σ] in
/-- The address is not that of the array's own block. -/
def Foreign (array : GrowArray T) (address : Nat) : Prop :=
  array.capacity ≠ 0 → address ≠ array.address

/-- Whatever callers hold beside the array's block stays with them as it is. -/
structure Spares [Custody σ] (array : GrowArray T) (before after : σ) : Prop where
  sound : Sound after
  kept : ∀ address size, array.Foreign address → Holds before address size →
    Keeps before after address size

namespace Owned
variable [Custody σ] [LawfulAllocator Object σ] [LawfulElement Object T] {array : GrowArray T}
  {host : σ}

omit [LawfulElement Object T] in
theorem of_memory (owned : array.Owned host) (some : array.capacity ≠ 0) {memory' : Memory Object}
    (outside : ∀ other, other < array.address ∨
      array.address + Element.size T * array.capacity ≤ other →
      memory'.load other = (memory host).load other) :
    array.Owned (withMemory host memory') ∧ array.Spares host (withMemory host memory') := by
  have held := owned.held some
  obtain ⟨sound, holds⟩ := LawfulCustody.written owned.sound held outside
  exact ⟨⟨sound, owned.fits, owned.bytes, fun _ => holds _ _ held⟩, sound,
    fun address size foreign alive =>
      keeps_of_written owned.sound held outside alive (foreign some)⟩

theorem written (owned : array.Owned host) {index : Nat} (inside : index < array.capacity)
    (value : T) : array.Owned (array.written host index value) ∧
      array.Spares host (array.written host index value) :=
  owned.of_memory (by omega) fun _ apart => load_store_of_outside inside value apart

theorem pushed (owned : array.Owned host) (room : array.length < array.capacity) (value : T) :
    array.extended.Owned (array.written host array.length value) ∧
      array.extended.toList (memory (array.written host array.length value)) =
        array.toList (memory host) ++ [value] ∧
      array.Spares host (array.written host array.length value) := by
  obtain ⟨kept, spares⟩ := owned.written room value
  refine ⟨⟨kept.sound, room, kept.bytes, kept.held⟩, ?_, spares⟩
  have behind : (array.toList (memory host)).set array.length value = array.toList (memory host) :=
    List.set_eq_of_length_le (by simp)
  rw [toList_extended, toList_written, behind, GrowArray.written, LawfulCustody.memory_withMemory,
    Element.load_store]

end Owned
end GrowArray
end Allotment
