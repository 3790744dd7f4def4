import Mathlib.Data.List.Nodup
import Allotment.Proofs.Allocator.Heap
import Allotment.Proofs.Allocator.SystemHeap

namespace Allotment.Heap
open HeapLedger
variable {Object : Type} {heap : Heap Object}

instance : HeapLedger (Heap Object) where
  Sound := Orderly
  blocks := blocks
  filled orderly := orderly.filled
  apart orderly := orderly.behind.imp Or.inr

namespace Orderly
variable (orderly : heap.Orderly)
include orderly

/-- A block starts where no other live block does, so to drop those that start there is to drop it. -/
private theorem blocks_without {address held : Nat} (live : (address, held) ∈ heap.blocks) :
    (heap.without address).blocks = heap.blocks.erase (address, held) := by
  have distinct : heap.blocks.Nodup := orderly.behind.imp_of_mem fun {later earlier} _ alive above => by
    have filled := orderly.filled earlier alive
    rintro rfl
    omega
  rw [distinct.erase_eq_filter]
  refine List.filter_congr fun block alive => Bool.eq_iff_iff.mpr ?_
  rw [bne_iff_ne, bne_iff_ne]
  refine not_congr ⟨fun same => ?_, fun same => congrArg Prod.fst same⟩
  by_contra differ
  have apart := orderly.apart alive live differ
  have filled := orderly.filled block alive
  have filled' := orderly.filled _ live
  simp only at apart filled'
  omega

/-- A block at the next address is what was asked for, if what is written is written there. -/
theorem obtained {size : Nat} (asked : size ≠ 0)
    {memory : Memory Object}
    (below : ∀ address, address < heap.frontier → memory.load address = heap.memory.load address) :
    SystemHeap.Obtained heap size (some heap.frontier, { heap.reserved size with memory := memory }) := by
  have room : max size 1 = size := by omega
  have sound := orderly.reserved size
  refine ⟨⟨sound.filled, sound.below, sound.behind⟩, ?_, ?_⟩
  · change ((heap.frontier, max size 1) :: heap.blocks).Perm ((heap.frontier, size) :: heap.blocks)
    rw [room]
  · intro block live position inside
    have top := orderly.below block live
    exact below _ (by omega)

private theorem not_obtained (size : Nat) : SystemHeap.Obtained heap size (none, heap) :=
  ⟨orderly, .refl _, fun _ _ _ _ => rfl⟩

theorem malloc {size : Nat} (asked : size ≠ 0) :
    SystemHeap.Obtained heap size (SystemHeap.malloc size heap) := by
  by_cases met : max size 1 ≤ largestRequest
  · simp only [SystemHeap.malloc, reserve?_of_met met]
    exact orderly.obtained asked fun _ _ => rfl
  · simp only [SystemHeap.malloc, reserve?_of_unmet met]
    exact orderly.not_obtained _

theorem calloc {count size : Nat} (asked : count * size ≠ 0) :
    SystemHeap.Obtained heap (count * size) (SystemHeap.calloc count size heap) := by
  by_cases met : max (count * size) 1 ≤ largestRequest
  · simp only [SystemHeap.calloc, reserve?_of_met met]
    exact orderly.obtained asked fun _ below => Memory.load_fill_of_outside _ _ (.inl below)
  · simp only [SystemHeap.calloc, reserve?_of_unmet met]
    exact orderly.not_obtained _

omit orderly in
theorem calloc_zero {count size place : Nat}
    (met : (SystemHeap.calloc count size heap).1 = some place) (position : Nat)
    (inside : position < count * size) :
    (SystemHeap.memory (SystemHeap.calloc count size heap).2).load (place + position) = Cell.zero := by
  simp only [SystemHeap.calloc] at met ⊢
  split at met <;> cases met
  change (Memory.fill _ place (count * size) Cell.zero).load _ = _
  rw [Memory.load_fill, if_pos (by omega)]

theorem realloc {address held size : Nat} (live : (address, held) ∈ heap.blocks) (asked : size ≠ 0) :
    SystemHeap.Resized heap (address, held) size (SystemHeap.realloc address size heap) := by
  by_cases met : max size 1 ≤ largestRequest
  · have room : max size 1 = size := by omega
    have filled : 0 < held := orderly.filled _ live
    have top : address + held ≤ heap.frontier := orderly.below _ live
    have elsewhere : heap.frontier ≠ address := by omega
    have sound := (orderly.reserved size).without address
    simp only [SystemHeap.realloc, reserve?_of_met met, orderly.sizeAt?_eq live, Option.getD_some]
    refine ⟨⟨sound.filled, sound.below, sound.behind⟩, ?_, ?_, ?_⟩
    · have blocks : ((heap.frontier, max size 1) :: heap.blocks).filter (fun block => block.1 != address) =
          (heap.frontier, size) :: heap.blocks.erase (address, held) := by
        rw [List.filter_cons, if_pos (bne_iff_ne.mpr elsewhere), room]
        exact congrArg _ (orderly.blocks_without live)
      exact .of_eq blocks
    · intro other alive _ position inside
      have below := orderly.below other alive
      exact load_resized heap address size held (by omega)
    · rintro place ⟨⟩ position common
      change (heap.memory.copy address heap.frontier (min held size)).load _ = _
      simp only at common
      rw [Memory.load_copy, if_pos (by omega), Nat.add_sub_cancel_left]
      rfl
  · simp only [SystemHeap.realloc, reserve?_of_unmet met]
    exact ⟨orderly, .refl _, fun _ _ _ _ _ => rfl, nofun⟩

theorem free {address held : Nat} (live : (address, held) ∈ heap.blocks) :
    SystemHeap.Freed heap (address, held) (SystemHeap.free address heap) :=
  ⟨orderly.without address, .of_eq (orderly.blocks_without live), fun _ _ _ _ _ => rfl⟩

end Orderly

instance : LawfulSystemHeap Object (Heap Object) where
  memory_withMemory _ _ := rfl
  withMemory_memory _ := rfl
  blocks_withMemory _ _ := rfl
  written orderly _ := ⟨orderly.filled, orderly.below, orderly.behind⟩
  malloc orderly asked := Orderly.malloc orderly asked
  calloc orderly asked := Orderly.calloc orderly asked
  calloc_zero _ _ met position inside := Orderly.calloc_zero met position inside
  realloc orderly live asked := Orderly.realloc orderly live asked
  free orderly live := Orderly.free orderly live

end Allotment.Heap
