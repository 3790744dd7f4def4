import Allotment.Proofs.Allocator.ProcessHeap
import Allotment.Proofs.Rationed.General

namespace Allotment.Heap
open Allocator HeapLedger
variable {Object α : Type} {heap : Heap Object}

instance : HeapRation (Heap Object) := ⟨fun size => size ≤ largestRequest⟩

/-- The heap finds room for a request if and only if it is not too large. -/
theorem reserve?_met {size : Nat} (asked : size ≠ 0) (heap : Heap Object) :
    (heap.reserve? size).isSome = HeapRation.meets (Heap Object) size := by
  have room : max size 1 = size := by omega
  rw [reserve?, room]
  change _ = decide (size ≤ largestRequest)
  split
  · next met => exact (decide_eq_true met).symm
  · next large => exact (decide_eq_false large).symm

instance : RationedHeap Object (Heap Object) where
  malloc_met {heap size} _ asked := by
    rw [← reserve?_met asked heap, SystemHeap.malloc]
    cases reserved : heap.reserve? size <;> simp only [instSystemHeapHeap, reserved] <;> rfl
  calloc_met {heap count size} _ asked := by
    rw [← reserve?_met asked heap]
    cases reserved : heap.reserve? (count * size) <;> simp only [SystemHeap.calloc, reserved] <;> rfl
  realloc_met {heap address held size} _ _ asked := by
    rw [← reserve?_met asked heap]
    cases reserved : heap.reserve? size <;> simp only [SystemHeap.realloc, reserved] <;> rfl

/-- An operation of the allocator over the heap of the C library, run on this heap and in its mode. -/
def handedOn (operation : Step Object (General (Heap Object)) α) : Step Object (Heap Object) α :=
  Step.within (fun heap => ⟨heap.failFast, heap⟩) (fun _ state => state.heap) operation

theorem run_handedOn (operation : Step Object (General (Heap Object)) α) (heap : Heap Object) :
    (handedOn operation).run heap = (operation.run ⟨heap.failFast, heap⟩).mapState General.heap := rfl

private theorem reserve?_max (heap : Heap Object) (size : Nat) :
    heap.reserve? (max size 1) = heap.reserve? size := by
  simp only [reserve?, Nat.max_assoc, Nat.max_self]

theorem allocate_eq (size : Nat) :
    (allocate size : Step Object (Heap Object) Nat) = handedOn (General.allocate size) := by
  refine Step.ext (funext fun heap => ?_)
  rw [allocate, Step.run_bind_of_quiet (Step.run_get heap), run_handedOn, General.allocate,
    Step.run_bind_of_quiet (General.run_ask _ _)]
  simp only [SystemHeap.malloc, reserve?_max]
  cases heap.reserve? size with
  | some reserved => rfl
  | none =>
    rw [run_refuse, Step.run_bind_of_ok (Step.run_log _ _), General.run_nonNull_none]
    rfl

theorem allocateZeroed_eq (size : Nat) :
    (allocateZeroed size : Step Object (Heap Object) Nat) = handedOn (General.allocateZeroed size) := by
  refine Step.ext (funext fun heap => ?_)
  rw [allocateZeroed, Step.run_bind_of_quiet (Step.run_get heap), run_handedOn, General.allocateZeroed,
    Step.run_bind_of_quiet (General.run_ask _ _)]
  simp only [SystemHeap.calloc, Nat.one_mul, reserve?_max]
  cases heap.reserve? size with
  | some reserved => rfl
  | none =>
    rw [refuse, Step.run_bind_of_quiet (Step.run_get heap), Step.run_refuseCapacity,
      General.run_nonNull_none]
    rfl

theorem release_eq (block : Option Nat) :
    (release block : Step Object (Heap Object) Unit) = handedOn (General.release block) := by
  cases block <;> rfl

theorem resize_eq (block : Option Nat) (newSize oldSize : Nat) :
    (resize block newSize oldSize : Step Object (Heap Object) (Option Nat)) =
      handedOn (General.resize block newSize oldSize) := by
  refine Step.ext (funext fun heap => ?_)
  cases block with
  | none =>
    rw [resize, allocate_eq, Step.run_map, run_handedOn, run_handedOn, General.resize, Step.run_map]
    rfl
  | some address =>
    simp only [resize, General.resize]
    by_cases asked : newSize = 0
    · rw [if_pos asked, if_pos asked]
      rfl
    · rw [if_neg asked, if_neg asked, Step.run_bind_of_quiet (Step.run_get heap), run_handedOn,
        Step.run_bind_of_quiet (General.run_ask _ _)]
      simp only [SystemHeap.realloc]
      cases heap.reserve? newSize with
      | some reserved => rfl
      | none =>
        rw [run_refuse, Step.run_bind_of_ok (Step.run_log _ _), Step.run_map,
          General.run_nonNull_none]
        rfl

end Allotment.Heap
