import Allotment.Heap

/-! The allocator over the heap of the C library. It hands every request on to the functions of that heap and
makes a refusal of a null pointer; which requests are met, and where blocks lie, is up to the heap. -/
namespace Allotment
variable {Object η : Type}

/-- The functions of the heap, and the memory its blocks lie in. A null pointer is none. -/
class SystemHeap (Object : outParam Type) (η : Type) where
  memory : η → Memory Object
  withMemory : η → Memory Object → η
  malloc : Nat → η → Option Nat × η
  calloc : (count size : Nat) → η → Option Nat × η
  realloc : (address size : Nat) → η → Option Nat × η
  free : Nat → η → η

structure General (η : Type) where
  /-- Refused requests end the operation. -/
  failFast : Bool
  heap : η

namespace General

/-- Calls a function of the heap. -/
def ask (function : η → Option Nat × η) : Step Object (General η) (Option Nat) :=
  ⟨fun state =>
    ⟨.ok (function state.heap).1, { state with heap := (function state.heap).2 }, []⟩⟩

/-- A null pointer is a refusal. -/
def nonNull (size : Nat) : Option Nat → Step Object (General η) Nat
  | some address => pure address
  | none => do
    let state ← Step.get
    Step.refuseCapacity (.allocationFailed size Heap.blockAlign) state.failFast

variable [SystemHeap Object η]

/-- Hands out a block. Without bytes it is a block of one byte. -/
def allocate (size : Nat) : Step Object (General η) Nat := do
  let raw ← ask (SystemHeap.malloc (max size 1))
  Step.log (.heapAllocated size (raw.getD 0))
  nonNull size raw

def allocateZeroed (size : Nat) : Step Object (General η) Nat := do
  let raw ← ask (SystemHeap.calloc 1 (max size 1))
  nonNull size raw

def release : Option Nat → Step Object (General η) Unit
  | none => pure ()
  | some address => Step.modify fun state => { state with heap := SystemHeap.free address state.heap }

/-- Gives a block another size. The old size is known to the heap. -/
def resize (block : Option Nat) (newSize _oldSize : Nat) : Step Object (General η) (Option Nat) :=
  match block with
  | none => some <$> allocate newSize
  | some address =>
    if newSize = 0 then do
      release (some address)
      pure none
    else do
      let raw ← ask (SystemHeap.realloc address newSize)
      Step.log (.heapResized newSize address (raw.getD 0))
      some <$> nonNull newSize raw

instance : Allocator Object (General η) where
  alignment _ := Heap.blockAlign
  failsFast := failFast
  memory state := SystemHeap.memory state.heap
  withMemory state memory := { state with heap := SystemHeap.withMemory state.heap memory }
  allocate := allocate
  release := release
  allocateZeroed := allocateZeroed
  resize := resize

end General

instance : SystemHeap Object (Heap Object) where
  memory := Heap.memory
  withMemory heap memory := { heap with memory := memory }
  malloc size heap :=
    match heap.reserve? size with
    | some (address, larger) => (some address, larger)
    | none => (none, heap)
  calloc count size heap :=
    match heap.reserve? (count * size) with
    | some (address, larger) =>
      (some address, { larger with memory := larger.memory.fill address (count * size) Cell.zero })
    | none => (none, heap)
  realloc address size heap :=
    match heap.reserve? size with
    | some (fresh, larger) =>
      let kept := min ((heap.sizeAt? address).getD 0) size
      (some fresh, { larger.without address with memory := larger.memory.copy address fresh kept })
    | none => (none, heap)
  free address heap := heap.without address

end Allotment
