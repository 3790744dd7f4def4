import Allotment.Allocator
import Allotment.Text.Written
import Allotment.Usage

/-! The process heap. Blocks get fresh addresses that are never used twice, so a block that is
resized moves, and a request is met or refused by its size alone. -/
namespace Allotment

/-- A handle on the process heap and the blocks handed out through it. -/
structure Heap (Object : Type) where
  /-- Refused requests end the operation. -/
  failFast : Bool
  memory : Memory Object
  frontier : Nat
  /-- Address and size of each live block. -/
  blocks : List (Nat × Nat)

namespace Heap
variable {Object α : Type}

def blockAlign : Nat := 16

def largestRequest : Nat := 2 ^ (40 : Nat)

def empty (failFast : Bool) : Heap Object := ⟨failFast, .blank, blockAlign, []⟩

/-- The first address behind a block, rounded up to the alignment of blocks. -/
def behind (address size : Nat) : Nat :=
  (address + size + (blockAlign - 1)) / blockAlign * blockAlign

def sizeAt? (heap : Heap Object) (address : Nat) : Option Nat := heap.blocks.lookup address

def refuse (size : Nat) : Step Object (Heap Object) α := do
  let heap ← Step.get
  Step.refuseCapacity (.allocationFailed size blockAlign) heap.failFast

/-- Reserves at least one byte at a fresh address, if the heap meets requests of that size. -/
def reserve? (heap : Heap Object) (size : Nat) : Option (Nat × Heap Object) :=
  let room := max size 1
  if room ≤ largestRequest then
    some (heap.frontier,
      { heap with
        frontier := behind heap.frontier room
        blocks := (heap.frontier, room) :: heap.blocks })
  else none

def without (heap : Heap Object) (address : Nat) : Heap Object :=
  { heap with blocks := heap.blocks.filter fun block => block.1 != address }

def allocate (size : Nat) : Step Object (Heap Object) Nat := do
  let heap ← Step.get
  match heap.reserve? size with
  | some (address, larger) =>
    Step.set larger
    Step.log (.heapAllocated size address)
    pure address
  | none =>
    Step.log (.heapAllocated size 0)
    refuse size

def allocateZeroed (size : Nat) : Step Object (Heap Object) Nat := do
  let heap ← Step.get
  match heap.reserve? size with
  | some (address, larger) =>
    Step.set { larger with memory := larger.memory.fill address (max size 1) Cell.zero }
    pure address
  | none => refuse size

/-- Takes a block back; the absent block needs nothing. -/
def release : Option Nat → Step Object (Heap Object) Unit
  | none => pure ()
  | some address => Step.modify (·.without address)

/-- Gives a block another size by moving it. The bytes both sizes have in common come along. -/
def resize (block : Option Nat) (newSize _oldSize : Nat) :
    Step Object (Heap Object) (Option Nat) :=
  match block with
  | none => some <$> allocate newSize
  | some address =>
    if newSize = 0 then do
      release (some address)
      pure none
    else do
      let heap ← Step.get
      match heap.reserve? newSize with
      | some (fresh, larger) =>
        let kept := min ((heap.sizeAt? address).getD 0) newSize
        Step.set { larger.without address with memory := larger.memory.copy address fresh kept }
        Step.log (.heapResized newSize address fresh)
        pure (some fresh)
      | none =>
        Step.log (.heapResized newSize address 0)
        refuse newSize

instance : Allocator Object (Heap Object) where
  alignment _ := blockAlign
  failsFast := failFast
  memory := memory
  withMemory heap memory := { heap with memory := memory }
  allocate := allocate
  release := release
  allocateZeroed := allocateZeroed
  resize := resize

/-- The heap does not say how much of it is in use. -/
def usage (_ : Heap Object) : Usage := .ofParts 0 none

def text (heap : Heap Object) : String :=
  Text.record "GeneralAllocator" [("fail_fast", Text.truth heap.failFast)] false

end Heap
end Allotment
