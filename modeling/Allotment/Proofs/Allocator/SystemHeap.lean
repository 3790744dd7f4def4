import Mathlib.Data.List.Pairwise
import Allotment.General

namespace Allotment
variable {Object η : Type}

/-- Two blocks share no byte. -/
def SystemHeap.Apart (first second : Nat × Nat) : Prop :=
  first.1 + first.2 ≤ second.1 ∨ second.1 + second.2 ≤ first.1

instance : Std.Symm SystemHeap.Apart := ⟨fun _ _ => Or.symm⟩

/-- What the contract of the functions of the C heap speaks of. -/
class HeapLedger (η : Type) where
  /-- Nobody wrote outside live blocks, or freed what is not one. -/
  Sound : η → Prop
  /-- Address and size of each live block. -/
  blocks : η → List (Nat × Nat)
  filled {heap : η} (sound : Sound heap) : ∀ block ∈ blocks heap, 0 < block.2
  apart {heap : η} (sound : Sound heap) : (blocks heap).Pairwise SystemHeap.Apart

namespace SystemHeap
open HeapLedger
variable [SystemHeap Object η]

/-- The bytes of a block are the same in both states of the heap. -/
def Untouched (before after : η) (block : Nat × Nat) : Prop :=
  ∀ position, position < block.2 →
    (memory after).load (block.1 + position) = (memory before).load (block.1 + position)

variable [HeapLedger η]

/-- What comes of asking for a block. Without one the live blocks are what they were. -/
structure Obtained (before : η) (size : Nat) (outcome : Option Nat × η) : Prop where
  sound : Sound outcome.2
  blocks : (blocks outcome.2).Perm ((outcome.1.map (·, size)).toList ++ blocks before)
  untouched : ∀ block ∈ HeapLedger.blocks before, Untouched before outcome.2 block

/-- What comes of asking for another size of a block. Without it the block is what it was. -/
structure Resized (before : η) (block : Nat × Nat) (size : Nat) (outcome : Option Nat × η) : Prop where
  sound : Sound outcome.2
  blocks : (blocks outcome.2).Perm (outcome.1.elim (blocks before) fun place =>
    (place, size) :: (HeapLedger.blocks before).erase block)
  untouched : ∀ other ∈ HeapLedger.blocks before, (outcome.1 = none ∨ other ≠ block) →
    Untouched before outcome.2 other
  brought : ∀ place, outcome.1 = some place → ∀ position, position < min block.2 size →
    (memory outcome.2).load (place + position) = (memory before).load (block.1 + position)

/-- What comes of giving a block back. -/
structure Freed (before : η) (block : Nat × Nat) (after : η) : Prop where
  sound : Sound after
  blocks : (blocks after).Perm ((HeapLedger.blocks before).erase block)
  untouched : ∀ other ∈ HeapLedger.blocks before, other ≠ block → Untouched before after other

end SystemHeap

open HeapLedger in
/-- The contract of the functions, as far as callers keep to it: no block is asked for without bytes, and
only a live block is resized or freed. A request may fail at any time. -/
class LawfulSystemHeap (Object : outParam Type) (η : Type) [SystemHeap Object η] [HeapLedger η] :
    Prop where
  memory_withMemory (heap : η) (memory : Memory Object) :
    SystemHeap.memory (SystemHeap.withMemory heap memory) = memory
  withMemory_memory (heap : η) : SystemHeap.withMemory heap (SystemHeap.memory heap) = heap
  blocks_withMemory (heap : η) (memory : Memory Object) :
    blocks (SystemHeap.withMemory heap memory) = blocks heap
  /-- Live blocks may be written to. -/
  written {heap : η} {memory : Memory Object} (sound : Sound heap)
    (outside : ∀ address, (∀ block ∈ blocks heap, address < block.1 ∨ block.1 + block.2 ≤ address) →
      memory.load address = (SystemHeap.memory heap).load address) :
    Sound (SystemHeap.withMemory heap memory)
  malloc {heap : η} {size : Nat} (sound : Sound heap) (asked : size ≠ 0) :
    SystemHeap.Obtained heap size (SystemHeap.malloc size heap)
  calloc {heap : η} {count size : Nat} (sound : Sound heap) (asked : count * size ≠ 0) :
    SystemHeap.Obtained heap (count * size) (SystemHeap.calloc count size heap)
  calloc_zero {heap : η} {count size place : Nat} (sound : Sound heap) (asked : count * size ≠ 0)
    (met : (SystemHeap.calloc count size heap).1 = some place) (position : Nat)
    (inside : position < count * size) :
    (SystemHeap.memory (SystemHeap.calloc count size heap).2).load (place + position) = Cell.zero
  realloc {heap : η} {address held size : Nat} (sound : Sound heap)
    (live : (address, held) ∈ blocks heap) (asked : size ≠ 0) :
    SystemHeap.Resized heap (address, held) size (SystemHeap.realloc address size heap)
  free {heap : η} {address held : Nat} (sound : Sound heap) (live : (address, held) ∈ blocks heap) :
    SystemHeap.Freed heap (address, held) (SystemHeap.free address heap)

end Allotment
