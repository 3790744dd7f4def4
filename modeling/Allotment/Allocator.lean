import Allotment.Step
import Allotment.Memory

/-! The contract of allocators. An allocator is a state with a memory; it hands out blocks by
address, resizes and releases them, and promises an alignment. Zeroing and resizing have default
forms that use only acquiring and releasing. -/
namespace Allotment

/-- What every allocator can do. -/
class Allocator (Object : outParam Type) (σ : Type) where
  alignment : σ → Nat
  /-- Capacity failures end the operation. -/
  failsFast : σ → Bool := fun _ => false
  memory : σ → Memory Object
  /-- The same allocator with another content of its memory. -/
  withMemory : σ → Memory Object → σ
  /-- Hands out a block of at least that many bytes. -/
  allocate : Nat → Step Object σ Nat
  /-- Takes a block back; the absent block needs nothing. -/
  release : Option Nat → Step Object σ Unit
  /-- Hands out a block whose bytes are zero. -/
  allocateZeroed : Nat → Step Object σ Nat := fun size => do
    let address ← allocate size
    Step.modify fun state => withMemory state ((memory state).fill address size Cell.zero)
    pure address
  /-- Gives a block another size: `resize block newSize oldSize`. Without a block it hands out a new
  one, and the new size zero takes the block back. -/
  resize : Option Nat → Nat → Nat → Step Object σ (Option Nat) := fun block newSize oldSize =>
    match block with
    | none => some <$> allocate newSize
    | some address =>
      if newSize = 0 then do
        release (some address)
        pure none
      else do
        let fresh ← allocate newSize
        Step.modify fun state =>
          withMemory state ((memory state).copy address fresh (min oldSize newSize))
        release (some address)
        pure (some fresh)

namespace Allocator
variable {Object σ : Type} [Allocator Object σ]

/-- Changes the memory of an allocator behind its back. -/
def modifyMemory (change : Memory Object → Memory Object) : Step Object σ Unit :=
  Step.modify fun state => withMemory state (change (memory state))

def readMemory {α : Type} (look : Memory Object → α) : Step Object σ α := do
  let state ← Step.get
  pure (look (memory state))

end Allocator

/-- An allocator reached through a wrapper that passes on only acquiring, releasing and the
alignment; zeroing and resizing take their default forms, and no failure is fatal to a container. -/
structure Forwarding (σ : Type) where
  inner : σ

namespace Forwarding
variable {Object σ α : Type}

/-- Runs an operation of the inner allocator. -/
def lift (operation : Step Object σ α) : Step Object (Forwarding σ) α :=
  Step.within inner (fun _ state => ⟨state⟩) operation

instance [Allocator Object σ] : Allocator Object (Forwarding σ) where
  alignment state := Allocator.alignment state.inner
  memory state := Allocator.memory state.inner
  withMemory state memory := ⟨Allocator.withMemory state.inner memory⟩
  allocate size := lift (Allocator.allocate size)
  release block := lift (Allocator.release block)

end Forwarding
end Allotment
