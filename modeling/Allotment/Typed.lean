import Allotment.Alignment
import Allotment.Allocator
import Allotment.Element.Basic

namespace Allotment.Allocator
variable {Object σ T : Type} [Allocator Object σ]

/-- Refuses a type that needs a stricter alignment than the allocator has. -/
def checkAlignment (T : Type) [Element Object T] : Step Object σ Unit := do
  let state ← Step.get
  if alignment state < Element.alignment T then
    Step.refuse (.invalidAlignment (Element.alignment T) (alignment state))

/-- The byte size of `count` values; a size that is not a word is refused in the name of
`operation`. -/
def arrayBytes (T : Type) [Element Object T] (count : Nat) (operation : String) :
    Step Object σ Nat :=
  match arraySize? (Element.size T) count with
  | some size => pure size
  | none => Step.refuse (.sizeOverflow operation)

/-- Moves a value into a new block. A value that finds no block is destroyed. -/
def allocateValue [Element Object T] (value : T) : Step Object σ Nat :=
  Step.owning (Element.destructors value) do
    checkAlignment T
    let address ← allocate (Element.size T)
    modifyMemory fun memory => Element.store memory address value
    pure address

/-- A block with room for `count` values. -/
def allocateArray (T : Type) [Element Object T] (count : Nat) : Step Object σ Nat := do
  checkAlignment T
  let size ← arrayBytes T count "alloc_array"
  allocate size

/-- A block of zero bytes with room for `count` values. -/
def allocateArrayZeroed (T : Type) [Element Object T] (count : Nat) : Step Object σ Nat := do
  checkAlignment T
  let size ← arrayBytes T count "alloc_array_zeroed"
  allocateZeroed size

/-- Gives a block room for `newCount` values in place of `oldCount`. -/
def resizeArray (T : Type) [Element Object T] (block : Option Nat) (oldCount newCount : Nat) :
    Step Object σ (Option Nat) := do
  checkAlignment T
  let newSize ← arrayBytes T newCount "realloc_array"
  resize block newSize ((arraySize? (Element.size T) oldCount).getD wordMax)

/-- Destroys the value in a block, then releases the block. The value is gone even if the release is
rejected. -/
def releaseValue (T : Type) [Element Object T] (address : Nat) : Step Object σ Unit := do
  let value ← readMemory (Element.load T · address)
  Step.destroy (Element.destructors value)
  release (some address)

/-- Releases a block without destroying what is in it. -/
def releaseArray (address : Nat) : Step Object σ Unit := release (some address)

end Allotment.Allocator
