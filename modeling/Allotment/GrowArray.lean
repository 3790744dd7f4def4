import Allotment.Typed
import Allotment.Text.Written

/-! Growable arrays over any allocator. The elements lie in the memory of the allocator; the array
itself is the address of its block, the number of elements it has room for, and the number it
holds. -/
namespace Allotment

/-- An array of values of a type. Values that take no cells need no block. -/
structure GrowArray (T : Type) where
  address : Nat
  capacity : Nat
  length : Nat

namespace GrowArray
variable {Object σ T α : Type} [Allocator Object σ] [Element Object T]

/-- Room of the first block. -/
def leastCapacity : Nat := 4

/-- An array without elements and without a block. -/
def empty (T : Type) [Element Object T] : GrowArray T :=
  ⟨0, if Element.size T = 0 then wordMax else 0, 0⟩

/-- Where the element at an index lies. -/
def addressOf (array : GrowArray T) (index : Nat) : Nat := array.address + index * Element.size T

def toList (array : GrowArray T) (memory : Memory Object) : List T :=
  (List.range array.length).map fun index => Element.load T memory (array.addressOf index)

def get? (array : GrowArray T) (memory : Memory Object) (index : Nat) : Option T :=
  if index < array.length then some (Element.load T memory (array.addressOf index)) else none

@[simp] theorem length_toList (array : GrowArray T) (memory : Memory Object) :
    (array.toList memory).length = array.length := by simp [toList]

theorem get?_eq_getElem? (array : GrowArray T) (memory : Memory Object) (index : Nat) :
    array.get? memory index = (array.toList memory)[index]? := by
  unfold get? toList
  split
  · next inside => simp [inside]
  · next outside => simp [Nat.le_of_not_lt outside]

def onAllocator (operation : Step Object σ α) : Step Object (GrowArray T × σ) α :=
  Step.onSecond operation

/-- Moves the elements into a block with room for `newCapacity` of them. -/
def growTo (newCapacity : Nat) : Step Object (GrowArray T × σ) Unit := do
  let (array, host) ← Step.get
  Step.assert .arrayGrows (Element.size T != 0 && array.capacity < newCapacity)
  let block := if array.capacity > 0 then some array.address else none
  let grown ← onAllocator (Allocator.resizeArray T block array.capacity newCapacity)
  match grown with
  | none =>
    Step.refuseCapacity (.allocationFailed
      ((arraySize? (Element.size T) newCapacity).getD wordMax) (Allocator.alignment host)) false
  | some address =>
    Step.log (.vectorGrown array.capacity newCapacity)
    Step.modify fun state =>
      ({ state.1 with address := address, capacity := newCapacity }, state.2)

/-- Makes room for `additional` more elements. The new capacity is the least that suffices, at least
twice the old one and at least the room of the first block. -/
def reserve (additional : Nat) : Step Object (GrowArray T × σ) Unit := do
  let (array, _) ← Step.get
  match Word.checkedAdd? array.length additional with
  | none => Step.refuse (.sizeOverflow "AllocVec::try_reserve")
  | some required =>
    if required ≤ array.capacity then pure ()
    else
      growTo (max (max required (Word.saturatingMul array.capacity 2)) leastCapacity)

/-- Appends a value. A value that finds no room is destroyed. -/
def push (value : T) : Step Object (GrowArray T × σ) Unit :=
  Step.owning (Element.destructors value) do
    let (array, _) ← Step.get
    Step.when (array.length == array.capacity) (reserve 1)
    let (roomy, _) ← Step.get
    onAllocator (Allocator.modifyMemory fun memory =>
      Element.store memory (roomy.addressOf roomy.length) value)
    Step.modify fun state => ({ state.1 with length := state.1.length + 1 }, state.2)

def pop : Step Object (GrowArray T × σ) (Option T) := do
  let (array, host) ← Step.get
  match array.length with
  | 0 => pure none
  | last + 1 =>
    Step.set ({ array with length := last }, host)
    pure (some (Element.load T (Allocator.memory host) (array.addressOf last)))

/-- Puts a value in place of the element at an index and hands that element back. -/
def replace (index : Nat) (value : T) : Step Object (GrowArray T × σ) (Option T) := do
  let (array, host) ← Step.get
  match array.get? (Allocator.memory host) index with
  | none => pure none
  | some old =>
    onAllocator (Allocator.modifyMemory fun memory =>
      Element.store memory (array.addressOf index) value)
    pure (some old)

/-- Writes values one after another. -/
def storeAll (memory : Memory Object) (address : Nat) : List T → Memory Object
  | [] => memory
  | value :: rest =>
    storeAll (Element.store memory address value) (address + Element.size T) rest

def reverse : Step Object (GrowArray T × σ) Unit := do
  let (array, _) ← Step.get
  onAllocator (Allocator.modifyMemory fun memory =>
    storeAll memory array.address (array.toList memory).reverse)

/-- Destroys all elements in order and keeps the block. -/
def clear : Step Object (GrowArray T × σ) Unit := do
  let (array, host) ← Step.get
  Step.set ({ array with length := 0 }, host)
  Step.destroy ((array.toList (Allocator.memory host)).flatMap Element.destructors)

/-- An array with room for at least `capacity` elements, in place of whatever was there. -/
def createWithCapacity (capacity : Nat) : Step Object (GrowArray T × σ) Unit := do
  Step.modify fun state => (empty T, state.2)
  reserve capacity

/-- Destroys all elements and releases the block. -/
def dispose : Step Object (GrowArray T × σ) Unit := do
  clear
  let (array, _) ← Step.get
  if Element.size T ≠ 0 ∧ array.capacity > 0 then
    onAllocator (Allocator.releaseArray array.address)

def text (array : GrowArray T) (memory : Memory Object) (element : T → String) : String :=
  Text.list ((array.toList memory).map element)

end GrowArray
end Allotment
