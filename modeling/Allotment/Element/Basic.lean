import Allotment.Memory

/-! Types whose values can lie in memory. A type has a size and an alignment; its values are written
to that many cells and read back from them, and destroying a value runs the destructors of the
objects in it. -/
namespace Allotment

/-- How the values of a type lie in memory. -/
class Element (Object : outParam Type) (T : Type) where
  /-- Cells that a value takes. -/
  size : Nat
  /-- Every address of a value is a multiple of this. -/
  alignment : Nat
  /-- Some content of the cells stands for no value, so a tag can hide there. -/
  hasUnusedContent : Bool
  encode : T → List (Cell Object)
  decode : List (Cell Object) → T
  /-- The objects whose destructors run when a value is destroyed. -/
  destructors : T → List Object

/-- Values fill their cells and are read back as they were written. -/
class LawfulElement (Object : outParam Type) (T : Type) [Element Object T] : Prop where
  length_encode (value : T) : (Element.encode value).length = Element.size T
  decode_encode (value : T) : Element.decode (Element.encode value) = value
  alignment_pos : 0 < Element.alignment T
  alignment_dvd_size : Element.alignment T ∣ Element.size T

namespace Element
variable {Object T : Type} [Element Object T]

def load (T : Type) [Element Object T] (memory : Memory Object) (address : Nat) : T :=
  decode (memory.loadRange address (size T))

def store (memory : Memory Object) (address : Nat) (value : T) : Memory Object :=
  memory.storeRange address (encode value)

theorem load_store [LawfulElement Object T] (memory : Memory Object) (address : Nat) (value : T) :
    load T (store memory address value) address = value := by
  rw [load, store, ← LawfulElement.length_encode value, Memory.loadRange_storeRange,
    LawfulElement.decode_encode]

theorem load_store_of_disjoint {S : Type} [Element Object S] [LawfulElement Object T]
    (memory : Memory Object) {address other : Nat} (value : T)
    (disjoint : address + size T ≤ other ∨ other + size S ≤ address) :
    load S (store memory address value) other = load S memory other := by
  rw [load, store, Memory.loadRange_storeRange_of_disjoint memory
    (by rwa [LawfulElement.length_encode]), ← load]

end Element
end Allotment
