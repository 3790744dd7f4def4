import Allotment.Element.Basic
import Allotment.Word

/-! The slots of a resource pool. A slot holds a value or links to the next free slot, and counts
how often it was freed. A slot never destroys its value. -/
namespace Allotment

inductive SlotState (T : Type) where
  | occupied (value : T)
  | free (next : Option UInt32)

structure Slot (T : Type) where
  generation : UInt32
  state : SlotState T

namespace Slot
/-- The next multiple of `step`. -/
def nextMultiple (value step : Nat) : Nat := (value + (step - 1)) / step * step

theorem le_nextMultiple {step : Nat} (positive : 0 < step) (value : Nat) :
    value ≤ nextMultiple value step := by
  have split := Nat.div_add_mod (value + (step - 1)) step
  have rest := Nat.mod_lt (value + (step - 1)) positive
  rw [nextMultiple, Nat.mul_comm]
  omega

variable {Object T : Type}

def tag : SlotState T → UInt8
  | .free none => 0
  | .free (some _) => 1
  | .occupied _ => 2

/-- The first cells of a slot: generation and tag. -/
def header (slot : Slot T) : List (Cell Object) :=
  Cell.ofBytes (littleEndian 4 slot.generation.toNat ++ [tag slot.state])

@[simp] theorem length_header (slot : Slot T) :
    (header slot : List (Cell Object)).length = 5 := by
  simp [header, Cell.ofBytes]

variable [Element Object T]

/-- Bytes of the state of a slot. A tag hides in a value that has unused content, and a small value
shares the room of the link; otherwise the value follows the tag. -/
def stateSize (T : Type) [Element Object T] : Nat :=
  if Element.hasUnusedContent T then Element.size T
  else if Element.size T ≤ 4 ∧ Element.alignment T ≤ 4 then 8
  else nextMultiple (max 12 (max 4 (Element.alignment T) + Element.size T))
    (max 4 (Element.alignment T))

def slotAlignment (T : Type) [Element Object T] : Nat := max 4 (Element.alignment T)

/-- Bytes of a slot: the generation, the state, and padding. -/
def slotSize (T : Type) [Element Object T] : Nat :=
  nextMultiple (max 12 (max (4 + stateSize T) (5 + Element.size T))) (slotAlignment T)

/-- The cells behind the tag. -/
def payload : SlotState T → List (Cell Object)
  | .free none => []
  | .free (some next) => Cell.ofBytes (littleEndian 4 next.toNat)
  | .occupied value => Element.encode value

/-- The cells of a slot: generation, tag, payload, and zeros up to the size. -/
def encode (slot : Slot T) : List (Cell Object) :=
  header slot ++ (payload slot.state ++
    List.replicate (slotSize T - (5 + (payload slot.state : List (Cell Object)).length)) Cell.zero)

def decode (T : Type) [Element Object T] (cells : List (Cell Object)) : Slot T :=
  let first := Cell.bytes (cells.take 5)
  let rest := cells.drop 5
  let generation := UInt32.ofNat (ofLittleEndian (first.take 4))
  match first.drop 4 with
  | [2] => ⟨generation, .occupied (Element.decode (rest.take (Element.size T)))⟩
  | [1] => ⟨generation, .free (some (UInt32.ofNat (ofLittleEndian (Cell.bytes (rest.take 4)))))⟩
  | _ => ⟨generation, .free none⟩

instance : Element Object (Slot T) where
  size := slotSize T
  alignment := slotAlignment T
  hasUnusedContent := true
  encode := encode
  decode := decode T
  destructors _ := []

theorem slotAlignment_pos : 0 < slotAlignment T := by
  rw [slotAlignment]
  omega

/-- A slot has room for its generation, the tag, and a value or a link. -/
theorem payload_fits : 5 + max 4 (Element.size T) ≤ slotSize T := by
  have rounded := le_nextMultiple (slotAlignment_pos (T := T))
    (max 12 (max (4 + stateSize T) (5 + Element.size T)))
  rw [slotSize]
  omega

theorem length_payload [LawfulElement Object T] (state : SlotState T) :
    (payload state).length ≤ max 4 (Element.size T) := by
  match state with
  | .free none => exact Nat.zero_le _
  | .free (some next) =>
    rw [payload, Cell.ofBytes, List.length_map, length_littleEndian]
    exact Nat.le_max_left ..
  | .occupied value =>
    rw [payload, LawfulElement.length_encode]
    exact Nat.le_max_right ..

theorem length_encode [LawfulElement Object T] (slot : Slot T) :
    (encode slot).length = slotSize T := by
  have fits := payload_fits (T := T)
  have short := length_payload slot.state
  rw [encode, List.length_append, List.length_append, List.length_replicate, length_header]
  omega

theorem decode_encode [LawfulElement Object T] (slot : Slot T) :
    decode T (encode slot) = slot := by
  have first : (encode slot).take 5 = header slot := List.take_left' (length_header slot)
  have rest : (encode slot).drop 5 = payload slot.state ++
      List.replicate (slotSize T - (5 + (payload slot.state : List (Cell Object)).length))
        Cell.zero :=
    List.drop_left' (length_header slot)
  have generation : UInt32.ofNat (ofLittleEndian
      ((littleEndian 4 slot.generation.toNat ++ [tag slot.state]).take 4)) = slot.generation := by
    rw [List.take_left' (length_littleEndian 4 _), ofNat_ofLittleEndian]
  simp only [decode, first, rest, header, Cell.bytes_ofBytes, generation,
    List.drop_left' (length_littleEndian 4 _)]
  match slot with
  | ⟨_, .free none⟩ => rfl
  | ⟨_, .free (some next)⟩ =>
    have link : (Cell.ofBytes (littleEndian 4 next.toNat) : List (Cell Object)).length = 4 := by
      simp [Cell.ofBytes]
    simp only [tag, payload, List.take_left' link, Cell.bytes_ofBytes, ofNat_ofLittleEndian]
  | ⟨_, .occupied value⟩ =>
    simp only [tag, payload, List.take_left' (LawfulElement.length_encode value),
      LawfulElement.decode_encode]

instance [LawfulElement Object T] : LawfulElement Object (Slot T) where
  length_encode := length_encode
  decode_encode := decode_encode
  alignment_pos := slotAlignment_pos
  alignment_dvd_size := Nat.dvd_mul_left ..

/-- The value in a slot whose generation is the given one. -/
def valueAt? (slot : Slot T) (generation : UInt32) : Option T :=
  match slot.state with
  | .occupied value => if slot.generation = generation then some value else none
  | .free _ => none

end Slot
end Allotment
