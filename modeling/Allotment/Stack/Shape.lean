import Allotment.Alignment

namespace Allotment

/-- The bytes in front of every block: two words of 32 bits. -/
def headerSize : Nat := 8

/-- The least alignment of a stack. -/
def leastAlign : Nat := 4

/-- A capacity and an alignment that go together. -/
structure StackShape where
  capacity : Nat
  align : Nat
  align_power : isPowerOfTwo align = true
  align_least : leastAlign ≤ align
  capacity_pos : 0 < capacity
  capacity_multiple : capacity % align = 0
  capacity_lt : capacity < 2 ^ (32 : Nat)

inductive ShapeDefect where
  | alignNotPower (align : Nat)
  | alignTooSmall (align : Nat)
  | capacityZero
  | capacityNotMultiple (capacity align : Nat)
  | capacityTooLarge (capacity : Nat)
  deriving DecidableEq

def ShapeDefect.reason : ShapeDefect → String
  | alignNotPower align => s!"stack alignment {align} is not a power of two"
  | alignTooSmall align => s!"stack alignment {align} is below the minimum of {leastAlign}"
  | capacityZero => "stack capacity cannot be zero"
  | capacityNotMultiple capacity align =>
    s!"stack capacity {capacity} is not a multiple of alignment {align}"
  | capacityTooLarge capacity => s!"stack capacity {capacity} exceeds u32::MAX"

namespace StackShape

/-- The shape with this capacity and alignment, or the first defect. -/
def check (capacity align : Nat) : Except ShapeDefect StackShape :=
  if align_power : isPowerOfTwo align = true then
    if align_least : leastAlign ≤ align then
      if capacity_pos : 0 < capacity then
        if capacity_multiple : capacity % align = 0 then
          if capacity_lt : capacity < 2 ^ (32 : Nat) then
            .ok ⟨capacity, align, align_power, align_least, capacity_pos, capacity_multiple,
              capacity_lt⟩
          else .error (.capacityTooLarge capacity)
        else .error (.capacityNotMultiple capacity align)
      else .error .capacityZero
    else .error (.alignTooSmall align)
  else .error (.alignNotPower align)

end StackShape
end Allotment
