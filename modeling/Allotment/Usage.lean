import Allotment.Fault
import Allotment.Word

namespace Allotment

/-- The memory an allocator has handed out and still has. The total may fail to be a word. -/
structure Usage where
  used : Nat
  available : Option Nat
  total : Except Abort (Option Nat)

namespace Usage

/-- An allocator that knows only what is used and what is available has the sum in total. -/
def ofParts (used : Nat) (available : Option Nat) : Usage where
  used := used
  available := available
  total := match available with
    | none => .ok none
    | some room => match Word.checkedAdd? used room with
      | some total => .ok (some total)
      | none => .error .additionOverflow

/-- The used share of a total in percent, in single precision; nothing has no share. -/
def share (used total : Nat) : Float32 :=
  if total = 0 then 0
  else (used.toUInt64.toFloat32 / total.toUInt64.toFloat32) * 100

/-- The used share in percent, where the total is known. -/
def percent (usage : Usage) : Except Abort (Option Float32) :=
  usage.total.map fun total => total.map (share usage.used)

end Usage
end Allotment
