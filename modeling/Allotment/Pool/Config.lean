import Allotment.Step

namespace Allotment

structure PoolConfig where
  /-- Slots that have room from the start. -/
  initialCapacity : Nat
  maxSlots : Option UInt32
  /-- Live values are announced when the pool is destroyed. -/
  warnOnLeak : Bool
  deriving DecidableEq

inductive PoolDefect where
  | noSlots
  | initialAboveMax (initial : Nat) (max : UInt32)
  deriving DecidableEq

def PoolDefect.reason : PoolDefect → String
  | noSlots => "max_slots must be greater than zero"
  | initialAboveMax initial max =>
    s!"initial_capacity {initial} exceeds max_slots " ++ toString max.toNat

namespace PoolConfig

/-- Starts empty and grows without bound. -/
def standard : PoolConfig := ⟨0, none, true⟩

/-- Starts with room for `capacity` slots and grows without bound. -/
def withCapacity (capacity : Nat) : PoolConfig := { standard with initialCapacity := capacity }

/-- Starts with room for all the slots it may ever have. -/
def bounded (slots : UInt32) : PoolConfig :=
  { standard with initialCapacity := slots.toNat, maxSlots := some slots }

/-- The first defect of a configuration. -/
def defect? (config : PoolConfig) : Option PoolDefect :=
  match config.maxSlots with
  | none => none
  | some max =>
    if max = 0 then some .noSlots
    else if max.toNat < config.initialCapacity then
      some (.initialAboveMax config.initialCapacity max)
    else none

/-- Refuses a configuration that contradicts itself. -/
def validate {Object σ : Type} (config : PoolConfig) : Step Object σ Unit :=
  match config.defect? with
  | none => pure ()
  | some defect => Step.refuse (.invalidConfig defect.reason)

def text (config : PoolConfig) : String :=
  Text.record "PoolConfig"
    [("initial_capacity", toString config.initialCapacity),
      ("max_slots", Text.optional (config.maxSlots.map fun max => toString max.toNat)),
      ("warn_on_leak", Text.truth config.warnOnLeak)] false

end PoolConfig
end Allotment
