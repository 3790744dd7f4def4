import Allotment.GrowArray
import Allotment.Pool.Config
import Allotment.Pool.Slot

/-! Resource pools: values behind generational identifiers. Freed slots form a list, last freed
first, and are used again before a new slot is made; freeing a slot changes its generation, so the
identifiers of earlier values stop resolving. A pool never destroys a value it holds. -/
namespace Allotment

structure Pool (T : Type) where
  slots : GrowArray (Slot T)
  freeHead : Option UInt32
  length : Nat
  config : PoolConfig

/-- How a caller can misuse a pool. -/
inductive PoolMisuse where
  /-- An identifier that names no value was freed. -/
  | freeDead (id : ResourceId)
  /-- The list of free slots starts at a slot that holds a value. -/
  | freeHeadOccupied (index : UInt32)
  deriving DecidableEq

def PoolMisuse.details : PoolMisuse → String
  | freeDead id =>
    "free of id " ++ id.display ++ " which is not live (already freed, stale or never allocated)"
  | freeHeadOccupied index =>
    "free list head " ++ toString index.toNat ++ " points at an occupied slot"

namespace Pool
variable {Object σ T α : Type} [Allocator Object σ] [Element Object T]

def component : String := "ResourcePool"

def empty (T : Type) [Element Object T] (config : PoolConfig) : Pool T :=
  ⟨.empty (Slot T), none, 0, config⟩

def onSlots (operation : Step Object (GrowArray (Slot T) × σ) α) : Step Object (Pool T × σ) α :=
  Step.within (fun state => (state.1.slots, state.2))
    (fun state inner => ({ state.1 with slots := inner.1 }, inner.2)) operation

def misused (misuse : PoolMisuse) : Step Object (Pool T × σ) α :=
  Step.usageViolation component misuse.details

/-- Builds a pool with a configuration, in place of whatever was there. -/
def create (config : PoolConfig) : Step Object (Pool T × σ) Unit := do
  config.validate
  Step.modify fun state => (empty T config, state.2)
  onSlots (GrowArray.createWithCapacity config.initialCapacity)
  Step.log (.poolCreated config.initialCapacity config.maxSlots)

def freeCount (pool : Pool T) : Nat := pool.slots.length - pool.length

/-- The slot an identifier points at. -/
def slotAt? (pool : Pool T) (memory : Memory Object) (id : ResourceId) : Option (Slot T) :=
  pool.slots.get? memory id.index.toNat

/-- The value behind an identifier; none for an identifier that is out of range, freed or stale. -/
def get? (pool : Pool T) (memory : Memory Object) (id : ResourceId) : Option T := do
  let slot ← pool.slotAt? memory id
  slot.valueAt? id.generation

def contains (pool : Pool T) (memory : Memory Object) (id : ResourceId) : Bool :=
  (pool.get? memory id).isSome

/-- The values with their identifiers, in slot order. -/
def toList (pool : Pool T) (memory : Memory Object) : List (ResourceId × T) :=
  (pool.slots.toList memory).zipIdx.filterMap fun (slot, index) =>
    match slot.state with
    | .occupied value => some (⟨.ofNat index, slot.generation⟩, value)
    | .free _ => none

/-- Puts a value into the slot at the head of the free list. -/
def reuseSlot (index : UInt32) (value : T) : Step Object (Pool T × σ) ResourceId := do
  let (pool, host) ← Step.get
  match pool.slots.get? (Allocator.memory host) index.toNat with
  | none => Step.abort (.outOfBounds pool.slots.length index.toNat)
  | some slot =>
    match slot.state with
    | .occupied _ => misused (.freeHeadOccupied index)
    | .free next =>
      let _ ← onSlots (GrowArray.replace index.toNat ⟨slot.generation, .occupied value⟩)
      Step.modify fun state => ({ state.1 with freeHead := next }, state.2)
      pure ⟨index, slot.generation⟩

def slotLimit (pool : Pool T) : Nat := (pool.config.maxSlots.getD 0xFFFFFFFF).toNat

/-- Announces the room of the slot array. -/
def announceGrowth : Step Object (Pool T × σ) Unit := do
  let (pool, _) ← Step.get
  Step.log (.poolGrown pool.slots.capacity)

/-- Puts a value into a new slot. Room is made before the slot is. -/
def pushSlot (value : T) : Step Object (Pool T × σ) ResourceId := do
  let (pool, host) ← Step.get
  let index := pool.slots.length
  if pool.slotLimit ≤ index then
    Step.refuseCapacity (.poolExhausted component pool.slotLimit) (Allocator.failsFast host)
  else
    onSlots (GrowArray.reserve 1)
    Step.when (index == pool.slots.capacity) announceGrowth
    onSlots (GrowArray.push ⟨0, .occupied value⟩)
    pure ⟨.ofNat index, 0⟩

/-- Stores a value under an identifier that was never issued before. A value that finds no slot is
destroyed. -/
def insert (value : T) : Step Object (Pool T × σ) ResourceId :=
  Step.owning (Element.destructors value) do
    let (pool, _) ← Step.get
    let id ← match pool.freeHead with
      | some index => reuseSlot index value
      | none => pushSlot value
    Step.modify fun state => ({ state.1 with length := state.1.length + 1 }, state.2)
    Step.log (.slotAllocated id (pool.length + 1))
    pure id

/-- Changes the value behind an identifier; none, and no change, for one that names no value. -/
def update (id : ResourceId) (change : T → T × α) : Step Object (Pool T × σ) (Option α) := do
  let (pool, host) ← Step.get
  match pool.get? (Allocator.memory host) id with
  | none => pure none
  | some value =>
    let (changed, answer) := change value
    let _ ← onSlots (GrowArray.replace id.index.toNat ⟨id.generation, .occupied changed⟩)
    pure (some answer)

/-- Puts a value in place of the one behind an identifier and hands that one back. -/
def replace (id : ResourceId) (value : T) : Step Object (Pool T × σ) (Option T) :=
  update id fun old => (value, old)

/-- Takes the value behind an identifier out; none for an identifier that names no value. The
generation of the slot goes up by one, around the end of the 32-bit range. -/
def remove? (id : ResourceId) : Step Object (Pool T × σ) (Option T) := do
  let (pool, host) ← Step.get
  match pool.get? (Allocator.memory host) id with
  | none => pure none
  | some value =>
    let _ ← onSlots (GrowArray.replace id.index.toNat ⟨id.generation + 1, .free pool.freeHead⟩)
    Step.modify fun state =>
      ({ state.1 with freeHead := some id.index, length := state.1.length - 1 }, state.2)
    Step.log (.slotFreed id (pool.length - 1))
    pure (some value)

/-- Takes the value behind an identifier out; an identifier that names no value is a misuse. -/
def remove (id : ResourceId) : Step Object (Pool T × σ) T := do
  match ← remove? id with
  | some value => pure value
  | none => misused (.freeDead id)

/-- Releases the slot array. Values still held are leaked: no destructor runs for them. -/
def dispose : Step Object (Pool T × σ) Unit := do
  let (pool, _) ← Step.get
  Step.when (0 < pool.length && pool.config.warnOnLeak)
    (Step.log (.poolLeaked pool.length pool.slots.length))
  Step.log (.poolDestroyed pool.slots.length)
  onSlots GrowArray.dispose

/-- Releases the slot array and answers how many values were leaked. -/
def destroy : Step Object (Pool T × σ) Nat := do
  let (pool, _) ← Step.get
  dispose
  pure pool.length

def text (pool : Pool T) : String :=
  Text.record component
    [("len", toString pool.length), ("slots", toString pool.slots.length),
      ("free_head", Text.optional (pool.freeHead.map fun index => toString index.toNat)),
      ("config", pool.config.text)] true

end Pool
end Allotment
