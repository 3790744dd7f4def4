import Allotment.Proofs.GrowArray.Refinement
import Allotment.Proofs.SharedStack.Pools

namespace Allotment
open Allocator Custody
variable {Object α : Type} {stack last : Stack Object}

/-- What a container is: an array or a pool of values of some type. -/
inductive ContainerKind (Object : Type) : Type 1 where
  | array (T : Type) [Element Object T] [LawfulElement Object T]
  | pool (T : Type) [Element Object T] [LawfulElement Object T]

/-- What its owner can see of an array. -/
structure ArrayView (T : Type) where
  elements : List T
  capacity : Nat

/-- What its owner can see of a pool: the slots with their identifiers and values, how many of them have
room, and how many there may be. -/
structure PoolView (T : Type) where
  table : SlotTable T
  capacity : Nat
  limit : Nat

namespace ContainerKind

@[reducible]
def Carrier : ContainerKind Object → Type
  | array T => GrowArray T
  | pool T => Pool T

@[reducible]
def View : ContainerKind Object → Type
  | array T => ArrayView T
  | pool T => PoolView T

/-- How a container is built: as it comes, or with room for elements, or by a configuration. -/
@[reducible]
def Plan : ContainerKind Object → Type
  | array _ => Option Nat
  | pool _ => Option PoolConfig

/-- What may be called on a container. -/
inductive Call : ContainerKind Object → Type → Type 1 where
  | array {T α : Type} [Element Object T] [LawfulElement Object T] (call : GrowArray.Call T α) :
      Call (.array T) α
  | pool {T α : Type} [Element Object T] [LawfulElement Object T] (call : Pool.Call T α) :
      Call (.pool T) α

def blank : (kind : ContainerKind Object) → kind.Carrier
  | array T => .empty T
  | pool T => .empty T .standard

/-- Where the container's block starts, if it has one. -/
def own : (kind : ContainerKind Object) → kind.Carrier → List Nat
  | array _, carrier => carrier.own
  | pool _, carrier => carrier.slots.own

def view : (kind : ContainerKind Object) → kind.Carrier → Memory Object → kind.View
  | array _, carrier, memory => ⟨carrier.toList memory, carrier.capacity⟩
  | pool _, carrier, memory => ⟨carrier.table memory, carrier.slots.capacity, carrier.slotLimit⟩

/-- The container is in order on the stack. -/
def Housed : (kind : ContainerKind Object) → kind.Carrier → Stack Object → Prop
  | array _, carrier, stack => carrier.Housed stack
  | pool _, carrier, stack => carrier.Housed stack

/-- Builds a container on a stack, in place of a blank one. -/
def build : (kind : ContainerKind Object) → kind.Plan → Step Object (kind.Carrier × Stack Object) Unit
  | array _, none => pure ()
  | array _, some capacity => GrowArray.createWithCapacity capacity
  | pool _, none => pure ()
  | pool _, some config => Pool.create config

/-- Gives back what the container has of the stack. -/
def dispose : (kind : ContainerKind Object) → Step Object (kind.Carrier × Stack Object) Unit
  | array _ => GrowArray.dispose
  | pool _ => Pool.dispose

namespace Call
variable {kind : ContainerKind Object}

def operation : Call kind α → Step Object (kind.Carrier × Stack Object) α
  | array call => call.operation
  | pool call => call.operation

/-- What the view alone makes of a call that needs no new storage. Only whether a full pool answers or
aborts is up to the stack. -/
def onView (failsFast : Bool) : Call kind α → kind.View → Except Fault α × kind.View
  | array call, view =>
    let (answer, elements) := call.onList view.elements
    (.ok answer, ⟨elements, view.capacity⟩)
  | pool call, view =>
    let (result, table) := call.onTable view.limit failsFast view.table
    (result, ⟨table, view.capacity, view.limit⟩)

/-- The call needs no new storage. -/
def Roomy : Call kind α → kind.View → Prop
  | array call, view => view.elements.length + call.asks ≤ view.capacity
  | pool call, view => view.table.slots.length + call.asks view.limit view.table ≤ view.capacity

instance : (call : Call kind α) → (view : kind.View) → Decidable (call.Roomy view)
  | array _, _ => Nat.decLe ..
  | pool _, _ => Nat.decLe ..

/-- The fault of a call that needs more storage than the container's block has while that block is not
on top. -/
def growthFault : Call kind α → kind.Carrier → Fault
  | array call, carrier => carrier.growthFault call.asks
  | pool _, carrier => carrier.slots.growthFault 1

end Call

section Turns
variable {kind : ContainerKind Object} {carrier : kind.Carrier}

theorem Housed.live (housed : kind.Housed carrier stack) :
    ∀ address ∈ kind.own carrier, stack.Live address := by
  cases kind with
  | array T => exact fun _ => GrowArray.Housed.live housed
  | pool T => exact fun _ => (Pool.Housed.slots housed).live

theorem Housed.spared (housed : kind.Housed carrier stack) {others others' : List Nat}
    (turn : Stack.Turn others others' stack last)
    (foreign : ∀ address ∈ kind.own carrier, address ∉ others) :
    kind.Housed carrier last ∧ kind.view carrier last.memory = kind.view carrier stack.memory := by
  cases kind with
  | array T =>
    obtain ⟨kept, toList⟩ := GrowArray.Housed.spared housed turn foreign
    exact ⟨kept, congrArg (ArrayView.mk · _) toList⟩
  | pool T =>
    obtain ⟨kept, table⟩ := Pool.Housed.spared housed turn foreign
    exact ⟨kept, congrArg (PoolView.mk · _ _) table⟩

/-- Every call is a turn of its container. -/
theorem Housed.turn (housed : kind.Housed carrier stack) (sound : Sound stack) (call : Call kind α) :
    kind.Housed (call.operation.run (carrier, stack)).state.1
        (call.operation.run (carrier, stack)).state.2 ∧
      Stack.Turn (kind.own carrier) (kind.own (call.operation.run (carrier, stack)).state.1) stack
        (call.operation.run (carrier, stack)).state.2 := by
  cases call with
  | array call => exact GrowArray.Housed.turn housed sound call
  | pool call => exact Pool.Housed.turn housed sound call

theorem build_new (kind : ContainerKind Object) (plan : kind.Plan) (sound : Sound stack) :
    (∃ fault carrier last done, (kind.build plan).run (kind.blank, stack) =
        ⟨.error fault, (carrier, last), done⟩ ∧ Stack.Turn [] [] stack last) ∨
      ∃ carrier last done, (kind.build plan).run (kind.blank, stack) =
        ⟨.ok (), (carrier, last), done⟩ ∧ kind.Housed carrier last ∧
        Stack.Turn [] (kind.own carrier) stack last := by
  have still (nothing : List Nat) (none : nothing = []) : Stack.Turn [] nothing stack stack := by
    rw [none]
    exact .refl sound nofun
  cases kind with
  | array T =>
    cases plan with
    | none => exact .inr ⟨_, _, _, rfl, GrowArray.Housed.empty sound, still _ GrowArray.own_empty⟩
    | some capacity =>
      rcases GrowArray.reserve_new (T := T) sound capacity with
        ⟨fault, last, done, ran, turn⟩ | ⟨array, last, done, ran, housed, _, turn⟩
      · exact .inl ⟨_, _, _, _, (GrowArray.run_createWithCapacity _ _ _).trans ran, turn⟩
      · exact .inr ⟨_, _, _, (GrowArray.run_createWithCapacity _ _ _).trans ran, housed, turn⟩
  | pool T =>
    cases plan with
    | none =>
      exact .inr ⟨_, _, _, rfl, Pool.Housed.empty sound .standard, still _ GrowArray.own_empty⟩
    | some config => exact Pool.create_new sound config

/-- To dispose of a container without a block, or with its block on top, is its last turn. -/
theorem Housed.turn_of_dispose (housed : kind.Housed carrier stack) (sound : Sound stack)
    (top : ∀ address ∈ kind.own carrier, stack.top = address) :
    Stack.Turn (kind.own carrier) [] stack (kind.dispose.run (carrier, stack)).state.2 := by
  cases kind with
  | array T => exact GrowArray.Housed.turn_of_dispose housed sound top
  | pool T =>
    change Stack.Turn _ [] stack (Pool.dispose.run (carrier, stack)).state.2
    rw [Pool.run_dispose_slots]
    exact (Pool.Housed.slots housed).turn_of_dispose sound top

theorem Housed.answered (housed : kind.Housed carrier stack) (call : Call kind α)
    (roomy : call.Roomy (kind.view carrier stack.memory)) :
    ((call.operation.run (carrier, stack)).result,
      kind.view (call.operation.run (carrier, stack)).state.1
        (call.operation.run (carrier, stack)).state.2.memory) =
      call.onView (failsFast stack) (kind.view carrier stack.memory) := by
  cases call with
  | @array T _ _ _ call =>
    have room : carrier.length + call.asks ≤ carrier.capacity := by
      have enough : (carrier.toList stack.memory).length + call.asks ≤ carrier.capacity := roomy
      rwa [GrowArray.length_toList] at enough
    rcases GrowArray.Housed.called housed call with
      ⟨_, _, _, _, full⟩ | ⟨answer, after, last, done, ran, answered, capacity⟩
    · exact absurd full (Nat.not_lt.mpr room)
    · obtain ⟨rfl, toList⟩ := Prod.mk.inj answered
      have ran' : (Call.array call).operation.run (carrier, stack) = _ := ran
      rw [ran']
      change (_, ArrayView.mk (after.toList last.memory) after.capacity) = _
      rw [toList, capacity room]
      rfl
  | @pool T _ _ _ call =>
    rcases (Pool.Housed.represents housed).called (Pool.Housed.valid housed) call with
      ⟨_, _, _, _, _, full, _⟩ | ⟨result, after, last, done, ran, answered⟩
    · exact absurd full (Nat.not_lt.mpr roomy)
    · have ran' : (Call.pool call).operation.run (carrier, stack) = _ := ran
      have table : after.table last.memory = _ := answered.represents.table_eq
      have limit : after.slotLimit = Pool.slotLimit carrier := by
        rw [Pool.slotLimit, Pool.slotLimit, answered.config]
      rw [ran']
      change (_, PoolView.mk (after.table last.memory) after.slots.capacity after.slotLimit) = _
      rw [answered.result, table, answered.capacity roomy, limit]
      rfl

/-- A call that needs new storage while the container's block is not on top faults, and nothing
changes. -/
theorem Housed.run_below (housed : kind.Housed carrier stack) {address : Nat}
    (mine : address ∈ kind.own carrier) (below : address ≠ stack.top) (call : Call kind α)
    (needs : ¬ call.Roomy (kind.view carrier stack.memory)) :
    ∃ done, call.operation.run (carrier, stack) =
      ⟨.error (call.growthFault carrier), (carrier, stack), done⟩ := by
  cases call with
  | @array T _ _ _ call =>
    have full : carrier.capacity < carrier.length + call.asks := by
      have lacks : ¬ (carrier.toList stack.memory).length + call.asks ≤ carrier.capacity := needs
      rw [GrowArray.length_toList] at lacks
      exact Nat.lt_of_not_le lacks
    exact GrowArray.Housed.run_below housed mine below call full
  | pool call => exact Pool.Housed.run_below housed mine below call (Nat.lt_of_not_le needs)

end Turns
end ContainerKind
end Allotment
