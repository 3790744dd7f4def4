import Mathlib.Logic.Function.Basic
import Allotment.Element.Value
import Allotment.Proofs.FailFast.Containers

/-! Programs on an allocator with a fail-fast mode: raw and typed blocks, arrays and pools, in any order,
with every fault caught. Run in both modes a program goes through the same states and gets the same
answers, but what is refused for want of capacity in normal mode is fatal in fail-fast mode. -/
namespace Allotment
open Moded
variable {Object σ α : Type}

/-- What a program does with the allocator itself. -/
inductive HostCall (Object σ : Type) [Allocator Object σ] [ModedAllocator Object σ] : Type → Type 1 where
  | allocate (size : Nat) : HostCall Object σ Nat
  | allocateZeroed (size : Nat) : HostCall Object σ Nat
  | resize (block : Option Nat) (newSize oldSize : Nat) : HostCall Object σ (Option Nat)
  | release (block : Option Nat) : HostCall Object σ Unit
  /-- What only this allocator can do. -/
  | own (call : ModedAllocator.Own σ) : HostCall Object σ Unit
  /-- Cells are written to an address. -/
  | write (address : Nat) (cells : List (Cell Object)) : HostCall Object σ Unit
  | checkAlignment (T : Type) [Element Object T] : HostCall Object σ Unit
  | allocateValue {T : Type} [Element Object T] (value : T) : HostCall Object σ Nat
  | allocateArray (T : Type) [Element Object T] (count : Nat) : HostCall Object σ Nat
  | allocateArrayZeroed (T : Type) [Element Object T] (count : Nat) : HostCall Object σ Nat
  | resizeArray (T : Type) [Element Object T] (block : Option Nat) (oldCount newCount : Nat) :
      HostCall Object σ (Option Nat)
  | releaseValue (T : Type) [Element Object T] (address : Nat) : HostCall Object σ Unit
  | releaseArray (address : Nat) : HostCall Object σ Unit

namespace HostCall
variable [Allocator Object σ] [ModedAllocator Object σ]

def operation : HostCall Object σ α → Step Object σ α
  | allocate size => Allocator.allocate size
  | allocateZeroed size => Allocator.allocateZeroed size
  | resize block newSize oldSize => Allocator.resize block newSize oldSize
  | release block => Allocator.release block
  | own call => ModedAllocator.own call
  | write address cells => Allocator.modifyMemory fun memory => memory.storeRange address cells
  | checkAlignment T => Allocator.checkAlignment T
  | allocateValue value => Allocator.allocateValue value
  | allocateArray T count => Allocator.allocateArray T count
  | allocateArrayZeroed T count => Allocator.allocateArrayZeroed T count
  | resizeArray T block oldCount newCount => Allocator.resizeArray T block oldCount newCount
  | releaseValue T address => Allocator.releaseValue T address
  | releaseArray address => Allocator.releaseArray address

theorem mirrored (call : HostCall Object σ α) : call.operation.MirrorsItself := by
  cases call with
  | allocate size => exact ModedAllocator.mirrored_allocate size
  | allocateZeroed size => exact ModedAllocator.mirrored_allocateZeroed size
  | resize block newSize oldSize =>
    exact (ModedAllocator.mirrored_resize block newSize oldSize).weaken fun _ _ => trivial
  | release block => exact ModedAllocator.mirrored_release block
  | own call => exact ModedAllocator.mirrored_own call
  | write address cells =>
    exact Allocator.mirrored_modifyMemory fun memory => memory.storeRange address cells
  | checkAlignment T => exact Allocator.mirrored_checkAlignment T
  | allocateValue value => exact Allocator.mirrored_allocateValue value
  | allocateArray T count => exact Allocator.mirrored_allocateArray T count
  | allocateArrayZeroed T count => exact Allocator.mirrored_allocateArrayZeroed T count
  | resizeArray T block oldCount newCount =>
    exact (Allocator.mirrored_resizeArray T block oldCount newCount).weaken fun _ _ => trivial
  | releaseValue T address => exact Allocator.mirrored_releaseValue T address
  | releaseArray address => exact ModedAllocator.mirrored_release (some address)

end HostCall

/-- The arrays and pools of a program, under their names. What type of elements they have goes by the
name. -/
structure Shelf (Item Value : Nat → Type) where
  arrays : (name : Nat) → Option (GrowArray (Item name))
  pools : (name : Nat) → Option (Pool (Value name))

/-- A place on a shelf for a container of some type. -/
structure Shelf.Place (Item Value : Nat → Type) (C : Type) where
  find : Shelf Item Value → Option C
  put : Shelf Item Value → Option C → Shelf Item Value

namespace Shelf.Place
variable {Item Value : Nat → Type} {C : Type}

def array (name : Nat) : Shelf.Place Item Value (GrowArray (Item name)) where
  find shelf := shelf.arrays name
  put shelf container := { shelf with arrays := Function.update shelf.arrays name container }

def pool (name : Nat) : Shelf.Place Item Value (Pool (Value name)) where
  find shelf := shelf.pools name
  put shelf container := { shelf with pools := Function.update shelf.pools name container }

/-- Builds a container out of a blank one and puts it in its place. What was there is forgotten, unless
there is a fault. -/
def build (place : Shelf.Place Item Value C) (blank : C) (operation : Step Object (C × σ) Unit) :
    Step Object (Shelf Item Value × σ) Unit := do
  let built ← Step.within (fun bench => (blank, bench.2)) (fun bench last => (bench.1, last.2)) do
    operation
    let (container, _) ← Step.get
    pure container
  Step.modify fun bench => (place.put bench.1 (some built), bench.2)

/-- Does something with the container in a place, if there is one, and puts it back or gives it up. -/
def use (place : Shelf.Place Item Value C) (keeps : Bool) (operation : Step Object (C × σ) α) :
    Step Object (Shelf Item Value × σ) (Option α) := do
  let (shelf, _) ← Step.get
  match place.find shelf with
  | none => pure none
  | some container =>
    some <$> Step.within (fun bench => (container, bench.2))
      (fun bench last => (place.put bench.1 (if keeps then some last.1 else none), last.2)) operation

variable [Moded σ] (place : Shelf.Place Item Value C)

theorem mirrored_build (blank : C) {operation : Step Object (C × σ) Unit}
    (mirrors : operation.MirrorsItself) : (place.build blank operation).MirrorsItself := by
  have built : (do operation; let (container, _) ← Step.get; pure container :
      Step Object (C × σ) C).MirrorsItself := by
    refine mirrors.bind fun _ _ => ?_
    apply Step.Mirrored.get_bind
    rintro ⟨container, host⟩
    exact .of_pure trivial
  refine (built.within (fun base => ⟨(blank, base.2), rfl, rfl⟩)
    fun base last => ⟨(base.1, last.2), rfl, rfl⟩).bind fun _ _ => ?_
  exact .of_modify fun _ _ => rfl

theorem mirrored_use (keeps : Bool) {operation : Step Object (C × σ) α}
    (mirrors : operation.MirrorsItself) : (place.use keeps operation).MirrorsItself := by
  apply Step.Mirrored.get_bind
  rintro ⟨shelf, host⟩
  simp only [Moded.inMode_pair]
  cases place.find shelf with
  | none => exact .of_pure trivial
  | some container =>
    refine (mirrors.within (fun base => ⟨(container, base.2), rfl, rfl⟩) fun base last =>
      ⟨(place.put base.1 (if keeps then some last.1 else none), last.2), rfl, rfl⟩).map fun _ _ => trivial

end Shelf.Place

/-- One step of a program. -/
inductive Instruction (Object σ : Type) [Allocator Object σ] [ModedAllocator Object σ]
    (Item Value : Nat → Type) [∀ name, Element Object (Item name)] [∀ name, Element Object (Value name)] :
    Type → Type 1 where
  | host {α : Type} (call : HostCall Object σ α) : Instruction Object σ Item Value α
  /-- A new array, as it comes or with room for so many elements. -/
  | newArray (name : Nat) (capacity : Option Nat) : Instruction Object σ Item Value Unit
  | onArray {α : Type} (name : Nat) (call : GrowArray.Call (Item name) α) :
      Instruction Object σ Item Value (Option α)
  | dropArray (name : Nat) : Instruction Object σ Item Value (Option Unit)
  /-- A new pool, as it comes or by a configuration. -/
  | newPool (name : Nat) (config : Option PoolConfig) : Instruction Object σ Item Value Unit
  | onPool {α : Type} (name : Nat) (call : Pool.Call (Value name) α) :
      Instruction Object σ Item Value (Option α)
  | dropPool (name : Nat) : Instruction Object σ Item Value (Option Unit)
  /-- A pool is given up, and says how many values it held. -/
  | destroyPool (name : Nat) : Instruction Object σ Item Value (Option Nat)
  /-- A look at all there is but the mode. -/
  | inspect {α : Type} (look : Shelf Item Value × σ → α) : Instruction Object σ Item Value α

section Programs
variable [Allocator Object σ] [ModedAllocator Object σ] {Item Value : Nat → Type}
  [∀ name, Element Object (Item name)] [∀ name, Element Object (Value name)]

namespace Instruction

def operation : Instruction Object σ Item Value α → Step Object (Shelf Item Value × σ) α
  | host call => Step.onSecond call.operation
  | newArray name capacity =>
    (Shelf.Place.array name).build (.empty _) (capacity.elim (pure ()) GrowArray.createWithCapacity)
  | onArray name call => (Shelf.Place.array name).use true call.operation
  | dropArray name => (Shelf.Place.array name).use false GrowArray.dispose
  | newPool name config =>
    (Shelf.Place.pool name).build (.empty _ .standard) (config.elim (pure ()) Pool.create)
  | onPool name call => (Shelf.Place.pool name).use true call.operation
  | dropPool name => (Shelf.Place.pool name).use false Pool.dispose
  | destroyPool name => (Shelf.Place.pool name).use false Pool.destroy
  | inspect look => do
    let bench ← Step.get
    pure (look (inMode false bench))

theorem mirrored (instruction : Instruction Object σ Item Value α) :
    instruction.operation.MirrorsItself := by
  cases instruction with
  | host call =>
    exact call.mirrored.within (fun base => ⟨base.2, rfl, rfl⟩) fun base last =>
      ⟨(base.1, last), rfl, rfl⟩
  | newArray name capacity =>
    apply Shelf.Place.mirrored_build
    cases capacity with
    | none => exact .of_pure trivial
    | some capacity => exact GrowArray.mirrored_createWithCapacity capacity
  | onArray name call => exact Shelf.Place.mirrored_use _ true call.mirrored
  | dropArray name => exact Shelf.Place.mirrored_use _ false GrowArray.mirrored_dispose
  | newPool name config =>
    apply Shelf.Place.mirrored_build
    cases config with
    | none => exact .of_pure trivial
    | some config => exact Pool.mirrored_create config
  | onPool name call => exact Shelf.Place.mirrored_use _ true call.mirrored
  | dropPool name => exact Shelf.Place.mirrored_use _ false Pool.mirrored_dispose
  | destroyPool name => exact Shelf.Place.mirrored_use _ false Pool.mirrored_destroy
  | inspect look =>
    apply Step.Mirrored.get_bind
    intro base
    rw [inMode_inMode, inMode_inMode]
    exact .of_pure trivial

end Instruction

variable (Object σ Item Value) in
/-- The steps of a program. Where a step depends on earlier answers, it is the one that was taken. -/
abbrev Program : Type 1 := List ((α : Type) × Instruction Object σ Item Value α)

namespace Program

/-- What there is after a program, with each fault caught. -/
def after (program : Program Object σ Item Value) (bench : Shelf Item Value × σ) :
    Shelf Item Value × σ :=
  program.foldl (fun bench step => (step.2.operation.run bench).state) bench

/-- In both modes a program goes through the same states. -/
theorem after_inMode (program : Program Object σ Item Value) (base : Shelf Item Value × σ) :
    ∃ last, program.after (inMode false base) = inMode false last ∧
      program.after (inMode true base) = inMode true last := by
  induction program generalizing base with
  | nil => exact ⟨base, rfl, rfl⟩
  | cons step rest ih =>
    obtain ⟨next, normal, strict⟩ := (step.2.mirrored base).state
    obtain ⟨last, normal', strict'⟩ := ih next
    refine ⟨last, ?_, ?_⟩
    · rw [← normal']
      exact congrArg (after rest) normal
    · rw [← strict']
      exact congrArg (after rest) strict

end Program
end Programs

/-- Two outcomes of a step, one in normal mode and one in fail-fast mode, that differ in how capacity
failures show and in nothing else. -/
structure SurfacesAs {τ : Type} [Moded τ] (normal strict : Outcome Object τ α) : Prop where
  state : strict.state = inMode true normal.state
  destroyed : Effect.destroyedObjects strict.effects = Effect.destroyedObjects normal.effects
  /-- A capacity failure is refused in normal mode and ends the step in fail-fast mode. -/
  fatal : ∀ error, error.isRetryable = true → normal.result = .error (.refused error) →
    ∃ cause, strict.result = .error (.aborted cause) ∧ cause.message = "fail-fast: " ++ error.message
  /-- All else is the same. -/
  same : (∀ error, error.isRetryable = true → normal.result ≠ .error (.refused error)) →
    strict.result = normal.result
  never_refused : ∀ error, error.isRetryable = true → strict.result ≠ .error (.refused error)
  never_fatal : ∀ error, normal.result ≠ .error (.aborted (.failFast error))

theorem Outcome.Mirrors.surfacesAs {τ : Type} [Moded τ] {promise : α → Prop}
    {normal strict : Outcome Object τ α} (mirrors : Mirrors promise normal strict) :
    SurfacesAs normal strict := by
  obtain ⟨last, done, done', destroyed, ⟨answer, _, rfl, rfl⟩ | ⟨fault, mild, rfl, rfl⟩⟩ := mirrors.forms
  · constructor
    case state => exact (inMode_inMode true false last).symm
    case destroyed => exact destroyed
    case fatal => rintro error _ ⟨⟩
    case same => exact fun _ => rfl
    case never_refused => rintro error _ ⟨⟩
    case never_fatal => rintro error ⟨⟩
  · constructor
    case state => exact (inMode_inMode true false last).symm
    case destroyed => exact destroyed
    case fatal =>
      rintro error passing ⟨⟩
      refine ⟨.failFast error, ?_, rfl⟩
      simp only [Fault.escalated, passing, if_true]
    case same =>
      intro lasting
      cases fault with
      | aborted cause => rfl
      | refused error =>
        have never : error.isRetryable = false := by
          by_contra passing
          exact lasting error (Bool.not_eq_false _ ▸ passing) rfl
        simp only [Fault.escalated, never, Bool.false_eq_true, if_false]
    case never_refused =>
      intro error passing refused
      have same := Except.error.inj refused
      cases fault with
      | aborted cause => cases same
      | refused original =>
        rw [Fault.escalated] at same
        split at same
        · cases same
        · cases same
          contradiction
    case never_fatal => exact fun error failed => mild error (Except.error.inj failed)

/-- Nothing is kept on a shelf in the beginning. -/
def Shelf.bare {Item Value : Nat → Type} : Shelf Item Value := ⟨fun _ => none, fun _ => none⟩

namespace Program
variable {Item Value : Nat → Type} [∀ name, Element Object (Item name)]
  [∀ name, Element Object (Value name)]

theorem surfaces_after [Allocator Object σ] [ModedAllocator Object σ]
    (program : Program Object σ Item Value) (base : Shelf Item Value × σ)
    (next : Instruction Object σ Item Value α) :
    program.after (inMode true base) = inMode true (program.after (inMode false base)) ∧
      SurfacesAs (next.operation.run (program.after (inMode false base)))
        (next.operation.run (program.after (inMode true base))) := by
  obtain ⟨last, normal, strict⟩ := program.after_inMode base
  rw [normal, strict, inMode_inMode]
  exact ⟨rfl, (next.mirrored last).surfacesAs⟩

/-- Whatever a program did on a new stack, or on a heap that answers as it likes, it left the same in both
modes. In fail-fast mode what is refused for want of capacity ends the step, with a message that says so. -/
theorem fail_fast_surfaces {η : Type} [SystemHeap Object η] :
    (∀ (shape : StackShape) (config : StackConfig)
      (program : Program Object (Stack Object) Item Value) (α : Type)
      (next : Instruction Object (Stack Object) Item Value α),
      let normal := program.after (.bare, .empty shape { config with failFast := false })
      let strict := program.after (.bare, .empty shape { config with failFast := true })
      strict = inMode true normal ∧
        SurfacesAs (next.operation.run normal) (next.operation.run strict)) ∧
    ∀ (heap : η) (program : Program Object (General η) Item Value) (α : Type)
      (next : Instruction Object (General η) Item Value α),
      let normal := program.after (.bare, ⟨false, heap⟩)
      let strict := program.after (.bare, ⟨true, heap⟩)
      strict = inMode true normal ∧
        SurfacesAs (next.operation.run normal) (next.operation.run strict) := by
  constructor
  · intro shape config program α next
    exact program.surfaces_after (.bare, .empty shape config) next
  · intro heap program α next
    exact program.surfaces_after (.bare, ⟨false, heap⟩) next

end Program

/-- A request for more than a stack has ends the step in fail-fast mode. -/
example : ((Instruction.host (.allocate 100) :
      Instruction Value (Stack Value) (fun _ => String) (fun _ => Tracked) Nat).operation.run
    (.bare, Stack.empty ⟨64, 8, rfl, by decide, by decide, rfl, by decide⟩ .failing)).result =
    .error (.aborted (.failFast (.arenaExhausted Stack.component 100 64))) := rfl

end Allotment
