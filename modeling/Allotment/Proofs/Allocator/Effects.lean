import Allotment.General
import Allotment.Stack.Operations

/-! What operations do beside changing a state. Whatever an allocator does when it grants, resizes, takes
back or refuses a block, it destroys no object and ends no pool: all it leaves behind is log entries. -/
namespace Allotment
variable {Object σ τ α β : Type}

/-- The event says that a pool was torn down. -/
def Event.endsPool : Event → Bool
  | poolDestroyed _ => true
  | _ => false

namespace Effect

/-- A pool was torn down. -/
def endsPool : Effect Object → Bool
  | logged event => event.endsPool
  | destroyed _ => false

/-- Something was logged, and not that a pool was torn down. -/
def Incidental (effect : Effect Object) : Prop := ∃ event, effect = logged event ∧ event.endsPool = false

theorem incidental_logged {event : Event} (other : event.endsPool = false) :
    (logged event : Effect Object).Incidental := ⟨event, rfl, other⟩

theorem Incidental.endsPool {effect : Effect Object} (incidental : effect.Incidental) :
    effect.endsPool = false := by
  obtain ⟨event, rfl, other⟩ := incidental
  exact other

theorem incidental_announcement (error : MemoryError) (failFast : Bool) :
    ∀ effect ∈ (error.announcement failFast : List (Effect Object)), effect.Incidental := by
  intro effect member
  rcases List.mem_append.mp member with announced | fatal
  · cases error <;> simp only [MemoryError.event?, Option.map_some, Option.map_none,
      Option.toList_some, Option.toList_none, List.mem_singleton, List.not_mem_nil] at announced <;>
      subst announced <;> exact incidental_logged rfl
  · cases failFast with
    | false => cases fatal
    | true =>
      obtain rfl := List.mem_singleton.mp fatal
      exact incidental_logged rfl

@[simp] theorem destroyedObjects_logged (events : List Event) :
    destroyedObjects (events.map (.logged : Event → Effect Object)) = [] := by
  simp [destroyedObjects]

@[simp] theorem destroyedObjects_destroyed (objects : List Object) :
    destroyedObjects (objects.map .destroyed) = objects := by
  rw [destroyedObjects, List.filterMap_map]
  exact List.filterMap_some

theorem destroyedObjects_of_incidental {effects : List (Effect Object)}
    (incidental : ∀ effect ∈ effects, effect.Incidental) : destroyedObjects effects = [] := by
  rw [destroyedObjects, List.filterMap_eq_nil_iff]
  intro effect member
  obtain ⟨event, rfl, _⟩ := incidental effect member
  rfl

end Effect

namespace Step
variable {allowed : Effect Object → Prop} {operation : Step Object σ α} {follow : α → Step Object σ β}

/-- Whatever state the operation begins in, all it does beside changing it is allowed. -/
def Emits (allowed : Effect Object → Prop) (operation : Step Object σ α) : Prop :=
  ∀ state, ∀ effect ∈ (operation.run state).effects, allowed effect

/-- The operation leaves nothing behind but incidental log entries. -/
abbrev Discreet (operation : Step Object σ α) : Prop := Emits Effect.Incidental operation

namespace Emits

theorem of_quiet (quiet : ∀ state, (operation.run state).effects = []) : Emits allowed operation := by
  intro state effect member
  rw [quiet state] at member
  cases member

theorem of_pure (answer : α) : Emits allowed (pure answer : Step Object σ α) := of_quiet fun _ => rfl

theorem of_modify (change : σ → σ) : Emits allowed (modify change : Step Object σ Unit) :=
  of_quiet fun _ => rfl

theorem of_set (state : σ) : Emits allowed (set state : Step Object σ Unit) := of_quiet fun _ => rfl

theorem of_refuse (error : MemoryError) : Emits allowed (refuse error : Step Object σ α) :=
  of_quiet fun _ => rfl

theorem of_abort (cause : Abort) : Emits allowed (abort cause : Step Object σ α) := of_quiet fun _ => rfl

theorem of_assert (condition : Assertion) (holds : Bool) :
    Emits allowed (assert condition holds : Step Object σ Unit) := by
  cases holds with
  | true => exact of_pure ()
  | false => exact of_abort _

theorem of_log {event : Event} (fine : allowed (.logged event)) :
    Emits allowed (log event : Step Object σ Unit) := by
  rintro state effect member
  obtain rfl := List.mem_singleton.mp member
  exact fine

/-- The second operation goes on from any answer of the first. -/
theorem bind (begins : Emits allowed operation) (goes : ∀ answer, Emits allowed (follow answer)) :
    Emits allowed (operation >>= follow) := by
  intro state effect member
  have first := begins state
  rcases ran : operation.run state with ⟨fault | answer, middle, done⟩ <;> rw [ran] at first
  · rw [run_bind_of_error ran] at member
    exact first effect member
  · rw [run_bind_of_ok ran] at member
    rcases List.mem_append.mp member with earlier | later
    · exact first effect earlier
    · exact goes answer middle effect later

theorem get_bind {follow : σ → Step Object σ β} (goes : ∀ state, Emits allowed (follow state)) :
    Emits allowed (get >>= follow) := (of_quiet fun _ => rfl).bind goes

theorem map (emits : Emits allowed operation) (change : α → β) : Emits allowed (change <$> operation) := by
  intro state
  rw [run_map]
  exact emits state

theorem when {operation : Step Object σ Unit} (emits : Emits allowed operation) (condition : Bool) :
    Emits allowed (when condition operation) := by
  cases condition with
  | false => exact of_pure ()
  | true => exact emits

theorem within {part : τ → σ} {replace : τ → σ → τ} (emits : Emits allowed operation) :
    Emits allowed (within part replace operation) := fun whole => emits (part whole)

/-- An operation that owns objects may have to destroy them. -/
theorem owning {objects : List Object} (emits : Emits allowed operation)
    (fine : ∀ object ∈ objects, allowed (.destroyed object)) :
    Emits allowed (owning objects operation) := by
  intro state effect member
  have inner := emits state
  rcases ran : operation.run state with ⟨fault | answer, last, done⟩ <;> rw [ran] at inner
  · rw [run_owning_of_error ran] at member
    rcases List.mem_append.mp member with earlier | dropped
    · exact inner effect earlier
    · obtain ⟨object, owned, rfl⟩ := List.mem_map.mp dropped
      exact fine object owned
  · rw [run_owning_of_ok ran] at member
    exact inner effect member

theorem weaken (emits : Emits allowed operation) {weaker : Effect Object → Prop}
    (implies : ∀ effect, allowed effect → weaker effect) : Emits weaker operation :=
  fun state effect member => implies effect (emits state effect member)

end Emits

theorem discreet_log {event : Event} (other : event.endsPool = false) :
    (log event : Step Object σ Unit).Discreet := .of_log (Effect.incidental_logged other)

theorem discreet_refuseCapacity (error : MemoryError) (failFast : Bool) :
    (refuseCapacity error failFast : Step Object σ α).Discreet := by
  intro state
  rw [run_refuseCapacity]
  exact Effect.incidental_announcement error failFast

theorem discreet_usageViolation (component details : String) :
    (usageViolation component details : Step Object σ α).Discreet :=
  (discreet_log rfl).bind fun _ => .of_abort _

end Step

/-- An allocator whose requests leave nothing behind but log entries. -/
class DiscreetAllocator (Object : outParam Type) (σ : Type) [Allocator Object σ] : Prop where
  allocate (size : Nat) : (Allocator.allocate size : Step Object σ Nat).Discreet
  release (block : Option Nat) : (Allocator.release block : Step Object σ Unit).Discreet
  resize (block : Option Nat) (newSize oldSize : Nat) :
    (Allocator.resize block newSize oldSize : Step Object σ (Option Nat)).Discreet

namespace Heap
open Step

theorem discreet_refuse (size : Nat) : (refuse size : Step Object (Heap Object) α).Discreet :=
  .get_bind fun _ => discreet_refuseCapacity _ _

theorem discreet_allocate (size : Nat) : (allocate size : Step Object (Heap Object) Nat).Discreet := by
  apply Emits.get_bind
  intro heap
  cases heap.reserve? size with
  | none => exact (discreet_log rfl).bind fun _ => discreet_refuse size
  | some reserved =>
    refine (Emits.of_set _).bind fun _ => ?_
    exact (discreet_log rfl).bind fun _ => .of_pure _

theorem discreet_release (block : Option Nat) :
    (release block : Step Object (Heap Object) Unit).Discreet := by
  cases block with
  | none => exact .of_pure ()
  | some address => exact .of_modify _

theorem discreet_resize (block : Option Nat) (newSize oldSize : Nat) :
    (resize block newSize oldSize : Step Object (Heap Object) (Option Nat)).Discreet := by
  cases block with
  | none => exact (discreet_allocate newSize).map some
  | some address =>
    simp only [resize]
    split
    · exact (discreet_release (some address)).bind fun _ => .of_pure none
    · apply Emits.get_bind
      intro heap
      cases heap.reserve? newSize with
      | none => exact (discreet_log rfl).bind fun _ => discreet_refuse newSize
      | some reserved =>
        refine (Emits.of_set _).bind fun _ => ?_
        exact (discreet_log rfl).bind fun _ => .of_pure _

instance : DiscreetAllocator Object (Heap Object) := ⟨discreet_allocate, discreet_release, discreet_resize⟩

end Heap

namespace General
open Step
variable {η : Type}

theorem discreet_nonNull (size : Nat) (raw : Option Nat) :
    (nonNull size raw : Step Object (General η) Nat).Discreet := by
  cases raw with
  | some address => exact .of_pure address
  | none => exact .get_bind fun _ => discreet_refuseCapacity _ _

variable [SystemHeap Object η]

theorem discreet_allocate (size : Nat) : (allocate size : Step Object (General η) Nat).Discreet := by
  refine (Emits.of_quiet fun _ => rfl).bind fun raw => ?_
  exact (discreet_log rfl).bind fun _ => discreet_nonNull size raw

theorem discreet_release (block : Option Nat) :
    (release block : Step Object (General η) Unit).Discreet := by
  cases block with
  | none => exact .of_pure ()
  | some address => exact .of_modify _

theorem discreet_resize (block : Option Nat) (newSize oldSize : Nat) :
    (resize block newSize oldSize : Step Object (General η) (Option Nat)).Discreet := by
  cases block with
  | none => exact (discreet_allocate newSize).map some
  | some address =>
    simp only [resize]
    split
    · exact (discreet_release (some address)).bind fun _ => .of_pure none
    · refine (Emits.of_quiet fun _ => rfl).bind fun raw => ?_
      exact (discreet_log rfl).bind fun _ => (discreet_nonNull newSize raw).map some

instance : DiscreetAllocator Object (General η) := ⟨discreet_allocate, discreet_release, discreet_resize⟩

end General

namespace Stack
open Step

theorem discreet_exhausted (requested : Nat) :
    (exhausted requested : Step Object (Stack Object) α).Discreet :=
  (Emits.of_modify _).bind fun _ => .get_bind fun _ => discreet_refuseCapacity _ _

theorem discreet_writeHeader (offset : Nat) (header : Header) :
    (writeHeader offset header : Step Object (Stack Object) Unit).Discreet :=
  .get_bind fun _ => (Emits.of_assert _ _).bind fun _ => .of_set _

theorem discreet_captureHeader : (captureHeader : Step Object (Stack Object) Header).Discreet := by
  apply Emits.get_bind
  intro stack
  refine (Emits.of_assert _ _).bind fun _ => ?_
  exact (Emits.of_assert _ _).bind fun _ => .of_pure _

theorem discreet_readHeader (offset : Nat) :
    (readHeader offset : Step Object (Stack Object) Header).Discreet :=
  .get_bind fun _ => (Emits.of_assert _ _).bind fun _ => .of_pure _

theorem discreet_fill (start stop : Nat) (pattern : Option UInt8) :
    (fill start stop pattern : Step Object (Stack Object) Unit).Discreet :=
  .get_bind fun _ => (Emits.of_assert _ _).bind fun _ => .of_set _

theorem discreet_pushAt (size offset stop : Nat) :
    (pushAt size offset stop : Step Object (Stack Object) Nat).Discreet := by
  apply Emits.get_bind
  intro stack
  refine (Emits.of_assert _ _).bind fun _ => ?_
  refine discreet_captureHeader.bind fun header => ?_
  refine (discreet_writeHeader offset header).bind fun _ => ?_
  refine (discreet_fill offset stop _).bind fun _ => ?_
  refine (Emits.of_modify _).bind fun _ => (Emits.of_modify _).bind fun _ => ?_
  exact (discreet_log rfl).bind fun _ => .of_pure offset

theorem discreet_push (size : Nat) : (push size : Step Object (Stack Object) Nat).Discreet := by
  apply Emits.get_bind
  intro stack
  cases stack.placement? size with
  | none => exact discreet_exhausted size
  | some place => exact discreet_pushAt size place.1 place.2

theorem discreet_offsetOf (address : Nat) :
    (offsetOf address : Step Object (Stack Object) Nat).Discreet := by
  apply Emits.get_bind
  intro stack
  cases stack.offsetOf? address with
  | none => exact discreet_usageViolation _ _
  | some offset => exact .of_pure offset

theorem discreet_popTop (offset : Nat) : (popTop offset : Step Object (Stack Object) Unit).Discreet := by
  apply Emits.get_bind
  intro stack
  refine (discreet_readHeader offset).bind fun header => ?_
  refine (Emits.of_assert _ _).bind fun _ => ?_
  refine (discreet_fill offset _ _).bind fun _ => ?_
  refine (Emits.of_modify _).bind fun _ => (Emits.of_modify _).bind fun _ => ?_
  exact discreet_log rfl

theorem discreet_pop (address : Nat) : (pop address : Step Object (Stack Object) Unit).Discreet := by
  refine (discreet_offsetOf address).bind fun offset => .get_bind fun stack => ?_
  split
  · exact discreet_usageViolation _ _
  · split
    · exact discreet_usageViolation _ _
    · exact discreet_popTop offset

theorem discreet_fillMoved (stop : Nat) :
    (fillMoved stop : Step Object (Stack Object) Unit).Discreet := by
  apply Emits.get_bind
  intro stack
  split
  · exact discreet_fill _ _ _
  · split
    · exact discreet_fill _ _ _
    · exact .of_pure ()

theorem discreet_resizeTop (offset newSize : Nat) :
    (resizeTop offset newSize : Step Object (Stack Object) Unit).Discreet := by
  apply Emits.get_bind
  intro stack
  cases (Word.checkedAdd? offset newSize).filter (· ≤ stack.capacity) with
  | none => exact discreet_exhausted newSize
  | some stop =>
    refine (discreet_fillMoved stop).bind fun _ => ?_
    refine (Emits.of_modify _).bind fun _ => (Emits.of_modify _).bind fun _ => ?_
    exact discreet_log rfl

theorem discreet_release (block : Option Nat) :
    (release block : Step Object (Stack Object) Unit).Discreet := by
  cases block with
  | none => exact .of_pure ()
  | some address => exact discreet_pop address

theorem discreet_resize (block : Option Nat) (newSize oldSize : Nat) :
    (resize block newSize oldSize : Step Object (Stack Object) (Option Nat)).Discreet := by
  cases block with
  | none => exact (discreet_push newSize).map some
  | some address =>
    simp only [resize]
    split
    · exact (discreet_pop address).bind fun _ => .of_pure none
    · refine (discreet_offsetOf address).bind fun offset => .get_bind fun stack => ?_
      split
      · exact (discreet_resizeTop offset newSize).bind fun _ => .of_pure _
      · split
        · exact discreet_usageViolation _ _
        · split
          · exact discreet_usageViolation _ _
          · exact .of_pure _

instance : DiscreetAllocator Object (Stack Object) := ⟨discreet_push, discreet_release, discreet_resize⟩

end Stack

end Allotment
