import Allotment.General
import Allotment.Stack.Operations
import Allotment.Proofs.FailFast.Mirrored

namespace Allotment
open Moded
variable {Object α : Type}

/-- An allocator with a fail-fast mode, and with operations of its own beside the contract. -/
class ModedAllocator (Object : outParam Type) (σ : Type) [Allocator Object σ] extends Moded σ where
  failsFast_inMode (failFast : Bool) (state : σ) : Allocator.failsFast (inMode failFast state) = failFast
  alignment_inMode (failFast : Bool) (state : σ) :
    Allocator.alignment (inMode failFast state) = Allocator.alignment state
  memory_inMode (failFast : Bool) (state : σ) :
    Allocator.memory (inMode failFast state) = Allocator.memory state
  withMemory_inMode (failFast : Bool) (state : σ) (memory : Memory Object) :
    Allocator.withMemory (inMode failFast state) memory = inMode failFast (Allocator.withMemory state memory)
  mirrored_allocate (size : Nat) : (Allocator.allocate size : Step Object σ Nat).MirrorsItself
  mirrored_allocateZeroed (size : Nat) : (Allocator.allocateZeroed size : Step Object σ Nat).MirrorsItself
  mirrored_release (block : Option Nat) : (Allocator.release block : Step Object σ Unit).MirrorsItself
  /-- Only a resize to nothing answers with no block. -/
  mirrored_resize (block : Option Nat) (newSize oldSize : Nat) :
    Step.Mirrored (fun answer => newSize ≠ 0 → answer ≠ none)
      (Allocator.resize block newSize oldSize : Step Object σ (Option Nat))
      (Allocator.resize block newSize oldSize)
  /-- What the allocator can do beside the contract. -/
  Own : Type
  own : Own → Step Object σ Unit
  mirrored_own (call : Own) : (own call).MirrorsItself

namespace General
variable {η : Type} {promise : α → Prop}

instance : Moded (General η) where
  inMode failFast state := { state with failFast := failFast }
  inMode_inMode _ _ _ := rfl

theorem mirrored_ask (function : η → Option Nat × η) :
    (ask function : Step Object (General η) (Option Nat)).MirrorsItself := fun base =>
  .of_answer trivial (General.mk base.failFast (function base.heap).2) rfl

theorem mirrored_nonNull (size : Nat) (raw : Option Nat) :
    (nonNull size raw : Step Object (General η) Nat).MirrorsItself := by
  cases raw with
  | some address => exact .of_pure trivial
  | none =>
    apply Step.Mirrored.get_bind
    intro base
    exact .of_refuseCapacity rfl

variable [SystemHeap Object η]

theorem mirrored_allocate (size : Nat) :
    (allocate size : Step Object (General η) Nat).MirrorsItself := by
  refine (mirrored_ask _).bind fun raw _ => ?_
  exact (Step.Mirrored.of_log _).bind fun _ _ => mirrored_nonNull size raw

theorem mirrored_allocateZeroed (size : Nat) :
    (allocateZeroed size : Step Object (General η) Nat).MirrorsItself :=
  (mirrored_ask _).bind fun raw _ => mirrored_nonNull size raw

theorem mirrored_release (block : Option Nat) :
    (release block : Step Object (General η) Unit).MirrorsItself := by
  cases block with
  | none => exact .of_pure trivial
  | some address => exact .of_modify fun _ _ => rfl

theorem mirrored_resize (block : Option Nat) (newSize oldSize : Nat) :
    Step.Mirrored (fun answer => newSize ≠ 0 → answer ≠ none)
      (resize block newSize oldSize : Step Object (General η) (Option Nat))
      (resize block newSize oldSize) := by
  cases block with
  | none => exact (mirrored_allocate newSize).map fun answer _ _ => Option.some_ne_none answer
  | some address =>
    simp only [resize]
    split
    · next nothing =>
      exact (mirrored_release (some address)).bind fun _ _ => .of_pure fun asked => absurd nothing asked
    · refine (mirrored_ask _).bind fun raw _ => (Step.Mirrored.of_log _).bind fun _ _ => ?_
      exact (mirrored_nonNull newSize raw).map fun answer _ _ => Option.some_ne_none answer

instance : ModedAllocator Object (General η) where
  failsFast_inMode _ _ := rfl
  alignment_inMode _ _ := rfl
  memory_inMode _ _ := rfl
  withMemory_inMode _ _ _ := rfl
  mirrored_allocate := mirrored_allocate
  mirrored_allocateZeroed := mirrored_allocateZeroed
  mirrored_release := mirrored_release
  mirrored_resize := mirrored_resize
  Own := Empty
  own := Empty.elim
  mirrored_own call := call.elim

end General

namespace Stack
variable {promise : α → Prop}

instance : Moded (Stack Object) where
  inMode failFast stack := { stack with config := { stack.config with failFast := failFast } }
  inMode_inMode _ _ _ := rfl

private theorem counted_inMode (failFast : Bool) (stack : Stack Object) (record : Counters → Counters) :
    (inMode failFast stack).counted record = inMode failFast (stack.counted record) := by
  simp only [counted, inMode]
  split
  · rfl
  · rfl

private theorem withFilled_inMode (failFast : Bool) (stack : Stack Object) (start stop : Nat)
    (pattern : Option UInt8) :
    (inMode failFast stack).withFilled start stop pattern =
      inMode failFast (stack.withFilled start stop pattern) := by
  cases pattern with
  | none => rfl
  | some byte => rfl

theorem mirrored_misused (misuse : StackMisuse) :
    Step.Mirrored promise (misused misuse : Step Object (Stack Object) α) (misused misuse) :=
  (Step.Mirrored.of_log _).bind fun _ _ => .of_abort fun _ => Abort.noConfusion

theorem mirrored_count (record : Counters → Counters) :
    (count record : Step Object (Stack Object) Unit).MirrorsItself :=
  .of_modify fun failFast stack => counted_inMode failFast stack record

theorem mirrored_exhausted (requested : Nat) :
    Step.Mirrored promise (exhausted requested : Step Object (Stack Object) α) (exhausted requested) := by
  refine (mirrored_count _).bind fun _ _ => ?_
  apply Step.Mirrored.get_bind
  intro base
  exact .of_refuseCapacity rfl

theorem mirrored_captureHeader : (captureHeader : Step Object (Stack Object) Header).MirrorsItself := by
  apply Step.Mirrored.get_bind
  intro base
  refine (Step.Mirrored.of_assert _ _).bind fun _ _ => ?_
  exact (Step.Mirrored.of_assert _ _).bind fun _ _ => .of_pure trivial

theorem mirrored_writeHeader (offset : Nat) (header : Header) :
    (writeHeader offset header : Step Object (Stack Object) Unit).MirrorsItself := by
  apply Step.Mirrored.get_bind
  intro base
  exact (Step.Mirrored.of_assert _ _).bind fun _ _ => .of_set (base.withHeader offset header)

theorem mirrored_readHeader (offset : Nat) :
    (readHeader offset : Step Object (Stack Object) Header).MirrorsItself := by
  apply Step.Mirrored.get_bind
  intro base
  exact (Step.Mirrored.of_assert _ _).bind fun _ _ => .of_pure trivial

theorem mirrored_fill (start stop : Nat) (pattern : Option UInt8) :
    (fill start stop pattern : Step Object (Stack Object) Unit).MirrorsItself := by
  apply Step.Mirrored.get_bind
  intro base
  refine (Step.Mirrored.of_assert _ _).bind fun _ _ => ?_
  rw [withFilled_inMode, withFilled_inMode]
  exact .of_set _

theorem mirrored_withOffsets (top used : Nat) :
    (Step.modify (·.withOffsets top used) : Step Object (Stack Object) Unit).MirrorsItself :=
  .of_modify fun _ _ => rfl

theorem mirrored_pushAt (size offset stop : Nat) :
    (pushAt size offset stop : Step Object (Stack Object) Nat).MirrorsItself := by
  apply Step.Mirrored.get_bind
  intro base
  refine (Step.Mirrored.of_assert _ _).bind fun _ _ => ?_
  refine mirrored_captureHeader.bind fun header _ => ?_
  refine (mirrored_writeHeader offset header).bind fun _ _ => ?_
  refine (mirrored_fill offset stop _).bind fun _ _ => ?_
  refine (mirrored_withOffsets offset stop).bind fun _ _ => ?_
  refine (mirrored_count _).bind fun _ _ => ?_
  exact (Step.Mirrored.of_log _).bind fun _ _ => .of_pure trivial

theorem mirrored_push (size : Nat) : (push size : Step Object (Stack Object) Nat).MirrorsItself := by
  apply Step.Mirrored.get_bind
  intro base
  have placed : ∀ failFast, (inMode failFast base).placement? size = base.placement? size := fun _ => rfl
  simp only [placed]
  cases base.placement? size with
  | none => exact mirrored_exhausted size
  | some place => exact mirrored_pushAt size place.1 place.2

theorem mirrored_allocateZeroed (size : Nat) :
    (Allocator.allocateZeroed size : Step Object (Stack Object) Nat).MirrorsItself := by
  refine (mirrored_push size).bind fun address _ => ?_
  refine (Step.Mirrored.of_modify fun _ _ => ?_).bind fun _ _ => .of_pure trivial
  rfl

theorem mirrored_offsetOf (address : Nat) :
    (offsetOf address : Step Object (Stack Object) Nat).MirrorsItself := by
  apply Step.Mirrored.get_bind
  intro base
  have found : ∀ failFast, (inMode failFast base).offsetOf? address = base.offsetOf? address :=
    fun _ => rfl
  simp only [found]
  cases base.offsetOf? address with
  | none => exact mirrored_misused (.foreign address)
  | some offset => exact .of_pure trivial

theorem mirrored_popTop (offset : Nat) :
    (popTop offset : Step Object (Stack Object) Unit).MirrorsItself := by
  apply Step.Mirrored.get_bind
  intro base
  refine (mirrored_readHeader offset).bind fun header _ => ?_
  refine (Step.Mirrored.of_assert _ _).bind fun _ _ => ?_
  refine (mirrored_fill offset _ _).bind fun _ _ => ?_
  refine (mirrored_withOffsets header.top header.used).bind fun _ _ => ?_
  exact (mirrored_count _).bind fun _ _ => .of_log _

theorem mirrored_pop (address : Nat) :
    (pop address : Step Object (Stack Object) Unit).MirrorsItself := by
  refine (mirrored_offsetOf address).bind fun offset _ => ?_
  apply Step.Mirrored.get_bind
  intro base
  have top : ∀ failFast, (inMode failFast base).top = base.top := fun _ => rfl
  simp only [top]
  split
  · exact mirrored_misused _
  · split
    · exact mirrored_misused _
    · exact mirrored_popTop offset

theorem mirrored_fillMoved (stop : Nat) :
    (fillMoved stop : Step Object (Stack Object) Unit).MirrorsItself := by
  apply Step.Mirrored.get_bind
  intro base
  have used : ∀ failFast, (inMode failFast base).used = base.used := fun _ => rfl
  simp only [used]
  split
  · exact mirrored_fill _ _ _
  · split
    · exact mirrored_fill _ _ _
    · exact .of_pure trivial

theorem mirrored_resizeTop (offset newSize : Nat) :
    (resizeTop offset newSize : Step Object (Stack Object) Unit).MirrorsItself := by
  apply Step.Mirrored.get_bind
  intro base
  have capacity : ∀ failFast, (inMode failFast base).capacity = base.capacity := fun _ => rfl
  simp only [capacity]
  cases (Word.checkedAdd? offset newSize).filter (· ≤ base.capacity) with
  | none => exact mirrored_exhausted newSize
  | some stop =>
    refine (mirrored_fillMoved stop).bind fun _ _ => ?_
    refine (mirrored_withOffsets base.top stop).bind fun _ _ => ?_
    exact (mirrored_count _).bind fun _ _ => .of_log _

theorem mirrored_resize (block : Option Nat) (newSize oldSize : Nat) :
    Step.Mirrored (fun answer => newSize ≠ 0 → answer ≠ none)
      (resize block newSize oldSize : Step Object (Stack Object) (Option Nat))
      (resize block newSize oldSize) := by
  cases block with
  | none => exact (mirrored_push newSize).map fun answer _ _ => Option.some_ne_none answer
  | some address =>
    simp only [resize]
    split
    · next nothing =>
      exact (mirrored_pop address).bind fun _ _ => .of_pure fun asked => absurd nothing asked
    · refine (mirrored_offsetOf address).bind fun offset _ => ?_
      apply Step.Mirrored.get_bind
      intro base
      have top : ∀ failFast, (inMode failFast base).top = base.top := fun _ => rfl
      simp only [top]
      split
      · exact (mirrored_resizeTop offset newSize).bind fun _ _ => .of_pure fun _ =>
          Option.some_ne_none address
      · split
        · exact mirrored_misused _
        · split
          · exact mirrored_misused _
          · exact .of_pure fun _ => Option.some_ne_none address

theorem mirrored_release (block : Option Nat) :
    (release block : Step Object (Stack Object) Unit).MirrorsItself := by
  cases block with
  | none => exact .of_pure trivial
  | some address => exact mirrored_pop address

theorem mirrored_releaseAll : (releaseAll : Step Object (Stack Object) Unit).MirrorsItself := by
  apply Step.Mirrored.get_bind
  intro base
  refine (Step.Mirrored.of_log _).bind fun _ _ => ?_
  exact (mirrored_fill 0 _ _).bind fun _ _ => mirrored_withOffsets 0 0

/-- What a stack can do beside the contract of allocators. -/
inductive OwnCall where
  | releaseAll
  | reset
  | resetStatistics

def OwnCall.operation : OwnCall → Step Object (Stack Object) Unit
  | releaseAll => Stack.releaseAll
  | reset => Stack.reset
  | resetStatistics => Step.modify Stack.resetStatistics

theorem OwnCall.mirrored (call : OwnCall) :
    (call.operation : Step Object (Stack Object) Unit).MirrorsItself := by
  cases call with
  | releaseAll => exact mirrored_releaseAll
  | reset => exact mirrored_releaseAll.bind fun _ _ => mirrored_count _
  | resetStatistics => exact .of_modify fun _ _ => rfl

instance : ModedAllocator Object (Stack Object) where
  failsFast_inMode _ _ := rfl
  alignment_inMode _ _ := rfl
  memory_inMode _ _ := rfl
  withMemory_inMode _ _ _ := rfl
  mirrored_allocate := mirrored_push
  mirrored_allocateZeroed := mirrored_allocateZeroed
  mirrored_release := mirrored_release
  mirrored_resize := mirrored_resize
  Own := OwnCall
  own := OwnCall.operation
  mirrored_own := OwnCall.mirrored

end Stack
end Allotment
