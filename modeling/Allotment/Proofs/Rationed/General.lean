import Allotment.Proofs.Allocator.General
import Allotment.Proofs.Allocator.Rationed

namespace Allotment
open HeapLedger
variable {Object η : Type}

/-- The requests that a heap meets, by their size. -/
class HeapRation (η : Type) where
  meets : Nat → Bool

/-- A heap that keeps the contract of its functions and meets a request or not by its size alone. -/
class RationedHeap (Object : outParam Type) (η : Type) [SystemHeap Object η] [HeapLedger η] [HeapRation η] :
    Prop extends LawfulSystemHeap Object η where
  malloc_met {heap : η} {size : Nat} (sound : Sound heap) (asked : size ≠ 0) :
    (SystemHeap.malloc size heap).1.isSome = HeapRation.meets η size
  calloc_met {heap : η} {count size : Nat} (sound : Sound heap) (asked : count * size ≠ 0) :
    (SystemHeap.calloc count size heap).1.isSome = HeapRation.meets η (count * size)
  realloc_met {heap : η} {address held size : Nat} (sound : Sound heap)
    (live : (address, held) ∈ blocks heap) (asked : size ≠ 0) :
    (SystemHeap.realloc address size heap).1.isSome = HeapRation.meets η size

namespace General
open Allocator Custody Rationed
variable [HeapLedger η] [HeapRation η]

instance : Rationed (General η) where
  ration := ⟨Heap.blockAlign, fun size => HeapRation.meets η (max size 1)⟩
  live state := (blocks state.heap).length
  Lenient state := state.failFast = false

private theorem verdict_of_met {size : Nat} {raw : Option Nat}
    (met : raw.isSome = HeapRation.meets η (max size 1)) :
    (answer false size raw).map (fun _ => ()) = (ration (General η)).verdict size := by
  have rule : (ration (General η)).meets size = raw.isSome := met.symm
  rw [Ration.verdict, rule]
  cases raw <;> rfl

variable [SystemHeap Object η] {state : General η} (lenient : state.failFast = false) {size : Nat}
include lenient

private theorem ruled_of_obtained {outcome : Option Nat × η} (done : List (Effect Object))
    (obtained : SystemHeap.Obtained state.heap (max size 1) outcome)
    (met : outcome.1.isSome = HeapRation.meets η (max size 1)) :
    Ruled state size 1 (⟨answer state.failFast size outcome.1, state.onHeap outcome.2, done⟩ :
      Outcome Object (General η) Nat) := by
  obtain ⟨raw, heap⟩ := outcome
  have verdict := verdict_of_met met
  have rule : (ration (General η)).meets size = raw.isSome := met.symm
  have counted := obtained.blocks.length_eq
  refine ⟨lenient ▸ verdict, ?_, lenient⟩
  rw [rule]
  cases raw <;> exact counted

private theorem ruled_of_resized {address room newSize : Nat} {outcome : Option Nat × η}
    (done : List (Effect Object)) (live : (address, room) ∈ blocks state.heap) (asked : newSize ≠ 0)
    (resized : SystemHeap.Resized state.heap (address, room) newSize outcome)
    (met : outcome.1.isSome = HeapRation.meets η newSize) :
    Ruled state newSize 0 (⟨(answer state.failFast newSize outcome.1).map some,
      state.onHeap outcome.2, done⟩ : Outcome Object (General η) (Option Nat)) := by
  obtain ⟨raw, heap⟩ := outcome
  have positive : max newSize 1 = newSize := by omega
  have verdict : ((answer state.failFast newSize raw).map some).map (fun _ => ()) =
      (ration (General η)).verdict newSize := by
    rw [← verdict_of_met (positive.symm ▸ met), lenient]
    cases raw <;> rfl
  have counted := resized.blocks.length_eq
  refine ⟨verdict, ?_, lenient⟩
  rw [ite_self]
  cases raw with
  | none => exact counted
  | some fresh =>
    have one := (List.perm_cons_erase live).length_eq
    exact counted.trans one.symm

omit lenient
variable [RationedHeap Object η]

instance : RationedCustody Object (General η) where
  withMemory_memory := LawfulMemory.withMemory_memory
  alignment_eq _ := rfl
  live_withMemory state memory :=
    congrArg List.length (LawfulSystemHeap.blocks_withMemory state.heap memory)
  lenient_withMemory _ _ lenient := lenient
  rewritten {state memory} sound same := by
    refine ⟨LawfulSystemHeap.written sound fun other _ => same other, ?_⟩
    rintro address size ⟨room, alive, fits⟩
    exact ⟨room, (LawfulSystemHeap.blocks_withMemory state.heap memory).symm ▸ alive, fits⟩
  narrowed := by
    rintro _ _ _ _ ⟨room, live, fits⟩ fewer
    exact ⟨room, live, Nat.le_trans fewer fits⟩
  ruled_allocate {state} ready size := by
    have asked : max size 1 ≠ 0 := by omega
    obtain ⟨done, ran⟩ := run_allocate size state
    have ruled := ruled_of_obtained ready.lenient done (LawfulSystemHeap.malloc ready.sound asked)
      (RationedHeap.malloc_met ready.sound asked)
    rwa [← ran] at ruled
  release_none := rfl
  released := by
    rintro state address size sound ⟨room, live, _⟩
    have fewer := (LawfulSystemHeap.free sound live).blocks.length_eq
    have one := (List.perm_cons_erase live).length_eq
    exact ⟨rfl, (congrArg Nat.succ fewer).trans one.symm⟩
  lenient_release lenient _ := lenient

private theorem zeroed_of_calloc {state : General η} (sound : Sound state) (size : Nat) :
    Zeroed state size ((allocateZeroed size : Step Object (General η) Nat).run state) := by
  have asked : 1 * max size 1 ≠ 0 := by omega
  have obtained := LawfulSystemHeap.calloc sound asked
  rw [Nat.one_mul] at obtained
  obtain ⟨done, ran⟩ := run_allocateZeroed size state
  rw [ran]
  refine ⟨acquired_of_obtained done obtained, fun place answered position inside => ?_⟩
  have met : (SystemHeap.calloc 1 (max size 1) state.heap).1 = some place := by
    change answer _ size (SystemHeap.calloc 1 (max size 1) state.heap).1 = _ at answered
    cases raw : (SystemHeap.calloc 1 (max size 1) state.heap).1 with
    | none => rw [raw] at answered; cases answered
    | some fresh => rw [raw] at answered; exact congrArg some (Except.ok.inj answered)
  exact LawfulSystemHeap.calloc_zero sound asked met position (by omega)

private theorem keeps_of_resize {state : General η} (sound : Sound state) {address newSize size : Nat}
    (asked : newSize ≠ 0) (held : Holds state address size) (oldSize : Nat) {fault : Fault}
    (failed : ((resize (some address) newSize oldSize : Step Object (General η) (Option Nat)).run
      state).result = .error fault) :
    Keeps state ((resize (some address) newSize oldSize : Step Object (General η) (Option Nat)).run
      state).state address size := by
  obtain ⟨room, live, enough⟩ := held
  have heap := LawfulSystemHeap.realloc sound live asked
  obtain ⟨done, ran⟩ := run_resize asked oldSize state
  rw [ran] at failed ⊢
  cases raw : (SystemHeap.realloc address newSize state.heap).1 with
  | some fresh =>
    rw [raw] at failed
    cases failed
  | none =>
    have blocks := heap.blocks
    rw [raw] at blocks
    exact keeps_of_untouched (blocks.mem_iff.mpr live) enough (heap.untouched _ live (.inl raw))

instance : RationedAllocator Object (General η) where
  withMemory_memory := LawfulMemory.withMemory_memory
  alignment_eq := RationedCustody.alignment_eq
  live_withMemory := RationedCustody.live_withMemory
  lenient_withMemory := RationedCustody.lenient_withMemory
  rewritten := RationedCustody.rewritten
  narrowed := (inferInstance : RationedCustody Object (General η)).narrowed
  ruled_allocate := RationedCustody.ruled_allocate
  release_none := RationedCustody.release_none
  released := RationedCustody.released
  lenient_release := RationedCustody.lenient_release
  resize_none := LawfulAllocator.resize_none
  resize := LawfulAllocator.resize
  failsFast_eq lenient := lenient
  zeroed := zeroed_of_calloc
  ruled_allocateZeroed {state} ready size := by
    have asked : 1 * max size 1 ≠ 0 := by omega
    have obtained := LawfulSystemHeap.calloc ready.sound asked
    have met := RationedHeap.calloc_met ready.sound asked
    rw [Nat.one_mul] at obtained met
    obtain ⟨done, ran⟩ := run_allocateZeroed size state
    have ruled := ruled_of_obtained ready.lenient done obtained met
    rwa [← ran] at ruled
  ruled_resize {state address newSize oldSize} ready asked held := by
    obtain ⟨room, live, _⟩ := held
    obtain ⟨done, ran⟩ := run_resize asked oldSize state
    have ruled := ruled_of_resized ready.lenient done live asked
      (LawfulSystemHeap.realloc ready.sound live asked) (RationedHeap.realloc_met ready.sound live asked)
    rwa [← ran] at ruled
  rejected sound asked held _ failed := keeps_of_resize sound asked held _ failed
  resize_zero address oldSize := by
    change resize (some address) 0 oldSize = _
    rw [resize, if_pos rfl]
    rfl

end General
end Allotment
