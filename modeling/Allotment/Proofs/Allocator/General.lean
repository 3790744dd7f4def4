import Allotment.Proofs.Allocator.Contract
import Allotment.Proofs.Allocator.SystemHeap

namespace Allotment.General
open Allocator Custody HeapLedger
variable {Object η : Type}

/-- A pointer is an answer, and the null pointer is a refusal of that size. -/
def answer (failFast : Bool) (size : Nat) (raw : Option Nat) : Except Fault Nat :=
  raw.elim (.error ((MemoryError.allocationFailed size Heap.blockAlign).fault failFast)) .ok

/-- The allocator once its heap is another. -/
def onHeap (state : General η) (heap : η) : General η := { state with heap := heap }

section Runs
variable {state : General η}

theorem run_ask (function : η → Option Nat × η) (state : General η) :
    (ask function : Step Object (General η) (Option Nat)).run state =
      ⟨.ok (function state.heap).1, state.onHeap (function state.heap).2, []⟩ := rfl

theorem run_nonNull_none (size : Nat) (state : General η) :
    (nonNull size none : Step Object (General η) Nat).run state =
      let error := MemoryError.allocationFailed size Heap.blockAlign
      ⟨.error (error.fault state.failFast), state, error.announcement state.failFast⟩ := by
  rw [nonNull, Step.run_bind_of_quiet (Step.run_get state), Step.run_refuseCapacity]

theorem run_nonNull (size : Nat) (raw : Option Nat) (state : General η) :
    ∃ done, (nonNull size raw : Step Object (General η) Nat).run state =
      ⟨answer state.failFast size raw, state, done⟩ := by
  cases raw with
  | some address => exact ⟨_, rfl⟩
  | none => exact ⟨_, run_nonNull_none size state⟩

variable [SystemHeap Object η]

theorem run_allocate (size : Nat) (state : General η) :
    ∃ done, (allocate size : Step Object (General η) Nat).run state =
      ⟨answer state.failFast size (SystemHeap.malloc (max size 1) state.heap).1,
        state.onHeap (SystemHeap.malloc (max size 1) state.heap).2, done⟩ := by
  obtain ⟨done, ran⟩ := @run_nonNull Object η size
    (SystemHeap.malloc (max size 1) state.heap).1
    (state.onHeap (SystemHeap.malloc (max size 1) state.heap).2)
  rw [allocate, Step.run_bind_of_quiet (run_ask _ state), Step.run_bind_of_ok (Step.run_log _ _), ran]
  exact ⟨_, rfl⟩

theorem run_allocateZeroed (size : Nat) (state : General η) :
    ∃ done, (allocateZeroed size : Step Object (General η) Nat).run state =
      ⟨answer state.failFast size (SystemHeap.calloc 1 (max size 1) state.heap).1,
        state.onHeap (SystemHeap.calloc 1 (max size 1) state.heap).2, done⟩ := by
  rw [allocateZeroed, Step.run_bind_of_quiet (run_ask _ state)]
  exact run_nonNull size _ _

theorem run_resize {address newSize : Nat} (asked : newSize ≠ 0) (oldSize : Nat) (state : General η) :
    ∃ done, (resize (some address) newSize oldSize : Step Object (General η) (Option Nat)).run state =
      ⟨(answer state.failFast newSize (SystemHeap.realloc address newSize state.heap).1).map some,
        state.onHeap (SystemHeap.realloc address newSize state.heap).2, done⟩ := by
  obtain ⟨done, ran⟩ := @run_nonNull Object η newSize
    (SystemHeap.realloc address newSize state.heap).1
    (state.onHeap (SystemHeap.realloc address newSize state.heap).2)
  simp only [resize]
  rw [if_neg asked, Step.run_bind_of_quiet (run_ask _ state), Step.run_bind_of_ok (Step.run_log _ _),
    Step.run_map, ran]
  exact ⟨_, rfl⟩

end Runs

variable [HeapLedger η]

instance : Custody (General η) where
  Sound state := HeapLedger.Sound state.heap
  Holds state address size := ∃ room, (address, room) ∈ blocks state.heap ∧ size ≤ room

private theorem fresh_of_cons {heap : η} (sound : HeapLedger.Sound heap) {rest : List (Nat × Nat)}
    {place size : Nat} (perm : (blocks heap).Perm ((place, size) :: rest)) {address room : Nat}
    (live : (address, room) ∈ rest) : address ≠ place := by
  have apart := perm.pairwise (HeapLedger.apart sound) fun related => Or.symm related
  have filled := HeapLedger.filled sound
  have first : 0 < size := filled _ (perm.mem_iff.mpr (List.mem_cons_self ..))
  have second : 0 < room := filled _ (perm.mem_iff.mpr (List.mem_cons_of_mem _ live))
  have disjoint : SystemHeap.Apart (place, size) (address, room) :=
    (List.pairwise_cons.mp apart).1 _ live
  simp only [SystemHeap.Apart] at disjoint
  omega

private theorem apart_of_ne {heap : η} (sound : HeapLedger.Sound heap) {first second room room' : Nat}
    (live : (first, room) ∈ blocks heap) (live' : (second, room') ∈ blocks heap)
    (distinct : first ≠ second) : first + room ≤ second ∨ second + room' ≤ first :=
  (HeapLedger.apart sound).forall live live' fun same => distinct (congrArg Prod.fst same)

variable [SystemHeap Object η]

theorem keeps_of_untouched {state : General η} {heap : η} {address size room : Nat}
    (live : (address, room) ∈ blocks heap) (fits : size ≤ room)
    (untouched : SystemHeap.Untouched state.heap heap (address, room)) :
    Keeps state (state.onHeap heap) address size :=
  ⟨⟨room, live, fits⟩, fun position inside => untouched position (Nat.lt_of_lt_of_le inside fits)⟩

section Requests
variable {state : General η} {size : Nat}

theorem acquired_of_obtained {outcome : Option Nat × η} (done : List (Effect Object))
    (obtained : SystemHeap.Obtained state.heap (max size 1) outcome) :
    Acquired state size ⟨answer state.failFast size outcome.1, state.onHeap outcome.2, done⟩ := by
  obtain ⟨raw, heap⟩ := outcome
  have kept : ∀ address held, Holds state address held → Keeps state (state.onHeap heap) address held := by
    rintro address held ⟨room, live, fits⟩
    exact keeps_of_untouched (obtained.blocks.mem_iff.mpr (List.mem_append_right _ live)) fits
      (obtained.untouched _ live)
  cases raw with
  | none => exact ⟨obtained.sound, kept, nofun, nofun⟩
  | some fresh =>
    refine ⟨obtained.sound, kept, ?_, ?_⟩
    · rintro place ⟨⟩
      exact ⟨_, obtained.blocks.mem_iff.mpr (List.mem_cons_self ..), Nat.le_max_left ..⟩
    · rintro place ⟨⟩ address held ⟨room, live, _⟩
      exact fresh_of_cons obtained.sound obtained.blocks live

private theorem resized_of_resized {address room newSize oldSize : Nat} {outcome : Option Nat × η}
    (done : List (Effect Object)) (live : (address, room) ∈ blocks state.heap) (fits : oldSize ≤ room)
    (resized : SystemHeap.Resized state.heap (address, room) newSize outcome) :
    Resized state address newSize oldSize
      ⟨(answer state.failFast newSize outcome.1).map some, state.onHeap outcome.2, done⟩ := by
  obtain ⟨raw, heap⟩ := outcome
  cases raw with
  | none =>
    have kept : ∀ other held, Holds state other held → Keeps state (state.onHeap heap) other held := by
      rintro other held ⟨room', alive, fits'⟩
      exact keeps_of_untouched (resized.blocks.mem_iff.mpr alive) fits'
        (resized.untouched _ alive (.inl rfl))
    exact ⟨resized.sound, fun other held _ => kept other held,
      fun _ _ => kept address oldSize ⟨room, live, fits⟩, nofun⟩
  | some fresh =>
    have stays : ∀ other room', other ≠ address → (other, room') ∈ blocks state.heap →
        (other, room') ∈ (blocks state.heap).erase (address, room) := fun other room' distinct alive =>
      (List.mem_erase_of_ne fun same => distinct (congrArg Prod.fst same)).mpr alive
    refine ⟨resized.sound, ?_, nofun, ?_⟩
    · rintro other held distinct ⟨room', alive, fits'⟩
      have still := resized.blocks.mem_iff.mpr (List.mem_cons_of_mem _ (stays _ _ distinct alive))
      exact keeps_of_untouched still fits'
        (resized.untouched _ alive (.inr fun same => distinct (congrArg Prod.fst same)))
    · rintro _ ⟨⟩
      refine ⟨fresh, rfl, ⟨_, resized.blocks.mem_iff.mpr (List.mem_cons_self ..), Nat.le_refl _⟩, ?_,
        fun position common => resized.brought fresh rfl position ?_⟩
      · rintro other held distinct ⟨room', alive, _⟩
        exact fresh_of_cons resized.sound resized.blocks (stays _ _ distinct alive)
      · change position < min room newSize
        omega

private theorem released_of_freed {address room : Nat} {heap : η} (done : List (Effect Object))
    (freed : SystemHeap.Freed state.heap (address, room) heap) :
    Released state address size ⟨.ok (), state.onHeap heap, done⟩ := by
  refine ⟨freed.sound, ?_, nofun⟩
  rintro other held distinct ⟨room', alive, fits⟩
  have differ : (other, room') ≠ (address, room) := fun same => distinct (congrArg Prod.fst same)
  have still := freed.blocks.mem_iff.mpr ((List.mem_erase_of_ne differ).mpr alive)
  exact keeps_of_untouched still fits (freed.untouched _ alive differ)

end Requests

variable [LawfulSystemHeap Object η]

instance : LawfulCustody Object (General η) where
  memory_withMemory state memory := LawfulSystemHeap.memory_withMemory state.heap memory
  apart {state _ _ _ _} sound held other distinct := by
    obtain ⟨room, live, fits⟩ := held
    obtain ⟨room', live', fits'⟩ := other
    have disjoint := apart_of_ne sound live live' distinct
    omega
  written {state address size memory} sound held outside := by
    obtain ⟨room, live, fits⟩ := held
    refine ⟨LawfulSystemHeap.written sound fun other uncovered => outside other ?_, ?_⟩
    · have apart := uncovered _ live
      simp only at apart
      omega
    · rintro other held ⟨room', alive, fits'⟩
      refine ⟨room', ?_, fits'⟩
      exact (LawfulSystemHeap.blocks_withMemory state.heap memory).symm ▸ alive
  allocate {state} sound size := by
    obtain ⟨done, ran⟩ := run_allocate size state
    have acquired := acquired_of_obtained done
      (LawfulSystemHeap.malloc sound (show max size 1 ≠ 0 by omega))
    rwa [← ran] at acquired
  release sound held := by
    obtain ⟨room, live, _⟩ := held
    exact released_of_freed [] (LawfulSystemHeap.free sound live)

instance : LawfulMemory Object (General η) :=
  ⟨fun state => congrArg state.onHeap (LawfulSystemHeap.withMemory_memory state.heap)⟩

instance : LawfulAllocator Object (General η) where
  resize_none _ _ := rfl
  resize {state address newSize oldSize} sound asked held := by
    obtain ⟨room, live, fits⟩ := held
    obtain ⟨done, ran⟩ := run_resize asked oldSize state
    have resized := resized_of_resized done live fits (LawfulSystemHeap.realloc sound live asked)
    rwa [← ran] at resized

end Allotment.General
