import Mathlib.Data.List.Pairwise
import Allotment.Heap
import Allotment.Proofs.Allocator.Contract

namespace Allotment.Heap
open Allocator Custody
variable {Object : Type} {heap : Heap Object}

/-- Live blocks have at least one byte each and lie one behind another, last acquired last, in front of
the next address. -/
structure Orderly (heap : Heap Object) : Prop where
  filled : ∀ block ∈ heap.blocks, 0 < block.2
  below : ∀ block ∈ heap.blocks, block.1 + block.2 ≤ heap.frontier
  behind : heap.blocks.Pairwise fun later earlier => earlier.1 + earlier.2 ≤ later.1

instance : Custody (Heap Object) where
  Sound := Orderly
  Holds heap address size := ∃ room, (address, room) ∈ heap.blocks ∧ size ≤ room

/-- The heap once it met a request. -/
def reserved (heap : Heap Object) (size : Nat) : Heap Object :=
  { heap with
    frontier := behind heap.frontier (max size 1)
    blocks := (heap.frontier, max size 1) :: heap.blocks }

theorem reserve?_of_met {size : Nat} (met : max size 1 ≤ largestRequest) :
    heap.reserve? size = some (heap.frontier, heap.reserved size) := by
  rw [reserve?, if_pos met]
  rfl

theorem reserve?_of_unmet {size : Nat} (unmet : ¬ max size 1 ≤ largestRequest) :
    heap.reserve? size = none := by
  rw [reserve?, if_neg unmet]

private theorem le_behind (address size : Nat) : address + size ≤ behind address size := by
  simp only [behind, blockAlign]
  omega

namespace Orderly

theorem empty (failFast : Bool) : (Heap.empty failFast : Heap Object).Orderly :=
  ⟨nofun, nofun, .nil⟩

theorem reserved (orderly : heap.Orderly) (size : Nat) : (heap.reserved size).Orderly := by
  have further := le_behind heap.frontier (max size 1)
  refine ⟨fun block live => ?_, fun block live => ?_, .cons orderly.below orderly.behind⟩
  · rcases List.mem_cons.mp live with rfl | older
    · exact Nat.lt_of_lt_of_le Nat.zero_lt_one (Nat.le_max_right ..)
    · exact orderly.filled block older
  · rcases List.mem_cons.mp live with rfl | older
    · exact further
    · exact Nat.le_trans (orderly.below block older) (Nat.le_trans (Nat.le_add_right ..) further)

theorem without (orderly : heap.Orderly) (address : Nat) : (heap.without address).Orderly :=
  ⟨fun block live => orderly.filled block (List.mem_filter.mp live |>.1),
    fun block live => orderly.below block (List.mem_filter.mp live |>.1), orderly.behind.filter _⟩

theorem apart (orderly : heap.Orderly) {first second : Nat × Nat} (live : first ∈ heap.blocks)
    (alive : second ∈ heap.blocks) (distinct : first ≠ second) :
    first.1 + first.2 ≤ second.1 ∨ second.1 + second.2 ≤ first.1 := by
  have symmetric : Std.Symm fun one other : Nat × Nat =>
      one.1 + one.2 ≤ other.1 ∨ other.1 + other.2 ≤ one.1 := ⟨fun _ _ => Or.symm⟩
  have either : heap.blocks.Pairwise fun one other =>
      one.1 + one.2 ≤ other.1 ∨ other.1 + other.2 ≤ one.1 := orderly.behind.imp Or.inr
  exact either.forall live alive distinct

theorem sizeAt?_eq (orderly : heap.Orderly) {address room : Nat} (live : (address, room) ∈ heap.blocks) :
    heap.sizeAt? address = some room := by
  have filled := orderly.filled
  have behind := orderly.behind
  rw [sizeAt?]
  generalize heap.blocks = blocks at live filled behind
  induction blocks with
  | nil => cases live
  | cons head rest ih =>
    obtain ⟨above, behind'⟩ := List.pairwise_cons.mp behind
    rw [List.lookup_cons]
    rcases List.mem_cons.mp live with rfl | older
    · rw [beq_self_eq_true]
    · have other : address ≠ head.1 := by
        have below : address + room ≤ head.1 := above _ older
        have positive : 0 < room := filled _ live
        omega
      rw [beq_false_of_ne other]
      exact ih older (fun block alive => filled block (List.mem_cons_of_mem _ alive)) behind'

end Orderly

section Runs

/-- What a request that the heap does not meet comes to. -/
def refusal {α : Type} (heap : Heap Object) (size : Nat) (event : Event) :
    Outcome Object (Heap Object) α :=
  let error := MemoryError.allocationFailed size blockAlign
  ⟨.error (error.fault heap.failFast), heap, .logged event :: error.announcement heap.failFast⟩

theorem run_refuse {α : Type} (heap : Heap Object) (size : Nat) (event : Event) :
    (Step.log event >>= fun _ => refuse size : Step Object (Heap Object) α).run heap =
      heap.refusal size event := by
  rw [Step.run_bind_of_ok (Step.run_log event heap), refuse,
    Step.run_bind_of_quiet (Step.run_get heap), Step.run_refuseCapacity]
  rfl

theorem run_allocate_of_met {size : Nat} (met : max size 1 ≤ largestRequest) :
    (allocate size).run heap = ⟨.ok heap.frontier, heap.reserved size,
      [.logged (.heapAllocated size heap.frontier)]⟩ := by
  rw [allocate, Step.run_bind_of_quiet (Step.run_get heap), reserve?_of_met met]
  rfl

theorem run_allocate_of_unmet {size : Nat} (unmet : ¬ max size 1 ≤ largestRequest) :
    (allocate size).run heap = heap.refusal size (.heapAllocated size 0) := by
  rw [allocate, Step.run_bind_of_quiet (Step.run_get heap), reserve?_of_unmet unmet]
  exact run_refuse heap size _

/-- The heap once it moved a block. -/
def resized (heap : Heap Object) (address newSize room : Nat) : Heap Object :=
  { (heap.reserved newSize).without address with
    memory := heap.memory.copy address heap.frontier (min room newSize) }

theorem run_resize_of_met (orderly : heap.Orderly) {address newSize room : Nat} (oldSize : Nat)
    (asked : newSize ≠ 0) (live : (address, room) ∈ heap.blocks)
    (met : max newSize 1 ≤ largestRequest) :
    (resize (some address) newSize oldSize).run heap =
      ⟨.ok (some heap.frontier), heap.resized address newSize room,
        [.logged (.heapResized newSize address heap.frontier)]⟩ := by
  simp only [resize]
  rw [if_neg asked, Step.run_bind_of_quiet (Step.run_get heap), reserve?_of_met met,
    orderly.sizeAt?_eq live]
  rfl

theorem run_resize_of_unmet {address newSize : Nat} (oldSize : Nat) (asked : newSize ≠ 0)
    (unmet : ¬ max newSize 1 ≤ largestRequest) :
    (resize (some address) newSize oldSize).run heap =
      heap.refusal newSize (.heapResized newSize address 0) := by
  simp only [resize]
  rw [if_neg asked, Step.run_bind_of_quiet (Step.run_get heap), reserve?_of_unmet unmet]
  exact run_refuse heap newSize _

end Runs

theorem Orderly.fresh (orderly : heap.Orderly) {address held : Nat}
    (live : Holds heap address held) : address ≠ heap.frontier := by
  obtain ⟨room, live, _⟩ := live
  have below : address + room ≤ heap.frontier := orderly.below _ live
  have filled : 0 < room := orderly.filled _ live
  omega

theorem Orderly.acquired (orderly : heap.Orderly) (size : Nat) :
    Acquired heap size ((allocate size).run heap) := by
  by_cases met : max size 1 ≤ largestRequest
  · rw [run_allocate_of_met met]
    refine ⟨orderly.reserved size, ?_, ?_, ?_⟩
    · rintro address held ⟨room, live, fits⟩
      exact ⟨⟨room, List.mem_cons_of_mem _ live, fits⟩, fun _ _ => rfl⟩
    · rintro place ⟨⟩
      exact ⟨max size 1, List.mem_cons_self .., Nat.le_max_left ..⟩
    · rintro place ⟨⟩ address held live
      exact orderly.fresh live
  · rw [run_allocate_of_unmet met]
    exact ⟨orderly, fun _ _ held => ⟨held, fun _ _ => rfl⟩, nofun, nofun⟩

theorem load_resized (heap : Heap Object) (address newSize room : Nat) {other : Nat}
    (below : other < heap.frontier) :
    (heap.resized address newSize room).memory.load other = heap.memory.load other :=
  Memory.load_copy_of_outside _ (.inl below)

private theorem mem_resized {address newSize room : Nat} {block : Nat × Nat} (distinct : block.1 ≠ address)
    (live : block ∈ heap.blocks ∨ block = (heap.frontier, max newSize 1)) :
    block ∈ (heap.resized address newSize room).blocks := by
  refine List.mem_filter.mpr ⟨?_, bne_iff_ne.mpr distinct⟩
  rcases live with older | rfl
  · exact List.mem_cons_of_mem _ older
  · exact List.mem_cons_self ..

theorem Orderly.resized (orderly : heap.Orderly) {address newSize oldSize : Nat}
    (asked : newSize ≠ 0) (held : Holds heap address oldSize) :
    Resized heap address newSize oldSize ((resize (some address) newSize oldSize).run heap) := by
  have fresh : address ≠ heap.frontier := orderly.fresh held
  obtain ⟨room, live, fits⟩ := held
  by_cases met : max newSize 1 ≤ largestRequest
  · rw [run_resize_of_met orderly oldSize asked live met]
    have sound := (orderly.reserved newSize).without address
    refine ⟨⟨sound.filled, sound.below, sound.behind⟩, ?_, nofun, ?_⟩
    · rintro other size distinct ⟨room', alive, fits'⟩
      have below : other + room' ≤ heap.frontier := orderly.below _ alive
      exact ⟨⟨room', mem_resized distinct (.inl alive), fits'⟩,
        fun position inside => load_resized heap address newSize room (by omega)⟩
    · rintro answer ⟨⟩
      have there : Holds (heap.resized address newSize room) heap.frontier newSize :=
        ⟨max newSize 1, mem_resized fresh.symm (.inr rfl), Nat.le_max_left ..⟩
      refine ⟨heap.frontier, rfl, there, fun other size _ alive => orderly.fresh alive, ?_⟩
      intro position common
      change (heap.memory.copy address heap.frontier (min room newSize)).load _ = _
      rw [Memory.load_copy, if_pos (by omega), Nat.add_sub_cancel_left]
      rfl
  · rw [run_resize_of_unmet oldSize asked met]
    exact ⟨orderly, fun _ _ _ alive => ⟨alive, fun _ _ => rfl⟩,
      fun _ _ => ⟨⟨room, live, fits⟩, fun _ _ => rfl⟩, nofun⟩

instance : LawfulCustody Object (Heap Object) where
  memory_withMemory _ _ := rfl
  apart {heap first second _ _} orderly held other distinct := by
    obtain ⟨room, live, fits⟩ := held
    obtain ⟨room', alive, fits'⟩ := other
    have apart := orderly.apart live alive (fun same => distinct (congrArg Prod.fst same))
    omega
  written {_ _ _ _} orderly _ _ :=
    ⟨⟨orderly.filled, orderly.below, orderly.behind⟩, fun _ _ held => held⟩
  allocate orderly size := Orderly.acquired orderly size
  release {heap address size} orderly held := by
    refine ⟨orderly.without address, ?_, nofun⟩
    rintro other size' distinct ⟨room, live, fits⟩
    refine ⟨⟨room, List.mem_filter.mpr ⟨live, ?_⟩, fits⟩, fun _ _ => rfl⟩
    exact bne_iff_ne.mpr distinct

instance : LawfulAllocator Object (Heap Object) where
  resize_none _ _ := rfl
  resize orderly asked held := Orderly.resized orderly asked held

end Allotment.Heap
