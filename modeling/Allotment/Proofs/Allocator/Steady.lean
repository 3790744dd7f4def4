import Allotment.Proofs.Allocator.General
import Allotment.Proofs.Allocator.Heap
import Allotment.Proofs.Allocator.Stack
import Allotment.Proofs.Stack.Rejection

namespace Allotment
open Allocator Custody
variable {Object : Type}

/-- An allocator that changes nothing but its counts when it rejects a request. -/
class SteadyAllocator (Object : outParam Type) (σ : Type) [Allocator Object σ] [Custody σ] where
  /-- The second state is the first one, but for what is counted. -/
  Recounted : σ → σ → Prop
  refl (state : σ) : Recounted state state
  allocate {state : σ} {size : Nat} {fault : Fault} (sound : Sound state)
    (rejected : ((Allocator.allocate size).run state).result = .error fault) :
    Recounted state ((Allocator.allocate size).run state).state
  resize {state : σ} {address newSize oldSize : Nat} {fault : Fault} (sound : Sound state)
    (asked : newSize ≠ 0) (held : Holds state address oldSize)
    (rejected : ((Allocator.resize (some address) newSize oldSize).run state).result = .error fault) :
    Recounted state ((Allocator.resize (some address) newSize oldSize).run state).state

instance : SteadyAllocator Object (Heap Object) where
  Recounted before after := after = before
  refl _ := rfl
  allocate {heap size fault} _ rejected := by
    change ((Heap.allocate size).run heap).result = .error fault at rejected
    change ((Heap.allocate size).run heap).state = heap
    by_cases met : max size 1 ≤ Heap.largestRequest
    · rw [Heap.run_allocate_of_met met] at rejected
      cases rejected
    · rw [Heap.run_allocate_of_unmet met]
      rfl
  resize {heap address newSize oldSize fault} orderly asked held rejected := by
    change ((Heap.resize (some address) newSize oldSize).run heap).result = .error fault at rejected
    change ((Heap.resize (some address) newSize oldSize).run heap).state = heap
    obtain ⟨room, live, _⟩ := held
    by_cases met : max newSize 1 ≤ Heap.largestRequest
    · rw [Heap.run_resize_of_met orderly oldSize asked live met] at rejected
      cases rejected
    · rw [Heap.run_resize_of_unmet oldSize asked met]
      rfl

namespace General
open HeapLedger
variable {η : Type} [SystemHeap Object η] [HeapLedger η]

/-- The heap has the blocks it had, with what was in them. -/
structure Undisturbed (before after : General η) : Prop where
  failFast : after.failFast = before.failFast
  blocks : (blocks after.heap).Perm (blocks before.heap)
  untouched : ∀ block ∈ HeapLedger.blocks before.heap, SystemHeap.Untouched before.heap after.heap block

private theorem undisturbed_of_obtained {state : General η} {size : Nat} {heap : η}
    (obtained : SystemHeap.Obtained state.heap size (none, heap)) :
    Undisturbed state (state.onHeap heap) := ⟨rfl, obtained.blocks, obtained.untouched⟩

private theorem undisturbed_of_resized {state : General η} {block : Nat × Nat} {size : Nat} {heap : η}
    (resized : SystemHeap.Resized state.heap block size (none, heap)) :
    Undisturbed state (state.onHeap heap) :=
  ⟨rfl, resized.blocks, fun other live => resized.untouched other live (.inl rfl)⟩

variable [LawfulSystemHeap Object η]

theorem undisturbed_allocate {state : General η} {size : Nat} {fault : Fault} (sound : Sound state)
    (rejected : ((allocate size).run state).result = .error fault) :
    Undisturbed state ((allocate size).run state).state := by
  obtain ⟨done, ran⟩ := run_allocate size state
  have obtained := LawfulSystemHeap.malloc sound (show max size 1 ≠ 0 by omega)
  rw [ran] at rejected ⊢
  rcases asked : SystemHeap.malloc (max size 1) state.heap with ⟨_ | place, heap⟩ <;>
    rw [asked] at obtained rejected
  · exact undisturbed_of_obtained obtained
  · cases rejected

theorem undisturbed_resize {state : General η} {address newSize oldSize : Nat} {fault : Fault}
    (sound : Sound state) (asked : newSize ≠ 0) (held : Holds state address oldSize)
    (rejected : ((resize (some address) newSize oldSize).run state).result = .error fault) :
    Undisturbed state ((resize (some address) newSize oldSize).run state).state := by
  obtain ⟨room, live, _⟩ := held
  obtain ⟨done, ran⟩ := run_resize asked oldSize state
  have resized := LawfulSystemHeap.realloc sound live asked
  rw [ran] at rejected ⊢
  rcases moved : SystemHeap.realloc address newSize state.heap with ⟨_ | place, heap⟩ <;>
    rw [moved] at resized rejected
  · exact undisturbed_of_resized resized
  · cases rejected

instance : SteadyAllocator Object (General η) where
  Recounted := Undisturbed
  refl _ := ⟨rfl, .refl _, fun _ _ _ _ => rfl⟩
  allocate := undisturbed_allocate
  resize := undisturbed_resize

end General

namespace Stack

/-- Nothing but the counters of the stack may have changed. -/
def Recounted (before after : Stack Object) : Prop := after = { before with counters := after.counters }

theorem Session.Valid.recounted {session : Session Object} (valid : session.Valid) {call : Call Object}
    {fault : Fault} (failed : session.answer call = .error fault) :
    Recounted session.stack (session.perform call).stack := by
  rcases ((valid.transition call).rejected fault failed).stack_eq with ⟨_, _, counted⟩ | ⟨_, same⟩
  · rw [counted]
    rfl
  · rw [same]
    rfl

instance : SteadyAllocator Object (Stack Object) where
  Recounted := Recounted
  refl _ := rfl
  allocate {stack size fault} sound rejected := by
    obtain ⟨blocks, valid⟩ := sound
    obtain ⟨state, answer⟩ := Session.run_operation ⟨stack, blocks⟩
      (show (Call.allocate size).operation = some <$> Allocator.allocate size from rfl)
    rw [rejected] at answer
    rw [state]
    exact valid.recounted answer
  resize {stack address newSize oldSize fault} sound _ _ rejected := by
    obtain ⟨blocks, valid⟩ := sound
    have failed : Session.answer ⟨stack, blocks⟩ (.resize (some address) newSize oldSize) =
      .error fault := rejected
    exact valid.recounted failed

end Stack
end Allotment
