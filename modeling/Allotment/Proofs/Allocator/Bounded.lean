import Allotment.Proofs.Allocator.Forwarding
import Allotment.Proofs.Allocator.Heap
import Allotment.Proofs.Allocator.Stack

namespace Allotment
open Allocator Custody
variable {Object σ : Type}

/-- An allocator that grants no block of half the word range or more. -/
class BoundedAllocator (Object : outParam Type) (σ : Type) [Allocator Object σ] [Custody σ] :
    Prop where
  allocate {state : σ} {size place : Nat} (sound : Sound state)
    (granted : ((Allocator.allocate size).run state).result = .ok place) : size < 2 ^ (63 : Nat)
  resize {state : σ} {address newSize oldSize : Nat} {answer : Option Nat} (sound : Sound state)
    (asked : newSize ≠ 0) (held : Holds state address oldSize)
    (granted : ((Allocator.resize (some address) newSize oldSize).run state).result = .ok answer) :
    newSize < 2 ^ (63 : Nat)

instance : LawfulMemory Object (Heap Object) := ⟨fun _ => rfl⟩

instance : LawfulMemory Object (Stack Object) := ⟨fun _ => rfl⟩

instance [Allocator Object σ] [LawfulMemory Object σ] : LawfulMemory Object (Forwarding σ) :=
  ⟨fun state => congrArg Forwarding.mk (LawfulMemory.withMemory_memory state.inner)⟩

instance : BoundedAllocator Object (Heap Object) where
  allocate {heap size place} _ granted := by
    have ran : ((Heap.allocate size).run heap).result = .ok place := granted
    by_cases met : max size 1 ≤ Heap.largestRequest
    · simp only [Heap.largestRequest] at met
      omega
    · rw [Heap.run_allocate_of_unmet met] at ran
      cases ran
  resize {heap address newSize oldSize answer} _ asked _ granted := by
    have ran : ((Heap.resize (some address) newSize oldSize).run heap).result = .ok answer := granted
    by_cases met : max newSize 1 ≤ Heap.largestRequest
    · simp only [Heap.largestRequest] at met
      omega
    · rw [Heap.run_resize_of_unmet oldSize asked met] at ran
      cases ran

instance : BoundedAllocator Object (Stack Object) where
  allocate {stack size place} sound granted := by
    have small : stack.capacity < 2 ^ (32 : Nat) := stack.shape.capacity_lt
    have ran : ((Stack.push size).run stack).result = .ok place := granted
    cases placed : stack.placement? size with
    | none =>
      rw [Stack.run_push_of_unplaced placed] at ran
      cases ran
    | some block =>
      obtain ⟨start, stop⟩ := block
      obtain ⟨_, _, total, inside, _⟩ := Stack.placement?_some placed
      omega
  resize {stack address newSize oldSize answer} sound asked held granted := by
    obtain ⟨blocks, valid⟩ := sound
    have small : stack.capacity < 2 ^ (32 : Nat) := stack.shape.capacity_lt
    have valid' := valid.perform (fun _ target => target.elim :
      (Stack.Call.resize (some address) newSize oldSize : Stack.Call Object).Confined blocks)
    obtain ⟨block, live, rfl, fits⟩ := valid.holds_iff.mp held
    obtain ⟨later, live', _, stop⟩ := valid.block_of_resize live asked fits granted
    have inside := valid'.inside
    have below : later.stop ≤ _ := (valid'.chain.bounds live').2.2.2.1
    have same : _ = stack.capacity := congrArg StackShape.capacity
      (valid.transition (.resize (some block.start) newSize oldSize)).shape
    have short : later.stop ≤ stack.capacity := same ▸ Nat.le_trans below inside
    omega

end Allotment
