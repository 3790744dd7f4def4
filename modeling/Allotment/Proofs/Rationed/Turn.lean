import Allotment.Proofs.Allocator.Rationed

/-! Several parties hold blocks of a rationed allocator. In its turn a party acquires blocks, resizes,
releases and writes to its own; the others keep theirs as they are, and the number of live blocks follows
from the number of those the party owns. -/
namespace Allotment.Rationed
open Allocator Custody
variable {Object σ κ V α : Type} [Allocator Object σ] [Custody σ] [Rationed σ]

/-- The block in a caller's hands after it asked for one in place of `block`: what it was answered, or else
what it had. -/
def holding (block : Option Nat) : Except Fault (Option Nat) → Option Nat
  | .ok answer => answer
  | .error _ => block

/-- One party's turn. Before it owned the blocks that start at `own`, after it those at `own'`. -/
structure Turn (own own' : List Nat) (before after : σ) : Prop where
  sound : Sound after
  lenient : Lenient before → Lenient after
  kept : ∀ address size, address ∉ own → Holds before address size → Keeps before after address size
  fresh : ∀ address size, address ∉ own → Holds before address size → address ∉ own'
  counted : live after + own.length = live before + own'.length

/-- What a call on a container comes to, by what is seen of containers, when they are in order and which blocks
they own. It is answered by a rule, and is a turn of the container, which is in order then. -/
structure Played (view : κ → Memory Object → V) (InOrder : κ → σ → Prop) (own : κ → List Nat) (before : κ)
    (host : σ) (rule : Except Fault α × V) (outcome : Outcome Object (κ × σ) α) : Prop where
  answer : (outcome.result, view outcome.state.1 (memory outcome.state.2)) = rule
  inOrder : InOrder outcome.state.1 outcome.state.2
  turn : Turn (own before) (own outcome.state.1) host outcome.state.2

namespace Turn
variable {own own' own'' : List Nat} {before middle after : σ}

theorem refl (sound : Sound before) (own : List Nat) : Turn own own before before :=
  ⟨sound, id, fun _ _ _ held => ⟨held, fun _ _ => rfl⟩, fun _ _ foreign _ => foreign, rfl⟩

theorem trans (turn : Turn own own' before middle) (next : Turn own' own'' middle after) :
    Turn own own'' before after := by
  have first := turn.counted
  have second := next.counted
  refine ⟨next.sound, next.lenient ∘ turn.lenient, ?_, ?_, by omega⟩
  · intro address size foreign held
    have kept := turn.kept address size foreign held
    exact kept.trans (next.kept address size (turn.fresh address size foreign held) kept.holds)
  · intro address size foreign held
    have kept := turn.kept address size foreign held
    exact next.fresh address size (turn.fresh address size foreign held) kept.holds

theorem of_acquired {size : Nat} {outcome : Outcome Object σ Nat}
    (acquired : Acquired before size outcome) (ruled : Ruled before size 1 outcome) :
    Turn [] (holding none (outcome.result.map some)).toList before outcome.state := by
  rcases outcome with ⟨fault | place, last, done⟩
  · exact ⟨acquired.sound, fun _ => ruled.lenient, fun _ _ _ held => acquired.kept _ _ held,
      fun _ _ foreign _ => foreign, ruled.live_of_error⟩
  · refine ⟨acquired.sound, fun _ => ruled.lenient, fun _ _ _ held => acquired.kept _ _ held, ?_,
      ruled.live_of_ok⟩
    intro address size _ held
    exact List.mem_singleton.not.mpr (acquired.fresh place rfl address size held)

private theorem of_resized {address newSize oldSize : Nat} {outcome : Outcome Object σ (Option Nat)}
    (resized : Resized before address newSize oldSize outcome)
    (ruled : Ruled before newSize 0 outcome) :
    Turn [address] (holding (some address) outcome.result).toList before outcome.state := by
  have kept : ∀ other size, other ∉ [address] → Holds before other size →
      Keeps before outcome.state other size := fun other size foreign held =>
    resized.kept other size (List.mem_singleton.not.mp foreign) held
  rcases outcome with ⟨fault | answer, last, done⟩
  · exact ⟨resized.sound, fun _ => ruled.lenient, kept, fun _ _ foreign _ => foreign,
      congrArg Nat.succ ruled.live_of_error⟩
  · obtain ⟨place, rfl, _, fresh, _⟩ := resized.moved answer rfl
    refine ⟨resized.sound, fun _ => ruled.lenient, kept, ?_, congrArg Nat.succ ruled.live_of_ok⟩
    intro other size foreign held
    exact List.mem_singleton.not.mpr (fresh other size (List.mem_singleton.not.mp foreign) held)

section Requests
variable [RationedAllocator Object σ]

theorem of_release {address size : Nat} (sound : Sound before) (held : Holds before address size) :
    Turn [address] [] before ((Allocator.release (some address)).run before).state := by
  have released := LawfulCustody.release sound held
  refine ⟨released.sound, fun lenient => RationedCustody.lenient_release lenient address, ?_,
    fun _ _ _ _ => List.not_mem_nil, ?_⟩
  · intro other otherSize foreign alive
    exact released.kept other otherSize (List.mem_singleton.not.mp foreign) alive
  · exact (RationedCustody.released sound held).2

theorem of_written {address size : Nat} {memory : Memory Object} (sound : Sound before)
    (held : Holds before address size)
    (outside : ∀ other, other < address ∨ address + size ≤ other →
      memory.load other = (Allocator.memory before).load other) :
    Turn [address] [address] before (withMemory before memory) := by
  refine ⟨(LawfulCustody.written sound held outside).1, RationedCustody.lenient_withMemory _ _, ?_,
    fun _ _ foreign _ => foreign, ?_⟩
  · intro other otherSize foreign alive
    exact keeps_of_written sound held outside alive (List.mem_singleton.not.mp foreign)
  · rw [RationedCustody.live_withMemory]

/-- To write what is there already. -/
theorem of_rewritten {memory : Memory Object} (sound : Sound before)
    (same : ∀ address, memory.load address = (Allocator.memory before).load address)
    (own : List Nat) : Turn own own before (withMemory before memory) := by
  obtain ⟨sound', holds⟩ := RationedCustody.rewritten sound same
  refine ⟨sound', RationedCustody.lenient_withMemory _ _, ?_, fun _ _ foreign _ => foreign, ?_⟩
  · intro address size _ held
    refine ⟨holds address size held, fun position _ => ?_⟩
    rw [LawfulCustody.memory_withMemory, same]
  · rw [RationedCustody.live_withMemory]

theorem of_resize {block : Option Nat} {newSize oldSize : Nat} (ready : Ready before)
    (held : ∀ address, block = some address → Holds before address oldSize)
    (asked : block ≠ none → newSize ≠ 0) :
    ((Allocator.resize block newSize oldSize).run before).result.map Option.isSome =
        ((ration σ).verdict newSize).map (fun _ => true) ∧
      Turn block.toList
        (holding block ((Allocator.resize block newSize oldSize).run before).result).toList before
        ((Allocator.resize block newSize oldSize).run before).state := by
  cases block with
  | none =>
    have ruled := RationedCustody.ruled_allocate ready newSize
    have turn := of_acquired (LawfulCustody.allocate ready.sound newSize) ruled
    rw [LawfulAllocator.resize_none, Step.run_map]
    refine ⟨?_, turn⟩
    rw [← ruled.verdict]
    cases ((allocate newSize).run before).result <;> rfl
  | some address =>
    have nonzero := asked (Option.some_ne_none address)
    have resized := LawfulAllocator.resize ready.sound nonzero (held address rfl)
    have ruled := RationedAllocator.ruled_resize ready nonzero (held address rfl)
    refine ⟨?_, of_resized resized ruled⟩
    rw [← ruled.verdict]
    cases answered : ((Allocator.resize (some address) newSize oldSize).run before).result with
    | error fault => rfl
    | ok answer =>
      obtain ⟨place, rfl, _⟩ := resized.moved answer answered
      rfl

end Requests
end Turn
end Allotment.Rationed
