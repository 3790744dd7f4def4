import Allotment.Proofs.Allocator.Contract
import Allotment.Proofs.Stack.Restoration

namespace Allotment.Stack
open Allocator Custody
variable {Object : Type} {stack : Stack Object}

instance : Custody (Stack Object) where
  Sound stack := ∃ blocks, Session.Valid ⟨stack, blocks⟩
  Holds stack address size := ∃ blocks, Session.Valid ⟨stack, blocks⟩ ∧
    ∃ block ∈ blocks, block.start = address ∧ address + size ≤ block.stop

namespace Session
variable {session after : Session Object} {call : Call Object}

theorem Valid.sound (valid : session.Valid) : Sound session.stack := ⟨session.blocks, valid⟩

/-- The headers say which blocks are live. -/
private theorem Valid.blocks_unique {blocks others : List Extent} (valid : Valid ⟨stack, blocks⟩)
    (valid' : Valid ⟨stack, others⟩) : blocks = others := valid.chain.determined valid'.chain

theorem Valid.holds_iff (valid : session.Valid) {address size : Nat} :
    Holds session.stack address size ↔
      ∃ block ∈ session.blocks, block.start = address ∧ address + size ≤ block.stop := by
  constructor
  · rintro ⟨blocks, valid', held⟩
    have same : blocks = session.blocks := valid'.blocks_unique valid
    exact same ▸ held
  · intro held
    exact ⟨session.blocks, valid, held⟩

theorem Valid.keeps (valid : after.Valid) {block : Extent} (alive : block ∈ after.blocks)
    (agree : ∀ address, block.Covers address →
      after.stack.memory.load address = session.stack.memory.load address) {size : Nat}
    (fits : block.start + size ≤ block.stop) :
    Keeps session.stack after.stack block.start size :=
  ⟨valid.holds_iff.mpr ⟨block, alive, rfl, fits⟩, fun position inside =>
    agree _ ⟨Nat.le_add_right .., by omega⟩⟩

/-- A call that does not address a block, nor all at once, leaves it live, with all but the bytes that
its caller writes. -/
theorem Transition.keeps (transition : Transition session call after) (valid : session.Valid)
    (single : ¬ call.IsBulk) {block : Extent} (live : block ∈ session.blocks)
    (spared : ¬ call.Addresses block.start) :
    block ∈ after.blocks ∧ ∀ address, block.Covers address → ¬ call.Targets address →
      after.stack.memory.load address = session.stack.memory.load address := by
  have alive : block ∈ after.blocks := by
    cases transition.change with
    | idle blocks => exact blocks ▸ live
    | pushed _ _ blocks => exact blocks ▸ List.mem_cons_of_mem _ live
    | popped stack released blocks =>
      rw [stack] at live
      rcases List.mem_cons.mp live with rfl | deeper
      · exact (spared (Call.addresses_of_released released)).elim
      · exact blocks ▸ deeper
    | resized stack _ called _ blocks =>
      rw [stack] at live
      rcases List.mem_cons.mp live with rfl | deeper
      · exact (spared (by rw [called]; rfl)).elim
      · exact blocks ▸ List.mem_cons_of_mem _ deeper
    | cleared bulk => exact (single bulk).elim
    | written blocks => exact blocks ▸ live
  exact ⟨alive, fun address covers => (transition.kept valid live alive rfl).2 address covers covers⟩

private theorem Valid.keeps_of_rejected (valid : session.Valid) {fault : Fault}
    (failed : session.answer call = .error fault) :
    (session.perform call).blocks = session.blocks ∧
      (session.perform call).stack.memory = session.stack.memory := by
  refine ⟨?_, ((valid.transition call).rejected fault failed).memory⟩
  rw [Session.perform, hold, failed]

/-- A call to the contract is performed, but for the form of its answer. -/
theorem run_operation {α : Type} (session : Session Object) {call : Call Object}
    {operation : Step Object (Stack Object) α} {form : α → Option Nat}
    (same : call.operation = form <$> operation) :
    (operation.run session.stack).state = (session.perform call).stack ∧
      session.answer call = (operation.run session.stack).result.map form := by
  rw [Session.perform, Session.answer, same, Step.run_map]
  exact ⟨rfl, rfl⟩

private theorem blocks_of_request {size place : Nat} (requested : call.request? = some size)
    (answered : session.answer call = .ok (some place)) :
    (session.perform call).blocks = ⟨place, place + size⟩ :: session.blocks := by
  rw [perform, hold, answered]
  exact Call.ledger_of_request requested place session.blocks

theorem Valid.block_of_resize (valid : session.Valid) {block : Extent} (live : block ∈ session.blocks)
    {newSize oldSize : Nat} (asked : newSize ≠ 0) (truthful : block.start + oldSize ≤ block.stop)
    {answer : Option Nat}
    (answered : session.answer (.resize (some block.start) newSize oldSize) = .ok answer) :
    ∃ later ∈ (session.perform (.resize (some block.start) newSize oldSize)).blocks,
      later.start = block.start ∧ block.start + newSize ≤ later.stop := by
  have same := valid.answer_resize asked answered
  subst same
  have blocks : (session.perform (.resize (some block.start) newSize oldSize)).blocks =
      Call.moveEnd block.start (block.start + newSize) session.blocks := by
    rw [Session.perform, hold, answered]
    rfl
  rw [blocks]
  cases found : session.stack.resizeMisuse? block.start newSize oldSize with
  | some misuse =>
    have ran : (Call.resize (some block.start) newSize oldSize).operation.run session.stack =
      session.stack.misuseOutcome misuse := run_resize_of_misuse asked found
    rw [Session.answer, ran] at answered
    cases answered
  | none =>
    obtain ⟨nonempty, place⟩ := (resizeMisuse?_eq_none_iff valid.ordered).mp found
    obtain ⟨rest, ledger⟩ := valid.top_block nonempty
    rw [ledger, Call.moveEnd]
    rcases place with top | ⟨lower, shrinks⟩
    · rw [if_pos top.symm]
      exact ⟨_, List.mem_cons_self .., rfl, Nat.le_refl _⟩
    · rw [if_neg (Nat.ne_of_gt lower), ← ledger]
      exact ⟨block, live, rfl, by omega⟩

/-- What callers hold of two blocks does not overlap. -/
theorem Valid.apart (valid : session.Valid) {first second firstSize secondSize : Nat}
    (held : Holds session.stack first firstSize) (other : Holds session.stack second secondSize)
    (distinct : first ≠ second) : first + firstSize ≤ second ∨ second + secondSize ≤ first := by
  obtain ⟨block, live, rfl, fits⟩ := valid.holds_iff.mp held
  obtain ⟨block', alive, rfl, fits'⟩ := valid.holds_iff.mp other
  rcases valid.chain.apart live alive with same | below | above
  · exact absurd (congrArg Extent.start same) distinct
  · exact .inl (by omega)
  · exact .inr (by omega)

/-- No header is in the hands of a caller, so what a caller writes leaves the ledger true. -/
theorem Valid.written (valid : session.Valid) {address size : Nat} {memory : Memory Object}
    (held : Holds session.stack address size)
    (outside : ∀ other, other < address ∨ address + size ≤ other →
      memory.load other = session.stack.memory.load other) :
    Valid ⟨{ session.stack with memory := memory }, session.blocks⟩ := by
  obtain ⟨block, live, rfl, fits⟩ := valid.holds_iff.mp held
  refine ⟨valid.chain.transport rfl ?_, valid.inside⟩
  intro other alive address heads
  have missed : ¬ block.Covers address := fun covers =>
    valid.chain.not_heads_of_covers live alive covers heads
  apply outside address
  by_cases low : address < block.start
  · exact .inl low
  · right
    apply Nat.le_of_not_lt
    intro high
    exact missed ⟨Nat.le_of_not_lt low, Nat.lt_of_lt_of_le high fits⟩

theorem Valid.acquired (valid : session.Valid) (size : Nat) :
    Acquired session.stack size ((Allocator.allocate size).run session.stack) := by
  obtain ⟨state, answer⟩ := run_operation session
    (show (Call.allocate size).operation = some <$> Allocator.allocate size from rfl)
  have valid' := valid.perform (fun _ target => target.elim :
    (Call.allocate size : Call Object).Confined session.blocks)
  have blocks : ∀ place, ((Allocator.allocate size).run session.stack).result = .ok place →
      (session.perform (.allocate size)).blocks = ⟨place, place + size⟩ :: session.blocks := by
    intro place got
    apply blocks_of_request rfl
    rw [answer, got]
    rfl
  constructor
  · rw [state]
    exact valid'.sound
  · intro address held alive
    obtain ⟨block, live, rfl, fits⟩ := valid.holds_iff.mp alive
    obtain ⟨alive, agree⟩ := (valid.transition (.allocate size)).keeps valid id live id
    rw [state]
    exact valid'.keeps alive (fun address covers => agree address covers id) fits
  · intro place got
    rw [state]
    refine valid'.holds_iff.mpr ⟨⟨place, place + size⟩, ?_, rfl, Nat.le_refl _⟩
    rw [blocks place got]
    exact List.mem_cons_self ..
  · intro place got address held alive
    obtain ⟨block, live, rfl, fits⟩ := valid.holds_iff.mp alive
    have apart := valid'.chain.separated
    rw [blocks place got] at apart
    have gap : block.stop + headerSize ≤ place := (List.pairwise_cons.mp apart).1 block live
    simp only [headerSize] at gap
    omega

theorem Valid.released (valid : session.Valid) {address size : Nat}
    (held : Holds session.stack address size) :
    Released session.stack address size ((Allocator.release (some address)).run session.stack) := by
  obtain ⟨block, live, rfl, fits⟩ := valid.holds_iff.mp held
  obtain ⟨state, answer⟩ := run_operation session
    (show (Call.release (some block.start)).operation =
      (fun _ => none) <$> Allocator.release (some block.start) from rfl)
  have valid' := valid.perform (fun _ target => target.elim :
    (Call.release (some block.start) : Call Object).Confined session.blocks)
  constructor
  · rw [state]
    exact valid'.sound
  · intro other held distinct alive
    obtain ⟨block', live', rfl, fits'⟩ := valid.holds_iff.mp alive
    obtain ⟨alive', agree⟩ := (valid.transition (.release (some block.start))).keeps valid id live'
      (fun same => distinct same.symm)
    rw [state]
    exact valid'.keeps alive' (fun address covers => agree address covers id) fits'
  · intro fault failed
    rw [failed] at answer
    obtain ⟨same, memory⟩ := valid.keeps_of_rejected answer
    rw [state]
    exact valid'.keeps (same ▸ live) (fun address _ => congrArg (Memory.load · address) memory) fits

theorem Valid.resized (valid : session.Valid) {address newSize oldSize : Nat} (asked : newSize ≠ 0)
    (held : Holds session.stack address oldSize) :
    Resized session.stack address newSize oldSize
      ((Allocator.resize (some address) newSize oldSize).run session.stack) := by
  obtain ⟨block, live, rfl, fits⟩ := valid.holds_iff.mp held
  have valid' := valid.perform (fun _ target => target.elim :
    (Call.resize (some block.start) newSize oldSize : Call Object).Confined session.blocks)
  have transition := valid.transition (.resize (some block.start) newSize oldSize)
  have state : ((Allocator.resize (some block.start) newSize oldSize).run session.stack).state =
    (session.perform (.resize (some block.start) newSize oldSize)).stack := rfl
  constructor
  · exact valid'.sound
  · intro other held distinct alive
    obtain ⟨block', live', rfl, fits'⟩ := valid.holds_iff.mp alive
    obtain ⟨alive', agree⟩ := transition.keeps valid id live' (fun same => distinct same.symm)
    exact valid'.keeps alive' (fun address covers => agree address covers id) fits'
  · intro fault failed
    have answer : session.answer (.resize (some block.start) newSize oldSize) =
      .error fault := failed
    obtain ⟨same, memory⟩ := valid.keeps_of_rejected answer
    rw [state]
    exact valid'.keeps (same ▸ live) (fun address _ => congrArg (Memory.load · address) memory) fits
  · intro answer got
    have there := valid'.holds_iff.mpr (valid.block_of_resize live asked fits got)
    exact ⟨block.start, valid.answer_resize asked got, there, fun other held distinct _ => distinct,
      fun position common => transition.kept_by_resize valid live fits common⟩

end Session

instance : LawfulCustody Object (Stack Object) where
  memory_withMemory _ _ := rfl
  apart sound held other distinct := by
    obtain ⟨blocks, valid⟩ := sound
    exact valid.apart held other distinct
  written sound held outside := by
    obtain ⟨blocks, valid⟩ := sound
    have valid' := valid.written held outside
    exact ⟨valid'.sound, fun other held' alive =>
      valid'.holds_iff.mpr (valid.holds_iff.mp alive)⟩
  allocate sound size := by
    obtain ⟨blocks, valid⟩ := sound
    exact valid.acquired size
  release sound held := by
    obtain ⟨blocks, valid⟩ := sound
    exact valid.released held

instance : LawfulAllocator Object (Stack Object) where
  resize_none _ _ := rfl
  resize sound asked held := by
    obtain ⟨blocks, valid⟩ := sound
    exact valid.resized asked held

end Allotment.Stack
