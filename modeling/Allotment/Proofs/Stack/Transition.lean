import Allotment.Proofs.Stack.Session

/-! What one call can do to a session: nothing, put a block on top, take the top block off, move its
end, take all blocks off, or write to live blocks. Every invariant of sessions follows from these six
cases. -/
namespace Allotment.Stack
variable {Object : Type}

namespace Session

/-- The headers chain the live blocks, and the used part lies in the buffer. -/
structure Valid (session : Session Object) : Prop where
  chain : Chain session.stack session.blocks session.stack.offsets
  inside : session.stack.used ≤ session.stack.capacity

/-- What can become of the blocks, the offsets and the memory. -/
inductive Change (before : Session Object) (call : Call Object) (after : Session Object) : Prop where
  | idle (blocks : after.blocks = before.blocks) (offsets : after.stack.offsets = before.stack.offsets)
      (memory : after.stack.memory = before.stack.memory)
  | pushed {size : Nat} {block : Extent} (requested : call.request? = some size)
      (placed : before.stack.placement? size = some (block.start, block.stop))
      (blocks : after.blocks = block :: before.blocks)
      (offsets : after.stack.offsets = ⟨block.start, block.stop⟩)
      (header : after.stack.headerAt block.start = before.stack.offsets)
      (kept : ∀ address, address + headerSize < block.start →
        after.stack.memory.load address = before.stack.memory.load address)
  | popped {block : Extent} {rest : List Extent} (live : before.blocks = block :: rest)
      (released : call.released? = some block.start) (blocks : after.blocks = rest)
      (offsets : after.stack.offsets = before.stack.headerAt block.start)
      (kept : ∀ address, address < block.start →
        after.stack.memory.load address = before.stack.memory.load address)
  | resized {block : Extent} {rest : List Extent} {newSize oldSize : Nat}
      (live : before.blocks = block :: rest) (asked : newSize ≠ 0)
      (called : call = .resize (some block.start) newSize oldSize)
      (fits : block.start + newSize ≤ before.stack.capacity)
      (blocks : after.blocks = ⟨block.start, block.start + newSize⟩ :: rest)
      (offsets : after.stack.offsets = ⟨block.start, block.start + newSize⟩)
      (kept : ∀ address, address < min block.stop (block.start + newSize) →
        after.stack.memory.load address = before.stack.memory.load address)
  | cleared (bulk : call.IsBulk) (blocks : after.blocks = [])
      (offsets : after.stack.offsets = ⟨0, 0⟩)
  | written (blocks : after.blocks = before.blocks)
      (offsets : after.stack.offsets = before.stack.offsets)
      (kept : ∀ address, ¬ call.Targets address →
        after.stack.memory.load address = before.stack.memory.load address)

/-- The faults of calls, with the stack each leaves: want of room is counted, misuse is not. -/
inductive Rejection (before : Stack Object) : Fault → Stack Object → Prop where
  | full (requested : Nat) :
      Rejection before ((before.roomError requested).fault before.config.failFast) before.failed
  | misused (misuse : StackMisuse) :
      Rejection before (.aborted (.violation component misuse.details)) before

theorem Rejection.memory {before after : Stack Object} {fault : Fault}
    (rejection : Rejection before fault after) : after.memory = before.memory := by
  cases rejection with
  | full => exact memory_counted ..
  | misused => rfl

/-- A call keeps shape and configuration, and changes the rest in one of these ways; where it has no
answer it was rejected. -/
structure Transition (before : Session Object) (call : Call Object) (after : Session Object) :
    Prop where
  shape : after.stack.shape = before.stack.shape
  config : after.stack.config = before.stack.config
  change : Change before call after
  rejected : ∀ fault, before.answer call = .error fault → Rejection before.stack fault after.stack

theorem Transition.of_answered {session : Session Object} {call : Call Object}
    {answer : Option Nat} {last : Stack Object} {done : List (Effect Object)}
    (ran : call.operation.run session.stack = ⟨.ok answer, last, done⟩)
    (shape : last.shape = session.stack.shape) (config : last.config = session.stack.config)
    (change : Change session call ⟨last, call.ledger answer session.blocks⟩) :
    Transition session call (session.perform call) := by
  rw [perform_of_ok ran]
  refine ⟨shape, config, change, ?_⟩
  intro fault failed
  rw [Session.answer, ran] at failed
  cases failed

theorem Transition.of_rejected {session : Session Object} {call : Call Object} {fault : Fault}
    {last : Stack Object} {done : List (Effect Object)}
    (ran : call.operation.run session.stack = ⟨.error fault, last, done⟩)
    (rejection : Rejection session.stack fault last) :
    Transition session call (session.perform call) := by
  have same : ∀ other, session.answer call = .error other → other = fault := by
    intro other failed
    rw [Session.answer, ran] at failed
    cases failed
    rfl
  rw [perform_of_error ran]
  cases rejection with
  | full requested =>
    refine ⟨shape_counted .., config_counted ..,
      .idle rfl (offsets_counted ..) (memory_counted ..), ?_⟩
    intro other failed
    rw [same other failed]
    exact .full requested
  | misused misuse =>
    refine ⟨rfl, rfl, .idle rfl rfl rfl, ?_⟩
    intro other failed
    rw [same other failed]
    exact .misused misuse

namespace Valid
variable {session : Session Object} {call : Call Object}

theorem ordered (valid : session.Valid) : session.stack.Ordered :=
  ⟨valid.chain.top_le_used, valid.inside⟩

theorem top_block (valid : session.Valid) (live : session.stack.top ≠ 0) :
    ∃ rest, session.blocks = ⟨session.stack.top, session.stack.used⟩ :: rest := by
  cases same : session.blocks with
  | nil => exact absurd (valid.chain.top_eq_zero_iff.mpr same) live
  | cons block rest =>
    have head : session.blocks.head? = some block := by rw [same]; rfl
    have offsets := valid.chain.head_start head
    have top : session.stack.top = block.start := congrArg Header.top offsets
    have used : session.stack.used = block.stop := congrArg Header.used offsets
    rw [top, used]
    exact ⟨rest, rfl⟩

theorem top_offsets (valid : session.Valid) {block : Extent} {rest : List Extent}
    (live : session.blocks = block :: rest) :
    session.stack.top = block.start ∧ session.stack.used = block.stop ∧ session.stack.top ≠ 0 := by
  have offsets : session.stack.offsets = ⟨block.start, block.stop⟩ :=
    valid.chain.head_start (by rw [live]; rfl)
  refine ⟨congrArg Header.top offsets, congrArg Header.used offsets, ?_⟩
  intro none
  rw [valid.chain.top_eq_zero_iff.mp none] at live
  cases live

theorem backed (valid : session.Valid) : session.stack.Backed := by
  intro live
  obtain ⟨rest, same⟩ := valid.top_block live
  have chain := valid.chain
  rw [same] at chain
  generalize session.stack.offsets = offsets at chain
  cases chain with
  | cons _ header room _ _ _ =>
    rw [header]
    exact room

theorem filter_top (valid : session.Valid) {block : Extent} {rest : List Extent}
    (live : session.blocks = block :: rest) :
    session.blocks.filter (fun other => other.start != block.start) = rest := by
  have apart := valid.chain.separated
  have chain := valid.chain
  rw [live] at apart chain
  rw [live, List.filter_cons_of_neg (by simp)]
  apply List.filter_eq_self.mpr
  intro other deeper
  have order := (chain.bounds (List.mem_cons_of_mem _ deeper)).2.1
  have gap := (List.pairwise_cons.mp apart).1 other deeper
  simp only [headerSize] at gap
  simp only [bne_iff_ne, ne_eq]
  omega

theorem transition_of_request (valid : session.Valid) {size : Nat}
    (requested : call.request? = some size) :
    Transition session call (session.perform call) := by
  cases place : session.stack.placement? size with
  | none => exact .of_rejected (Call.run_of_unplaced requested place) (.full size)
  | some pair =>
    obtain ⟨start, stop⟩ := pair
    obtain ⟨room, _, sum, inside, _⟩ := placement?_some place
    have small : session.stack.capacity < 2 ^ (32 : Nat) := session.stack.shape.capacity_lt
    have order := valid.ordered.top_le_used
    have held : headerSize ≤ start := by omega
    obtain ⟨memory, left, agree⟩ := call.acquired_eq session.stack ⟨start, stop⟩
    have ran := Call.run_of_placed ⟨start, stop⟩ valid.ordered requested place
    rw [left] at ran
    refine .of_answered ran (shape_pushed ..) (config_pushed ..) ?_
    rw [Call.ledger_of_request requested, ← sum]
    refine .pushed requested place rfl (offsets_pushed ..) ?_ ?_
    · refine (headerAt_congr held fun address _ last => agree address last).trans ?_
      exact headerAt_pushed held (by omega) (by omega)
    · intro address below
      have agreed := agree address (Nat.lt_of_le_of_lt (Nat.le_add_right ..) below)
      exact agreed.trans (load_pushed_of_lt below)

theorem transition_of_release (valid : session.Valid) {address : Nat}
    (released : call.released? = some address) :
    Transition session call (session.perform call) := by
  cases found : session.stack.releaseMisuse? address with
  | some misuse => exact .of_rejected (Call.run_of_release_misuse released found) (.misused misuse)
  | none =>
    obtain ⟨live, same⟩ := (releaseMisuse?_eq_none_iff valid.ordered).mp found
    subst same
    obtain ⟨rest, blocks⟩ := valid.top_block live
    refine .of_answered (Call.run_of_release valid.ordered valid.backed live released)
      (shape_popped ..) (config_popped ..) ?_
    rw [Call.ledger_of_released released, valid.filter_top blocks]
    exact .popped blocks released rfl (offsets_popped ..) fun address below =>
      load_popped_of_lt below

/-- A resize of the block on top moves its end; one of a block below changes nothing. -/
theorem transition_of_resize (valid : session.Valid) {address newSize : Nat} (oldSize : Nat)
    (asked : newSize ≠ 0) :
    Transition session (.resize (some address) newSize oldSize)
      (session.perform (.resize (some address) newSize oldSize)) := by
  cases found : session.stack.resizeMisuse? address newSize oldSize with
  | some misuse => exact .of_rejected (run_resize_of_misuse asked found) (.misused misuse)
  | none =>
    obtain ⟨live, place⟩ := (resizeMisuse?_eq_none_iff valid.ordered).mp found
    obtain ⟨rest, blocks⟩ := valid.top_block live
    rcases place with same | ⟨lower, shrinks⟩
    · subst same
      by_cases fits : session.stack.top + newSize ≤ session.stack.capacity
      · have moved : Call.moveEnd session.stack.top (session.stack.top + newSize) session.blocks =
            ⟨session.stack.top, session.stack.top + newSize⟩ :: rest := by
          rw [blocks, Call.moveEnd, if_pos rfl]
        exact .of_answered (run_resize_of_top valid.ordered oldSize asked live fits)
          (shape_resized ..) (config_resized ..) (.resized blocks asked rfl fits moved
            (offsets_resized ..) fun address kept => load_resized_of_lt kept)
      · exact .of_rejected
          (run_resize_of_full valid.ordered oldSize asked live (Nat.lt_of_not_le fits))
          (.full newSize)
    · have kept : Call.moveEnd address (address + newSize) session.blocks = session.blocks := by
        rw [blocks, Call.moveEnd, if_neg (Nat.ne_of_gt lower)]
      exact .of_answered (run_resize_of_lower valid.ordered asked lower shrinks) rfl rfl
        (.idle kept rfl rfl)

/-- Whatever is called on a valid session, it makes one of the transitions. -/
theorem transition (valid : session.Valid) (call : Call Object) :
    Transition session call (session.perform call) := by
  cases requested : call.request? with
  | some size => exact valid.transition_of_request requested
  | none =>
    cases released : call.released? with
    | some address => exact valid.transition_of_release released
    | none =>
      cases call with
      | allocate _ => cases requested
      | allocateZeroed _ => cases requested
      | resize target newSize oldSize =>
        cases target with
        | none => cases requested
        | some address =>
          cases newSize with
          | zero => cases released
          | succ size => exact valid.transition_of_resize oldSize (Nat.succ_ne_zero size)
      | release target =>
        cases target with
        | none => exact .of_answered rfl rfl rfl (.idle rfl rfl rfl)
        | some _ => cases released
      | releaseAll =>
        have ran : (Call.releaseAll : Call Object).operation.run session.stack = ⟨.ok none,
            session.stack.cleared, [.logged (.stackCleared session.stack.used)]⟩ := by
          rw [Call.operation, Step.run_map, run_releaseAll valid.inside]
          rfl
        exact .of_answered ran (shape_cleared _) (config_cleared _)
          (.cleared trivial rfl (offsets_cleared _))
      | reset =>
        have ran : (Call.reset : Call Object).operation.run session.stack = ⟨.ok none,
            session.stack.cleared.counted fun _ => .zero,
            [.logged (.stackCleared session.stack.used)]⟩ := by
          rw [Call.operation, Step.run_map, run_reset valid.inside]
          rfl
        exact .of_answered ran (by simp) (by simp) (.cleared trivial rfl (by simp))
      | resetStatistics => exact .of_answered rfl rfl rfl (.idle rfl rfl rfl)
      | write start cells =>
        exact .of_answered rfl rfl rfl (.written rfl rfl fun address missed =>
          Call.load_write_of_missed missed _)

end Valid
end Session
end Allotment.Stack
