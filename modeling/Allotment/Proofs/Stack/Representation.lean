import Allotment.Proofs.Stack.Transition

/-! What holds of a stack at every moment, whatever its callers do: the headers in the buffer chain
the live blocks down to its start, the offsets are those of the last block, and no internal check
ever fails. -/
namespace Allotment.Stack.Session
variable {Object : Type}

theorem Valid.of_empty (shape : StackShape) (config : StackConfig) :
    (⟨Stack.empty shape config, []⟩ : Session Object).Valid :=
  ⟨.nil, Nat.zero_le _⟩

theorem checked_of_create {capacity align : Nat} {config : StackConfig} {stack : Stack Object}
    {done : List (Effect Object)}
    (built : (Stack.create capacity align config).run () = ⟨.ok stack, (), done⟩) :
    ∃ shape, StackShape.check capacity align = .ok shape ∧ stack = Stack.empty shape config := by
  unfold Stack.create at built
  split at built
  · simp only [Step.run_refuse] at built
    cases built
  · next shape passed =>
    simp only [Step.run_bind, Step.run_log, Step.run_pure] at built
    cases built
    exact ⟨shape, passed, rfl⟩

theorem eq_empty_of_create {capacity align : Nat} {config : StackConfig} {stack : Stack Object}
    {done : List (Effect Object)}
    (built : (Stack.create capacity align config).run () = ⟨.ok stack, (), done⟩) :
    ∃ shape, stack = Stack.empty shape config := by
  obtain ⟨shape, _, empty⟩ := checked_of_create built
  exact ⟨shape, empty⟩

/-- Valid sessions stay valid, as long as callers write to live blocks only. -/
theorem Transition.valid {before after : Session Object} {call : Call Object}
    (transition : Transition before call after) (valid : before.Valid)
    (confined : call.Confined before.blocks) : after.Valid := by
  have align : after.stack.align = before.stack.align := congrArg StackShape.align transition.shape
  have capacity : after.stack.capacity = before.stack.capacity :=
    congrArg StackShape.capacity transition.shape
  have order := valid.ordered.top_le_used
  have inside := valid.inside
  have chain := valid.chain
  cases transition.change with
  | idle blocks offsets memory =>
    have used : after.stack.used = before.stack.used := congrArg Header.used offsets
    refine ⟨?_, by omega⟩
    rw [blocks, offsets]
    exact chain.transport_of_below transition.shape fun address _ => by rw [memory]
  | @pushed size block requested placed blocks offsets header kept =>
    obtain ⟨room, aligned, sum, fits, near⟩ := placement?_some placed
    have used : after.stack.used = block.stop := congrArg Header.used offsets
    refine ⟨?_, by omega⟩
    have below : Chain after.stack before.blocks before.stack.offsets := by
      refine chain.transport_of_below transition.shape fun address low => kept address ?_
      have low' : address < before.stack.top := low
      omega
    rw [blocks, offsets]
    refine .cons below header room ?_ ?_ (by omega)
    · rw [align]
      exact near
    · rw [align]
      exact aligned
  | @popped block rest live released blocks offsets kept =>
    rw [live] at chain
    generalize before.stack.offsets = top at chain
    cases chain with
    | cons chained header room _ _ _ =>
      have room' := chained.top_le_used
      have used : after.stack.used = (before.stack.headerAt block.start).used :=
        congrArg Header.used offsets
      have bound := (valid.chain.bounds (live ▸ List.mem_cons_self ..)).2.2.1
      have bound' : block.start ≤ before.stack.top := bound
      refine ⟨?_, by rw [used, header]; omega⟩
      rw [blocks, offsets, header]
      refine chained.transport_of_below transition.shape fun address low => kept address ?_
      omega
  | @resized block rest newSize oldSize live asked called fits blocks offsets kept =>
    have used : after.stack.used = block.start + newSize := congrArg Header.used offsets
    refine ⟨?_, by omega⟩
    rw [blocks, offsets]
    rw [live] at chain
    generalize before.stack.offsets = top at chain
    cases chain with
    | cons chained header room near aligned ordered =>
      have low := chained.top_le_used
      have same : after.stack.headerAt block.start = before.stack.headerAt block.start :=
        headerAt_congr (by omega) fun address _ last => kept address (by omega)
      refine .cons (chained.transport_of_below transition.shape fun address below =>
        kept address (by omega)) (same.trans header) room ?_ ?_ (Nat.le_add_right ..)
      · rw [align]
        exact near
      · rw [align]
        exact aligned
  | cleared bulk blocks offsets =>
    have used : after.stack.used = 0 := congrArg Header.used offsets
    refine ⟨?_, by omega⟩
    rw [blocks, offsets]
    exact .nil
  | written blocks offsets kept =>
    have used : after.stack.used = before.stack.used := congrArg Header.used offsets
    refine ⟨?_, by omega⟩
    rw [blocks, offsets]
    refine chain.transport transition.shape fun block live address heads => kept address ?_
    -- a write that reached a header would have to target one of its bytes
    intro target
    obtain ⟨other, alive, covers⟩ := confined address target
    exact chain.not_heads_of_covers alive live covers heads

theorem Valid.perform {session : Session Object} {call : Call Object} (valid : session.Valid)
    (confined : call.Confined session.blocks) : (session.perform call).Valid :=
  (valid.transition call).valid valid confined

theorem Valid.after {session : Session Object} (valid : session.Valid) {calls : List (Call Object)}
    (permitted : session.Permits calls) :
    (session.after calls).Valid ∧ (session.after calls).stack.shape = session.stack.shape ∧
      (session.after calls).stack.config = session.stack.config := by
  induction calls generalizing session with
  | nil => exact ⟨valid, rfl, rfl⟩
  | cons call rest ih =>
    have kept := valid.transition call
    obtain ⟨valid', shape, config⟩ := ih (valid.perform permitted.1) permitted.2
    exact ⟨valid', shape.trans kept.shape, config.trans kept.config⟩

theorem Reachable.valid {session : Session Object} (reached : session.Reachable) :
    session.Valid := by
  induction reached with
  | created built =>
    obtain ⟨shape, rfl⟩ := eq_empty_of_create built
    exact .of_empty shape _
  | performed _ confined ih => exact ih.perform confined

theorem Rejection.orderly {before after : Stack Object} {fault : Fault}
    (rejection : Rejection before fault after) :
    (∀ condition, fault ≠ .aborted (.assertionFailed condition)) ∧
      fault ≠ .aborted .additionOverflow := by
  cases rejection with
  | full requested =>
    rw [roomError, MemoryError.fault]
    cases before.config.failFast <;> simp
  | misused misuse => simp

/-- The eight bytes in front of each live block hold the offsets of the block below, so walking down the
headers visits exactly the live blocks. No call fails an internal check. -/
theorem Reachable.representation {session : Session Object} (reached : session.Reachable) :
    Chain session.stack session.blocks session.stack.offsets ∧
      (session.stack.top ≤ session.stack.used ∧ session.stack.used ≤ session.stack.capacity ∧
        session.stack.capacity < 2 ^ (32 : Nat)) ∧
      (session.stack.top = 0 ↔ session.blocks = []) ∧
      (∀ visited, Walk session.stack session.stack.top visited ↔
        visited = session.blocks.map Extent.start) ∧
      ∀ call : Call Object,
        (∀ condition, session.answer call ≠ .error (.aborted (.assertionFailed condition))) ∧
          session.answer call ≠ .error (.aborted .additionOverflow) := by
  have valid := reached.valid
  refine ⟨valid.chain, ⟨valid.ordered.top_le_used, valid.inside, session.stack.shape.capacity_lt⟩,
    valid.chain.top_eq_zero_iff, fun visited => valid.chain.walk_iff, ?_⟩
  intro call
  have rejected := (valid.transition call).rejected
  constructor
  · intro condition failed
    exact (rejected _ failed).orderly.1 condition rfl
  · intro failed
    exact (rejected _ failed).orderly.2 rfl

/-- A block of eight bytes, one of them written to, below one that grew from five bytes to nine. -/
theorem representation_of_grown_block :
    ∃ session : Session Unit, session.Reachable ∧ session.blocks = [⟨24, 33⟩, ⟨8, 16⟩] ∧
      Chain session.stack session.blocks session.stack.offsets ∧
      Walk session.stack session.stack.top [24, 8] ∧
      session.answer (.release (some 8)) ≠
        .error (.aborted (.assertionFailed .headerBelowBlock)) := by
  have built : (Stack.create 64 8 .debug : Step Unit Unit (Stack Unit)).run () =
      ⟨.ok (.empty ⟨64, 8, rfl, by decide, by decide, rfl, by decide⟩ .debug), (),
        [.logged (.stackCreated 64 8 .debug)]⟩ := rfl
  have inside : (Call.write 8 [Cell.zero] : Call Unit).Confined [⟨8, 16⟩] := fun address target =>
    ⟨⟨8, 16⟩, List.mem_cons_self .., target.1, Nat.lt_of_lt_of_le target.2 (by decide)⟩
  have reached := (Reachable.created built).after
    [.allocate 8, .write 8 [Cell.zero], .allocate 5, .resize (some 24) 9 5]
    ⟨fun _ target => target.elim, inside, fun _ target => target.elim,
      fun _ target => target.elim, trivial⟩
  obtain ⟨chain, _, _, walk, orderly⟩ := reached.representation
  exact ⟨_, reached, rfl, chain, (walk _).mpr rfl, (orderly _).1 _⟩

end Allotment.Stack.Session
