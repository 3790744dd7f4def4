import Allotment.Proofs.Stack.Representation

namespace Allotment.Stack.Session
variable {Object : Type}

/-- The call moves the end of this block, which is the one on top. -/
def MovesEnd (session : Session Object) (call : Call Object) (block later : Extent) : Prop :=
  ∃ newSize oldSize, call = .resize (some block.start) newSize oldSize ∧
    session.blocks.head? = some block ∧ later = ⟨block.start, block.start + newSize⟩

/-- A block that stays live keeps its place and, in its old and its new extent, the bytes that its
caller does not write. -/
theorem Transition.kept {before after : Session Object} {call : Call Object}
    (transition : Transition before call after) (valid : before.Valid) {block later : Extent}
    (live : block ∈ before.blocks) (alive : later ∈ after.blocks) (same : later.start = block.start) :
    (later = block ∨ before.MovesEnd call block later) ∧
      ∀ address, block.Covers address → later.Covers address → ¬ call.Targets address →
        after.stack.memory.load address = before.stack.memory.load address := by
  have chain := valid.chain
  obtain ⟨_, order, _, inside, _⟩ := chain.bounds live
  have inside' : block.stop ≤ before.stack.used := inside
  cases transition.change with
  | idle blocks offsets memory =>
    rw [blocks] at alive
    exact ⟨.inl (chain.eq_of_start alive live same), fun address _ _ _ => by rw [memory]⟩
  | @pushed size fresh requested placed blocks offsets header kept =>
    obtain ⟨room, _⟩ := placement?_some placed
    rw [blocks] at alive
    rcases List.mem_cons.mp alive with new | old
    · subst new
      simp only [headerSize] at room
      omega
    · refine ⟨.inl (chain.eq_of_start old live same), fun address covers _ _ => kept address ?_⟩
      have last := covers.2
      omega
  | @popped top rest stack released blocks offsets kept =>
    rw [blocks] at alive
    have deeper : later ∈ before.blocks := stack ▸ List.mem_cons_of_mem top alive
    have equal := chain.eq_of_start deeper live same
    have apart := chain.separated
    rw [stack] at apart
    have gap := (List.pairwise_cons.mp apart).1 later alive
    refine ⟨.inl equal, fun address _ covers _ => kept address ?_⟩
    have last := covers.2
    omega
  | @resized top rest newSize oldSize stack asked called fits blocks offsets kept =>
    have head : top ∈ before.blocks := stack ▸ List.mem_cons_self ..
    rw [blocks] at alive
    rcases List.mem_cons.mp alive with moved | deeper
    · subst moved
      have equal := chain.eq_of_start head live same
      subst equal
      refine ⟨.inr ⟨newSize, oldSize, called, by rw [stack]; rfl, rfl⟩,
        fun address covers covers' _ => kept address ?_⟩
      have last := covers.2
      have last' : address < top.start + newSize := covers'.2
      omega
    · have equal := chain.eq_of_start (stack ▸ List.mem_cons_of_mem top deeper) live same
      have apart := chain.separated
      rw [stack] at apart
      have gap := (List.pairwise_cons.mp apart).1 later deeper
      have order' := (chain.bounds head).2.1
      refine ⟨.inl equal, fun address _ covers _ => kept address ?_⟩
      have last := covers.2
      omega
  | cleared bulk blocks offsets =>
    rw [blocks] at alive
    cases alive
  | written blocks offsets kept =>
    rw [blocks] at alive
    exact ⟨.inl (chain.eq_of_start alive live same), fun address _ _ missed => kept address missed⟩

/-- A resize under an old size that the block has keeps the bytes both sizes have in common. -/
theorem Transition.kept_by_resize {before after : Session Object} {block : Extent}
    {newSize oldSize : Nat}
    (transition : Transition before (.resize (some block.start) newSize oldSize) after)
    (valid : before.Valid) (live : block ∈ before.blocks) (truthful : block.start + oldSize ≤ block.stop)
    {position : Nat} (common : position < min oldSize newSize) :
    after.stack.memory.load (block.start + position) =
      before.stack.memory.load (block.start + position) := by
  cases transition.change with
  | idle blocks offsets memory => rw [memory]
  | pushed requested => cases requested
  | popped stack released =>
    cases newSize with
    | zero => omega
    | succ size => cases released
  | @resized top rest newSize' oldSize' stack asked called fits blocks offsets kept =>
    injection called with target new old
    injection target with start
    have equal := valid.chain.eq_of_start live (stack ▸ List.mem_cons_self ..) start
    subst equal new
    exact kept _ (by omega)
  | cleared bulk => exact bulk.elim
  | written blocks offsets kept => exact kept _ fun target => target.elim

theorem Valid.answer_resize {session : Session Object} (valid : session.Valid)
    {address newSize oldSize : Nat} (asked : newSize ≠ 0) {answer : Option Nat}
    (answered : session.answer (.resize (some address) newSize oldSize) = .ok answer) :
    answer = some address := by
  have ran : (resize (some address) newSize oldSize).run session.stack =
      (Call.resize (some address) newSize oldSize).operation.run session.stack := rfl
  rw [Session.answer, ← ran] at answered
  cases found : session.stack.resizeMisuse? address newSize oldSize with
  | some misuse =>
    rw [run_resize_of_misuse asked found] at answered
    cases answered
  | none =>
    obtain ⟨live, order⟩ := (resizeMisuse?_eq_none_iff valid.ordered).mp found
    rcases order with top | ⟨lower, shrinks⟩
    · subst top
      by_cases fits : session.stack.top + newSize ≤ session.stack.capacity
      · rw [run_resize_of_top valid.ordered oldSize asked live fits] at answered
        cases answered
        rfl
      · rw [run_resize_of_full valid.ordered oldSize asked live (Nat.lt_of_not_le fits)] at answered
        cases answered
    · rw [run_resize_of_lower valid.ordered asked lower shrinks] at answered
      cases answered
      rfl

/-- Live blocks are aligned and share no byte with each other or with a header. Whatever is called next, a
block that stays live keeps the bytes that its caller does not write. -/
theorem Reachable.isolation {session : Session Object} (reached : session.Reachable) :
    (∀ block ∈ session.blocks, block.start ≤ block.stop ∧ block.stop ≤ session.stack.capacity ∧
      session.stack.align ∣ block.start) ∧
    session.blocks.Pairwise (fun first second => first.start ≠ second.start ∧
      ∀ address, ¬ (first.Covers address ∧ second.Covers address)) ∧
    (∀ block ∈ session.blocks, ∀ other ∈ session.blocks, ∀ address,
      block.Covers address → ¬ other.Heads address) ∧
    (∀ call : Call Object, ∀ block ∈ session.blocks, ∀ later ∈ (session.perform call).blocks,
      later.start = block.start → (later = block ∨ session.MovesEnd call block later) ∧
        ∀ address, block.Covers address → later.Covers address → ¬ call.Targets address →
          (session.perform call).stack.memory.load address = session.stack.memory.load address) ∧
    ∀ block ∈ session.blocks, ∀ newSize oldSize, block.start + oldSize ≤ block.stop →
      (newSize ≠ 0 → ∀ answer,
        session.answer (.resize (some block.start) newSize oldSize) = .ok answer →
          answer = some block.start) ∧
      ∀ position, position < min oldSize newSize →
        (session.perform (.resize (some block.start) newSize oldSize)).stack.memory.load
          (block.start + position) = session.stack.memory.load (block.start + position) := by
  have valid := reached.valid
  have chain := valid.chain
  refine ⟨?_, ?_, fun block live other alive address covers =>
    chain.not_heads_of_covers live alive covers, fun call block live later alive same =>
      (valid.transition call).kept valid live alive same, ?_⟩
  · intro block live
    obtain ⟨_, order, _, inside, aligned⟩ := chain.bounds live
    exact ⟨order, Nat.le_trans inside valid.inside, aligned⟩
  · apply chain.separated.imp_of_mem
    intro first second live alive gap
    have order := (chain.bounds live).2.1
    have order' := (chain.bounds alive).2.1
    simp only [headerSize] at gap
    refine ⟨by omega, ?_⟩
    intro address both
    have first_byte := both.1.1
    have last_byte := both.2.2
    omega
  · intro block live newSize oldSize truthful
    constructor
    · intro asked answer answered
      exact valid.answer_resize asked answered
    · intro position common
      exact (valid.transition _).kept_by_resize valid live truthful common

/-- A block shrunk by its caller while another lay on it, and grown again once it is on top, keeps
the bytes its caller counts. -/
theorem isolation_of_shrunk_block :
    ∃ session : Session Unit, session.Reachable ∧ session.blocks = [⟨8, 16⟩] ∧
      session.answer (.resize (some 8) 12 4) = .ok (some 8) ∧
      ∀ position, position < 4 →
        (session.perform (.resize (some 8) 12 4)).stack.memory.load (8 + position) =
          session.stack.memory.load (8 + position) := by
  have built : (Stack.create 64 8 .debug : Step Unit Unit (Stack Unit)).run () =
      ⟨.ok (.empty ⟨64, 8, rfl, by decide, by decide, rfl, by decide⟩ .debug), (),
        [.logged (.stackCreated 64 8 .debug)]⟩ := rfl
  have inside : (Call.write 9 [Cell.zero] : Call Unit).Confined [⟨8, 16⟩] := fun address target =>
    ⟨⟨8, 16⟩, List.mem_cons_self .., Nat.le_of_succ_le target.1,
      Nat.lt_of_lt_of_le target.2 (by decide)⟩
  have reached := (Reachable.created built).after
    [.allocate 8, .write 9 [Cell.zero], .allocate 5, .resize (some 8) 4 8, .release (some 24)]
    ⟨fun _ target => target.elim, inside, fun _ target => target.elim,
      fun _ target => target.elim, fun _ target => target.elim, trivial⟩
  obtain ⟨_, _, _, _, resized⟩ := reached.isolation
  refine ⟨_, reached, rfl, rfl, ?_⟩
  exact (resized ⟨8, 16⟩ (List.mem_cons_self ..) 12 4 (by decide)).2

end Allotment.Stack.Session
