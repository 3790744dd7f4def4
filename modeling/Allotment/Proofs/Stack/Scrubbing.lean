import Allotment.Proofs.Stack.Lockstep

/-! What was written into a block is gone once the block is. Where released bytes are filled, two sessions
that differ only in what callers write differ in no byte outside the live blocks. -/
namespace Allotment.Stack
variable {Object : Type} {stack other : Stack Object} {address : Nat}

theorem load_withFilled_of_inside (stack : Stack Object) {start stop : Nat} (pattern : UInt8)
    (from_start : start ≤ address) (to_stop : address < stop) :
    (stack.withFilled start stop (some pattern)).memory.load address = .byte pattern := by
  change (stack.memory.fill start (stop - start) (.byte pattern)).load address = _
  rw [Memory.load_fill, if_pos (by omega)]

/-! What a change leaves at an address depends on what was there, on the offsets, and on the
configuration. -/
section Congruence
variable (same : stack.memory.load address = other.memory.load address)
include same

theorem load_withFilled_congr (start stop : Nat) (pattern : Option UInt8) :
    (stack.withFilled start stop pattern).memory.load address =
      (other.withFilled start stop pattern).memory.load address := by
  cases pattern with
  | none => exact same
  | some byte =>
    change (stack.memory.fill start (stop - start) (.byte byte)).load address =
      (other.memory.fill start (stop - start) (.byte byte)).load address
    rw [Memory.load_fill, Memory.load_fill, same]

private theorem load_withHeader_congr (offset : Nat) (header : Header) :
    (stack.withHeader offset header).memory.load address =
      (other.withHeader offset header).memory.load address := by
  change (stack.memory.writeBytes (offset - headerSize) header.bytes).load address =
    (other.memory.writeBytes (offset - headerSize) header.bytes).load address
  rw [Memory.load_writeBytes, Memory.load_writeBytes, same]

variable (config : stack.config = other.config) (offsets : stack.offsets = other.offsets)
include config offsets

private theorem load_pushed_congr (offset stop : Nat) :
    (stack.pushed offset stop).memory.load address =
      (other.pushed offset stop).memory.load address := by
  simp only [pushed, memory_counted, memory_withOffsets, config]
  apply load_withFilled_congr
  change (stack.withHeader offset stack.offsets).memory.load address =
    (other.withHeader offset other.offsets).memory.load address
  rw [offsets]
  exact load_withHeader_congr same offset other.offsets

private theorem load_resized_congr (stop : Nat) :
    (stack.resized stop).memory.load address = (other.resized stop).memory.load address := by
  have used : stack.used = other.used := congrArg Header.used offsets
  simp only [resized, memory_counted, memory_withOffsets, refilled, used, config]
  split
  · exact load_withFilled_congr same _ _ _
  · split
    · exact load_withFilled_congr same _ _ _
    · exact same

private theorem load_cleared_congr :
    stack.cleared.memory.load address = other.cleared.memory.load address := by
  have used : stack.used = other.used := congrArg Header.used offsets
  simp only [cleared, memory_withOffsets, used, config]
  exact load_withFilled_congr same _ _ _

private theorem Decision.load_next_congr (decision : Decision Object) :
    (decision.next stack).memory.load address = (decision.next other).memory.load address := by
  have top : stack.top = other.top := congrArg Header.top offsets
  have used : stack.used = other.used := congrArg Header.used offsets
  cases decision with
  | refuse requested => simpa only [next, failed, memory_counted] using same
  | reject misuse => exact same
  | keep answer => exact same
  | push start size clears =>
    have pushed := load_pushed_congr same config offsets start (start + size)
    cases clears with
    | false => exact pushed
    | true =>
      change ((stack.pushed start (start + size)).memory.fill start size Cell.zero).load address =
        ((other.pushed start (start + size)).memory.fill start size Cell.zero).load address
      rw [Memory.load_fill, Memory.load_fill, pushed]
  | pop =>
    simp only [next, popped, memory_counted, memory_withOffsets, top, used, config]
    exact load_withFilled_congr same _ _ _
  | resize newSize =>
    simp only [next, top]
    exact load_resized_congr same config offsets _
  | clear => exact load_cleared_congr same config offsets
  | reset =>
    simp only [next, memory_counted]
    exact load_cleared_congr same config offsets
  | forget => exact same
  | write start cells =>
    change (stack.memory.storeRange start cells).load address =
      (other.memory.storeRange start cells).load address
    rw [Memory.load_storeRange, Memory.load_storeRange, same]

end Congruence

namespace Session
variable {session : Session Object} {call : Call Object}

/-- Where released bytes are filled, a byte that leaves the live blocks is. -/
theorem Valid.scrubbed (valid : session.Valid) {pattern : UInt8}
    (fills : session.stack.config.deallocPattern = some pattern) (held : session.Occupies address)
    (gone : ¬ (session.perform call).Occupies address) :
    (session.perform call).stack.memory.load address = .byte pattern := by
  obtain ⟨block, live, covers⟩ := held
  have vacated : block ∉ (session.perform call).blocks := fun alive => gone ⟨block, alive, covers⟩
  have below : address < session.stack.used :=
    Nat.lt_of_lt_of_le covers.2 (valid.chain.bounds live).2.2.2.1
  cases (valid.transition call).change with
  | idle blocks => exact (vacated (blocks ▸ live)).elim
  | pushed requested placed blocks => exact (vacated (blocks ▸ List.mem_cons_of_mem _ live)).elim
  | @popped top rest stacked released blocks =>
    obtain ⟨start, _, nonzero⟩ := valid.top_offsets stacked
    rw [stacked] at live
    rcases List.mem_cons.mp live with rfl | deeper
    · rw [← start] at released
      have ran := Call.run_of_release valid.ordered valid.backed nonzero released
      rw [perform_of_ok ran]
      simp only [Stack.popped, memory_counted, memory_withOffsets, fills, start]
      exact load_withFilled_of_inside _ pattern covers.1 below
    · exact (vacated (blocks ▸ deeper)).elim
  | @resized top rest newSize oldSize stacked asked called fits blocks =>
    obtain ⟨start, _, nonzero⟩ := valid.top_offsets stacked
    rw [stacked] at live
    rcases List.mem_cons.mp live with rfl | deeper
    · have cut : block.start + newSize ≤ address := by
        refine Nat.le_of_not_lt fun kept => gone ?_
        rw [Occupies, blocks]
        exact ⟨_, List.mem_cons_self .., covers.1, kept⟩
      rw [← start] at called fits cut
      have ran : (Call.resize (some session.stack.top) newSize oldSize).operation.run session.stack =
          _ := run_resize_of_top valid.ordered oldSize asked nonzero fits
      rw [called, perform_of_ok ran]
      simp only [Stack.resized, memory_counted, memory_withOffsets, refilled, fills]
      rw [if_neg (by omega), if_pos (by omega)]
      exact load_withFilled_of_inside _ pattern cut below
    · exact (vacated (blocks ▸ List.mem_cons_of_mem _ deeper)).elim
  | cleared bulk =>
    have filled : session.stack.cleared.memory.load address = .byte pattern := by
      simp only [cleared, memory_withOffsets, fills]
      exact load_withFilled_of_inside _ pattern (Nat.zero_le _) below
    have carried := (valid.carriesOut call).stack
    cases call with
    | releaseAll => rw [carried]; exact filled
    | reset => rw [carried]; exact (congrArg (Memory.load · address) (memory_counted ..)).trans filled
    | _ => exact bulk.elim
  | written blocks => exact (vacated (blocks ▸ live)).elim

/-- Two sessions under one configuration that differ in no byte outside the live blocks. -/
structure Indistinct (one other : Session Object) : Prop where
  lockstep : Lockstep one other
  config : one.stack.config = other.stack.config
  agree : ∀ address, ¬ one.Occupies address →
    one.stack.memory.load address = other.stack.memory.load address

namespace Indistinct
variable {one other : Session Object} {call' : Call Object} {pattern : UInt8}

private theorem of_same (valid : session.Valid) : Indistinct session session :=
  ⟨⟨valid, valid, rfl, rfl, rfl⟩, rfl, fun _ _ => rfl⟩

/-- Bytes outside the live blocks were outside before, and changed alike, or they were just released. -/
theorem perform (indistinct : Indistinct one other)
    (fills : one.stack.config.deallocPattern = some pattern) (alike : Call.Alike call call')
    (confined : call.Confined one.blocks) : Indistinct (one.perform call) (other.perform call') := by
  obtain ⟨lockstep, config, agree⟩ := indistinct
  have lockstep' := lockstep.perform alike confined
  have kept := lockstep.valid.transition call
  have kept' := lockstep.valid'.transition call'
  refine ⟨lockstep', by rw [kept.config, kept'.config, config], ?_⟩
  intro address free
  by_cases held : one.Occupies address
  · have held' := (lockstep.occupies_iff address).mp held
    have free' := mt (lockstep'.occupies_iff address).mpr free
    rw [lockstep.valid.scrubbed fills held free,
      lockstep.valid'.scrubbed (config ▸ fills) held' free']
  · have same := agree address held
    cases alike with
    | same =>
      rw [(lockstep.valid.carriesOut call).stack, (lockstep.valid'.carriesOut call).stack,
        ← lockstep.decision call]
      exact Decision.load_next_congr same config lockstep.offsets _
    | @written start cells others length =>
      -- what differs is written into live blocks
      have missed : ¬ (Call.write start cells).Targets address := fun target =>
        held (confined address target)
      have missed' : ¬ (Call.write start others).Targets address := fun target =>
        missed (((Call.Alike.written start length).targets_iff address).mpr target)
      exact (Call.load_write_of_missed missed _).trans
        (same.trans (Call.load_write_of_missed missed' _).symm)

theorem after (indistinct : Indistinct one other)
    (fills : one.stack.config.deallocPattern = some pattern) {calls others : List (Call Object)}
    (alike : List.Forall₂ Call.Alike calls others) (permitted : one.Permits calls) :
    one.answers calls = other.answers others ∧ Indistinct (one.after calls) (other.after others) := by
  induction alike generalizing one other with
  | nil => exact ⟨rfl, indistinct⟩
  | @cons call call' rest rest' first _ ih =>
    have config := (indistinct.lockstep.valid.transition call).config
    obtain ⟨answers, last⟩ := ih (indistinct.perform fills first permitted.1)
      (by rw [config]; exact fills) permitted.2
    refine ⟨?_, last⟩
    rw [Session.answers, Session.answers, indistinct.lockstep.answer first, answers]

end Indistinct

/-- Nothing that was written into a block outlives it, on a stack that fills released bytes: sessions that
differ only in what callers write get the same answers and differ in no byte outside live blocks. -/
theorem erasure {capacity align : Nat} {config : StackConfig} {pattern : UInt8}
    (fills : config.deallocPattern = some pattern) {stack : Stack Object} {done : List (Effect Object)}
    (built : (Stack.create capacity align config).run () = ⟨.ok stack, (), done⟩)
    {calls others : List (Call Object)} (alike : List.Forall₂ Call.Alike calls others)
    (permitted : Permits ⟨stack, []⟩ calls) :
    answers ⟨stack, []⟩ calls = answers ⟨stack, []⟩ others ∧
      (after ⟨stack, []⟩ calls).stack.offsets = (after ⟨stack, []⟩ others).stack.offsets ∧
      (after ⟨stack, []⟩ calls).blocks = (after ⟨stack, []⟩ others).blocks ∧
      (∀ address, ¬ (after ⟨stack, []⟩ calls).Occupies address →
        (after ⟨stack, []⟩ calls).stack.memory.load address =
          (after ⟨stack, []⟩ others).stack.memory.load address) ∧
      ∀ call : Call Object, ∀ address, (after ⟨stack, []⟩ calls).Occupies address →
        ¬ ((after ⟨stack, []⟩ calls).perform call).Occupies address →
          ((after ⟨stack, []⟩ calls).perform call).stack.memory.load address = .byte pattern := by
  obtain ⟨shape, rfl⟩ := eq_empty_of_create built
  have valid : Valid ⟨(empty shape config : Stack Object), []⟩ := .of_empty shape config
  obtain ⟨answers, last⟩ := (Indistinct.of_same valid).after fills alike permitted
  have filled : (after ⟨empty shape config, []⟩ calls).stack.config.deallocPattern = some pattern := by
    rw [(valid.after permitted).2.2]
    exact fills
  exact ⟨answers, last.lockstep.offsets, last.lockstep.blocks, last.agree,
    fun call address held gone => last.lockstep.valid.scrubbed filled held gone⟩

/-- Eight bytes are written into a block, one way or another, and the block shrinks to four. Behind it
the buffers are the same, and giving the block back fills the four bytes as well. -/
theorem erasure_of_shrunk_block :
    ∃ one other : Session Unit, one.blocks = [⟨8, 12⟩] ∧ other.blocks = [⟨8, 12⟩] ∧
      (∀ address, 12 ≤ address →
        one.stack.memory.load address = other.stack.memory.load address) ∧
      (one.perform (.release (some 8))).stack.memory.load 10 = .byte 0xDD := by
  have built : (Stack.create 64 8 .debug : Step Unit Unit (Stack Unit)).run () =
      ⟨.ok (.empty ⟨64, 8, rfl, by decide, by decide, rfl, by decide⟩ .debug), (),
        [.logged (.stackCreated 64 8 .debug)]⟩ := rfl
  have alike : List.Forall₂ Call.Alike
      ([.allocate 8, .write 8 (List.replicate 8 (.byte 1)), .resize (some 8) 4 8] : List (Call Unit))
      [.allocate 8, .write 8 (List.replicate 8 (.byte 2)), .resize (some 8) 4 8] :=
    .cons (.same _) (.cons (.written 8 rfl) (.cons (.same _) .nil))
  have inside : (Call.write 8 (List.replicate 8 (.byte 1)) : Call Unit).Confined [⟨8, 16⟩] :=
    fun address target => ⟨⟨8, 16⟩, List.mem_cons_self .., target⟩
  obtain ⟨_, _, _, agree, filled⟩ := erasure rfl built alike
    ⟨fun _ target => target.elim, inside, fun _ target => target.elim, trivial⟩
  refine ⟨_, _, rfl, rfl, fun address behind => agree address ?_, filled (.release (some 8)) 10 ?_ ?_⟩
  · rintro ⟨block, live, covers⟩
    cases List.mem_singleton.mp live
    exact Nat.not_lt_of_le behind covers.2
  · exact ⟨⟨8, 12⟩, List.mem_cons_self .., by decide, by decide⟩
  · rintro ⟨block, live, _⟩
    cases live

end Session
end Allotment.Stack
