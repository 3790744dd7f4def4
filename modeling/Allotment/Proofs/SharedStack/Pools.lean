import Allotment.Proofs.Pool.Calls
import Allotment.Proofs.Pool.Teardown
import Allotment.Proofs.SharedStack.Arrays

namespace Allotment.Pool
open Allocator Custody
variable {Object σ T α : Type} [Element Object T]

section Sharing
variable {pool after : Pool T} {stack last : Stack Object}

/-- The pool is in order on the stack: so are its slot array and its table. -/
structure Housed (pool : Pool T) (stack : Stack Object) : Prop where
  slots : pool.slots.Housed stack
  valid : (pool.table stack.memory).Valid

theorem Housed.represents (housed : pool.Housed stack) :
    Represents pool stack (pool.table stack.memory) :=
  ⟨(housed.slots.sized slot_sized).1, rfl⟩

theorem Housed.empty (sound : Sound stack) (config : PoolConfig) :
    (Pool.empty T config).Housed stack :=
  ⟨.empty sound, .empty⟩

variable [LawfulElement Object T]

theorem Acts.turn (acts : Acts pool stack after last) (housed : pool.slots.Housed stack)
    (sound : Sound stack) :
    after.slots.Housed last ∧ Stack.Turn pool.slots.own after.slots.own stack last := by
  obtain ⟨call, state⟩ := acts
  have turn := housed.turn sound call
  rw [state] at turn
  exact turn

theorem Housed.turn (housed : pool.Housed stack) (sound : Sound stack) (call : Call T α) :
    (call.operation.run (pool, stack)).state.1.Housed (call.operation.run (pool, stack)).state.2 ∧
      Stack.Turn pool.slots.own (call.operation.run (pool, stack)).state.1.slots.own stack
        (call.operation.run (pool, stack)).state.2 := by
  rcases housed.represents.called housed.valid call with
    ⟨fault, last, done, ran, kept, _, acts⟩ | ⟨result, after, last, done, ran, answered⟩
  · obtain ⟨slots, turn⟩ := acts.turn housed.slots sound
    rw [ran]
    exact ⟨⟨slots, kept.table_eq.symm ▸ housed.valid⟩, turn⟩
  · obtain ⟨slots, turn⟩ := answered.acts.turn housed.slots sound
    rw [ran]
    exact ⟨⟨slots, answered.represents.table_eq.symm ▸
      valid_onTable housed.valid pool.slotLimit_lt _ call⟩, turn⟩

theorem Housed.spared (housed : pool.Housed stack) {others others' : List Nat}
    (turn : Stack.Turn others others' stack last)
    (foreign : ∀ address ∈ pool.slots.own, address ∉ others) :
    pool.Housed last ∧ pool.table last.memory = pool.table stack.memory := by
  obtain ⟨slots, toList⟩ := housed.slots.spared turn foreign
  have same : pool.table last.memory = pool.table stack.memory :=
    congrArg (SlotTable.mk · pool.freeHead pool.length) toList
  exact ⟨⟨slots, same ▸ housed.valid⟩, same⟩

omit [LawfulElement Object T] in
/-- A pool that needs a new slot while the full block of its slots is not on top gets none, and nothing
changes. -/
theorem Housed.run_below (housed : pool.Housed stack) {address : Nat}
    (mine : address ∈ pool.slots.own) (below : address ≠ stack.top) (call : Call T α)
    (more : pool.slots.capacity < (pool.table stack.memory).slots.length +
      call.asks pool.slotLimit (pool.table stack.memory)) :
    ∃ done, call.operation.run (pool, stack) =
      ⟨.error (pool.slots.growthFault 1), (pool, stack), done⟩ := by
  have fits := housed.slots.fits
  rw [← housed.represents.length_slots] at more
  cases call with
  | insert value =>
    by_cases needs : pool.freeHead = none ∧ (pool.table stack.memory).slots.length < pool.slotLimit
    · have asks : (Call.insert value).asks pool.slotLimit (pool.table stack.memory) = 1 :=
        if_pos needs
      rw [asks] at more
      obtain ⟨done, refused⟩ := housed.slots.run_reserve_below mine below more
      rw [← housed.represents.length_slots] at needs
      exact ⟨_, run_insert_of_refused needs.1 (run_pushSlot_of_refused needs.2 refused value)⟩
    · have asks : (Call.insert value).asks pool.slotLimit (pool.table stack.memory) = 0 :=
        if_neg needs
      omega
  | _ =>
    simp only [Call.asks] at more
    omega

theorem create_new (sound : Sound stack) (config : PoolConfig) :
    (∃ fault after last done, (create config).run (.empty T .standard, stack) =
        ⟨.error fault, (after, last), done⟩ ∧ Stack.Turn [] [] stack last) ∨
      ∃ pool last done, (create config).run (.empty T .standard, stack) =
        ⟨.ok (), (pool, last), done⟩ ∧ pool.Housed last ∧ Stack.Turn [] pool.slots.own stack last := by
  cases defect : config.defect? with
  | some defect' =>
    exact .inl ⟨_, _, _, _, run_create_of_defect defect _ _, .refl sound nofun⟩
  | none =>
    rcases GrowArray.reserve_new (T := Slot T) sound config.initialCapacity with
      ⟨fault, last, done, ran, turn⟩ | ⟨slots, last, done, ran, housed, toList, turn⟩
    · exact .inl ⟨_, _, _, _, run_create_of_refused defect ran _, turn⟩
    · refine .inr ⟨_, _, _, run_create_of_reserved defect ran _, ⟨housed, ?_⟩, turn⟩
      rw [table, toList]
      exact .empty

end Sharing
end Allotment.Pool
