import Allotment.Proofs.Allocator.Recorded
import Allotment.Proofs.Pool.Reuse

/-! Bounded pools. All slots such a pool may have are paid for when it is built: its array has room for
them, so no later call has a reason to speak to the allocator, and a value is refused only while every
slot holds one. -/
namespace Allotment.Pool
open Allocator Custody
variable {Object σ T α : Type} [Element Object T]

section Tables
variable {table : SlotTable T} {limit : Nat}

private theorem length_slots_onTable (valid : table.Valid) (limit : Nat) (failsFast : Bool) (call : Call T α) :
    (call.onTable limit failsFast table).2.slots.length =
      table.slots.length + call.asks limit table := by
  have set (index : Nat) (slot : Slot T) : (table.slots.set index slot).length = table.slots.length :=
    List.length_set ..
  cases call with
  | insert value =>
    cases head : table.freeHead with
    | none =>
      simp only [Call.onTable, Call.asks, head, true_and]
      by_cases full : limit ≤ table.slots.length
      · rw [if_pos full, if_neg (Nat.not_lt_of_le full)]
        rfl
      · rw [if_neg full, if_pos (Nat.lt_of_not_le full)]
        exact List.length_append
    | some index =>
      obtain ⟨generation, next, found⟩ := valid.head_free head
      simp only [Call.onTable, Call.asks, head, found, reduceCtorEq, false_and, if_false]
      exact set ..
  | update id change =>
    cases live : table.get? id <;> simp only [Call.onTable, live]
    · rfl
    · exact set ..
  | remove? id =>
    cases live : table.get? id <;> simp only [Call.onTable, live]
    · rfl
    · exact set ..
  | remove id =>
    cases live : table.get? id <;> simp only [Call.onTable, live]
    · rfl
    · exact set ..

private theorem length_add_asks_le (below : table.slots.length ≤ limit) (call : Call T α) :
    table.slots.length + call.asks limit table ≤ limit := by
  cases call with
  | insert value =>
    rw [Call.asks]
    split
    · next more => exact more.2
    · exact below
  | _ => exact below

end Tables

variable [Allocator Object σ]

/-- Nothing of the allocator changed but what is in its memory. -/
def OnlyWritten (before after : σ) : Prop :=
  after = before ∨ ∃ memory : Memory Object, after = withMemory before memory

/-- What a call leaves where its slot has room: the block of the slots, and the allocator but for what is
in it. -/
structure InPlace (pool : Pool T) (host : σ) (last : Pool T × σ) : Prop where
  address : last.1.slots.address = pool.slots.address
  capacity : last.1.slots.capacity = pool.slots.capacity
  written : OnlyWritten host last.2

section Room
variable {pool : Pool T} {host : σ} {value : T}

omit [Element Object T] in
theorem InPlace.still (pool : Pool T) (host : σ) : InPlace pool host (pool, host) :=
  ⟨rfl, rfl, .inl rfl⟩

theorem InPlace.stored (pool : Pool T) (host : σ) (index : UInt32) (slot : Slot T)
    (head : Option UInt32) (length : Nat) :
    InPlace pool host
      ({ pool with freeHead := head, length := length }, pool.written host index slot) :=
  ⟨rfl, rfl, .inr ⟨_, rfl⟩⟩

/-- A new slot that has room is made where it is. -/
private theorem inPlace_insert_of_unfree (none : pool.freeHead = none)
    (room : pool.slots.length < pool.slotLimit → pool.slots.length < pool.slots.capacity) :
    InPlace pool host ((insert value).run (pool, host)).state := by
  rcases Nat.lt_or_ge pool.slots.length pool.slotLimit with below | full
  · obtain ⟨events, pushed⟩ := run_pushSlot_of_reserved below
      (run_reserve_of_room below host (room below)) (room below) value
    rw [run_insert_of_pushed none pushed]
    exact ⟨rfl, rfl, .inr ⟨_, rfl⟩⟩
  · have stopped : (pushSlot value).run (pool, host) = _ := run_pushSlot_of_limit full value
    rw [run_insert_of_refused none stopped]
    exact .still pool host

/-- A call whose slot has room stays in the block of the slots, whatever allocator that is in. -/
private theorem inPlace_of_room (valid : (pool.table (memory host)).Valid) (call : Call T α)
    (room : pool.slots.length + call.asks pool.slotLimit (pool.table (memory host)) ≤
      pool.slots.capacity) :
    InPlace pool host (call.operation.run (pool, host)).state := by
  -- no promise of the allocator is used, so that the same can be said where requests are written down
  have count : (pool.table (memory host)).slots.length = pool.slots.length :=
    GrowArray.length_toList ..
  cases call with
  | insert value =>
    cases head : pool.freeHead with
    | none =>
      refine inPlace_insert_of_unfree head fun below => ?_
      rw [Call.asks, if_pos ⟨head, count ▸ below⟩] at room
      exact room
    | some index =>
      obtain ⟨generation, next, found⟩ := valid.head_free head
      have place : pool.slots.get? (memory host) index.toNat = some ⟨generation, .free next⟩ :=
        (GrowArray.get?_eq_getElem? ..).trans found
      have ran : (insert value).run (pool, host) = _ := run_insert_of_free
        (show pool.freeHead = some (ResourceId.mk index generation).index from head) place value
      rw [Call.operation, ran]
      exact .stored ..
  | update id change =>
    cases live : pool.get? (memory host) id with
    | none => rw [Call.operation, run_update_of_dead live]; exact .still pool host
    | some value => rw [Call.operation, run_update_of_live live]; exact .stored ..
  | remove? id =>
    cases live : pool.get? (memory host) id with
    | none => rw [Call.operation, run_remove?_of_dead live]; exact .still pool host
    | some value => rw [Call.operation, run_remove?_of_live live]; exact .stored ..
  | remove id =>
    cases live : pool.get? (memory host) id with
    | none => rw [Call.operation, run_remove_of_dead live]; exact .still pool host
    | some value =>
      rw [Call.operation, run_remove_of_live live, run_remove?_of_live live]
      exact .stored ..

end Room

namespace Timeline
variable [Custody σ] {first session : Timeline T σ}

/-- What comes of a session by calls on the pool, and by others who use the allocator but neither write to
the block of the slots nor release it. -/
inductive Continues (first : Timeline T σ) : Timeline T σ → Prop where
  | begun : Continues first first
  | performed {session : Timeline T σ} {α : Type} (continued : Continues first session)
      (call : Call T α) : Continues first (session.perform call)
  | disturbed {session : Timeline T σ} {last : σ} (continued : Continues first session)
      (sound : Sound last)
      (keeps : session.pool.slots.capacity ≠ 0 → Keeps session.host last session.pool.slots.address
        (Element.size (Slot T) * session.pool.slots.capacity)) :
      Continues first { session with host := last }

theorem Continues.reachable (continued : Continues first session) (reached : first.Reachable) :
    session.Reachable := by
  induction continued with
  | begun => exact reached
  | performed _ call ih => exact ih.performed call
  | disturbed _ sound keeps ih => exact ih.disturbed sound keeps

/-- The pool has the block of slots that it had first, which has room for all the slots there may be. -/
structure Funded (slots : Nat) (first session : Timeline T σ) : Prop where
  limit : session.pool.slotLimit = slots
  length_le : session.pool.slots.length ≤ slots
  room : slots ≤ session.pool.slots.capacity
  address : session.pool.slots.address = first.pool.slots.address
  capacity : session.pool.slots.capacity = first.pool.slots.capacity

namespace Funded
variable {slots : Nat} (funded : Funded slots first session) (valid : session.Valid)
include funded valid

private theorem length_table_le : session.table.slots.length ≤ session.pool.slotLimit := by
  rw [funded.limit, ← valid.represents.length_slots]
  exact funded.length_le

theorem asks_le (call : Call T α) :
    session.table.slots.length + call.asks session.pool.slotLimit session.table ≤
      session.pool.slots.capacity := by
  refine Nat.le_trans (length_add_asks_le (funded.length_table_le valid) call) ?_
  rw [funded.limit]
  exact funded.room

theorem inPlace (call : Call T α) :
    InPlace session.pool session.host (call.operation.run (session.pool, session.host)).state := by
  refine inPlace_of_room valid.chronicles.valid call ?_
  rw [valid.represents.length_slots]
  exact funded.asks_le valid call

/-- Where requests to the allocator are written down, none is. -/
theorem unasked (call : Call T α) (requests : List RecordedRequest) :
    (call.operation.run (session.pool, (⟨session.host, requests⟩ : Recorded σ))).state.2.requests =
      requests := by
  let recorded : Recorded σ := ⟨session.host, requests⟩
  have table : (session.pool.table (memory recorded)).Valid := valid.chronicles.valid
  have room := funded.asks_le valid call
  rw [← valid.represents.length_slots] at room
  rcases (inPlace_of_room table call room).written with same | ⟨written, same⟩
  · exact congrArg Recorded.requests same
  · exact congrArg Recorded.requests same

variable [LawfulAllocator Object σ] [LawfulElement Object T]

/-- The slots have room for what is called, so the table answers. -/
theorem answered (call : Call T α) :
    ∃ result after last done,
      call.operation.run (session.pool, session.host) = ⟨result, (after, last), done⟩ ∧
        Answered session.pool session.host session.table call result after last := by
  rcases valid.represents.called valid.chronicles.valid call with ⟨_, _, _, _, _, full, _⟩ | answered
  · exact absurd (funded.asks_le valid call) (Nat.not_le_of_lt full)
  · exact answered

/-- A call makes no more slots than there may be, in the same block. -/
theorem perform (call : Call T α) : Funded slots first (session.perform call) := by
  obtain ⟨result, after, last, done, ran, answered⟩ := funded.answered valid call
  have inPlace := funded.inPlace valid call
  rw [ran] at inPlace
  rw [perform_of_run ran]
  refine ⟨?_, ?_, ?_, inPlace.address.trans funded.address, inPlace.capacity.trans funded.capacity⟩
  · rw [slotLimit, answered.config]
    exact funded.limit
  · rw [answered.represents.length_slots, length_slots_onTable valid.chronicles.valid, ← funded.limit]
    exact length_add_asks_le (funded.length_table_le valid) call
  · rw [inPlace.capacity]
    exact funded.room

end Funded

theorem Continues.funded [LawfulAllocator Object σ] [LawfulElement Object T] {slots : Nat}
    (continued : Continues first session) (reached : first.Reachable)
    (funded : Funded slots first first) : Funded slots first session := by
  induction continued with
  | begun => exact funded
  | performed continued call ih => exact ih.perform (continued.reachable reached).valid call
  | disturbed _ _ _ ih => exact ⟨ih.limit, ih.length_le, ih.room, ih.address, ih.capacity⟩

end Timeline

end Allotment.Pool
