import Allotment.Proofs.GrowArray.Unsized
import Allotment.Proofs.Pool.Refinement

namespace Allotment.Pool
open Allocator Custody
variable {Object σ T α : Type} [Element Object T]

namespace Call

/-- What a table with room for one more slot makes of a call: the answer, and the table after it. -/
def onTable (limit : Nat) (failsFast : Bool) (table : SlotTable T) :
    Call T α → Except Fault α × SlotTable T
  | insert value =>
    match table.freeHead with
    | none =>
      if limit ≤ table.slots.length then
        (.error ((MemoryError.poolExhausted component limit).fault failsFast), table)
      else (.ok table.nextId, table.appended value)
    | some index =>
      match table.slots[index.toNat]? with
      | some ⟨generation, .free next⟩ =>
        (.ok ⟨index, generation⟩, table.reused ⟨index, generation⟩ value next)
      | some ⟨_, .occupied _⟩ =>
        (.error (.aborted (.violation component (PoolMisuse.freeHeadOccupied index).details)), table)
      | none => (.error (.aborted (.outOfBounds table.slots.length index.toNat)), table)
  | update id change =>
    match table.get? id with
    | some value => (.ok (some (change value).2), table.overwritten id (change value).1)
    | none => (.ok none, table)
  | remove? id =>
    match table.get? id with
    | some value => (.ok (some value), table.removed id)
    | none => (.ok none, table)
  | remove id =>
    match table.get? id with
    | some value => (.ok value, table.removed id)
    | none => (.error (.aborted (.violation component (PoolMisuse.freeDead id).details)), table)

/-- How many slots more than there are a call asks room for. -/
def asks (limit : Nat) (table : SlotTable T) : Call T α → Nat
  | insert _ => if table.freeHead = none ∧ table.slots.length < limit then 1 else 0
  | _ => 0

end Call

theorem valid_onTable {table : SlotTable T} (valid : table.Valid) {limit : Nat} (small : limit < 2 ^ (32 : Nat))
    (failsFast : Bool) (call : Call T α) : (call.onTable limit failsFast table).2.Valid := by
  cases call with
  | insert value =>
    cases head : table.freeHead with
    | none =>
      simp only [Call.onTable, head]
      split
      · exact valid
      · exact valid.appended (by omega)
    | some index =>
      obtain ⟨generation, next, found⟩ := valid.head_free head
      simp only [Call.onTable, head, found]
      exact valid.reused head found
  | update id change =>
    cases live : table.get? id with
    | none =>
      simp only [Call.onTable, live]
      exact valid
    | some value =>
      simp only [Call.onTable, live]
      exact valid.overwritten live _
  | remove? id =>
    cases live : table.get? id with
    | none =>
      simp only [Call.onTable, live]
      exact valid
    | some value =>
      simp only [Call.onTable, live]
      exact valid.removed live
  | remove id =>
    cases live : table.get? id with
    | none =>
      simp only [Call.onTable, live]
      exact valid
    | some value =>
      simp only [Call.onTable, live]
      exact valid.removed live

section Slots
variable [Allocator Object σ] {pool after : Pool T} {host last : σ}

/-- One call on the slot array does to the allocator and to that array what was done. -/
inductive Acts (pool : Pool T) (host : σ) (after : Pool T) (last : σ) : Prop where
  | made {β : Type} (call : GrowArray.Call (Slot T) β)
      (state : (call.operation.run (pool.slots, host)).state = (after.slots, last)) :
      Acts pool host after last

theorem Acts.still (slots : after.slots = pool.slots) : Acts pool host after host :=
  .made (.get 0) (congrArg (·, host) slots.symm)

theorem Acts.written {index : UInt32} (inside : index.toNat < pool.slots.length) (slot : Slot T)
    (slots : after.slots = pool.slots) : Acts pool host after (pool.written host index slot) := by
  refine .made (.replace index.toNat slot) ?_
  have ran : (GrowArray.Call.replace index.toNat slot).operation.run (pool.slots, host) = _ :=
    GrowArray.run_replace inside slot
  rw [ran, slots]
  rfl

/-- What comes of a call: the answer and the table are those that the table gives, and the slot array
keeps its room if that suffices. -/
structure Answered [Custody σ] (pool : Pool T) (host : σ) (table : SlotTable T) (call : Call T α)
    (result : Except Fault α) (after : Pool T) (last : σ) : Prop where
  result : result = (call.onTable pool.slotLimit (failsFast host) table).1
  represents : Represents after last (call.onTable pool.slotLimit (failsFast host) table).2
  config : after.config = pool.config
  capacity : table.slots.length + call.asks pool.slotLimit table ≤ pool.slots.capacity →
    after.slots.capacity = pool.slots.capacity
  acts : Acts pool host after last

section Forms
variable [Custody σ] {table : SlotTable T} {call : Call T α} {result : Except Fault α}

theorem Answered.of_still (represents : Represents pool host table)
    (same : call.onTable pool.slotLimit (failsFast host) table = (result, table)) :
    Answered pool host table call result pool host := by
  refine ⟨?_, ?_, rfl, fun _ => rfl, .still rfl⟩ <;> rw [same]
  exact represents

theorem Answered.of_written {table' : SlotTable T} {index : UInt32} {slot : Slot T}
    {head : Option UInt32} {length : Nat} (inside : index.toNat < pool.slots.length)
    (same : call.onTable pool.slotLimit (failsFast host) table = (result, table'))
    (represents : Represents { pool with freeHead := head, length := length }
      (pool.written host index slot) table') :
    Answered pool host table call result { pool with freeHead := head, length := length }
      (pool.written host index slot) := by
  refine ⟨?_, ?_, rfl, fun _ => rfl, .written inside slot rfl⟩ <;> rw [same]
  exact represents

end Forms

theorem run_reserve_of_room (below : pool.slots.length < pool.slotLimit) (host : σ)
    (room : pool.slots.length < pool.slots.capacity) :
    (GrowArray.reserve 1).run (pool.slots, host) = ⟨.ok (), (pool.slots, host), []⟩ := by
  have limit := pool.slotLimit_lt
  refine GrowArray.run_reserve_of_roomy ?_ room
  simp only [wordLimit]
  omega

variable [Custody σ] [LawfulAllocator Object σ]

private theorem acts_insert (owned : pool.slots.Owned host) (none : pool.freeHead = none) (value : T) :
    Acts pool host ((insert value).run (pool, host)).state.1
      ((insert value).run (pool, host)).state.2 := by
  by_cases full : pool.slotLimit ≤ pool.slots.length
  · rw [run_insert_of_refused none (run_pushSlot_of_limit full value)]
    exact .still rfl
  · have below := Nat.lt_of_not_le full
    -- A pool makes room before it pushes the slot; a push alone would make the same room.
    refine .made (.push ⟨0, .occupied value⟩) ?_
    change ((GrowArray.push ⟨0, .occupied value⟩).run (pool.slots, host)).state = _
    rcases Nat.lt_or_eq_of_le owned.fits with room | filled
    · obtain ⟨events, ran⟩ := run_pushSlot_of_reserved below (run_reserve_of_room below host room)
        room value
      rw [run_insert_of_pushed none ran, GrowArray.run_push_of_room room]
    · rcases owned.reserved slot_sized 1 with ⟨fault, last, done, ran, _⟩ |
        ⟨larger, last, done, ran, _, length, capacity, _⟩
      · rw [run_insert_of_refused none (run_pushSlot_of_refused below ran value),
          GrowArray.run_push_of_refused filled ran]
      · have enough := (pool.slots.capacity_le_capacityFor 1).2
        obtain ⟨events, pushed⟩ := run_pushSlot_of_reserved below ran (by omega) value
        rw [run_insert_of_pushed none pushed, GrowArray.run_push_of_grown filled ran]

variable [LawfulElement Object T] {table : SlotTable T}

theorem Acts.spares [LawfulMemory Object σ] (acts : Acts pool host after last) (owned : pool.slots.Owned host) :
    pool.slots.Spares host last := by
  obtain ⟨call, state⟩ := acts
  rcases owned.called slot_sized call with
    ⟨fault, last', done, ran, _, refused⟩ | ⟨answer, after', last', done, ran, answered⟩
  · rw [ran] at state
    exact (Prod.mk.inj state).2 ▸ refused.spares
  · rw [ran] at state
    exact (Prod.mk.inj state).2 ▸ answered.spares

theorem called_insert (represents : Represents pool host table) (valid : table.Valid)
    (value : T) :
    (∃ fault last done, (insert value).run (pool, host) = ⟨.error fault, (pool, last), done⟩ ∧
        Represents pool last table ∧
        pool.slots.capacity < table.slots.length + (Call.insert value).asks pool.slotLimit table ∧
        Acts pool host pool last) ∨
      ∃ result after last done, (insert value).run (pool, host) = ⟨result, (after, last), done⟩ ∧
        Answered pool host table (.insert value) result after last := by
  have count := represents.length_slots
  cases head : table.freeHead with
  | some index =>
    right
    obtain ⟨generation, next, found⟩ := valid.head_free head
    have place := (represents.slot? index.toNat).trans found
    have inside := GrowArray.lt_of_get?_eq_some place
    have ran := run_insert_of_free (show pool.freeHead =
      some (ResourceId.mk index generation).index from represents.freeHead_eq.trans head) place value
    have reused := represents.written inside ⟨generation, .occupied value⟩ next (pool.length + 1)
    refine ⟨_, _, _, _, ran, .of_written inside ?_ reused⟩
    simp only [Call.onTable, head, found, SlotTable.reused, represents.length_eq]
  | none =>
    have none := represents.freeHead_eq.trans head
    have acts := acts_insert represents.owned none value
    by_cases limit : pool.slotLimit ≤ pool.slots.length
    · right
      refine ⟨_, _, _, _, run_insert_of_refused none (run_pushSlot_of_limit limit value),
        .of_still represents ?_⟩
      simp only [Call.onTable, head, ← count, if_pos limit]
    · have below := Nat.lt_of_not_le limit
      have asks : (Call.insert value).asks pool.slotLimit table = 1 := if_pos ⟨head, count ▸ below⟩
      rcases insert_cases represents none value with
        ⟨fault, last, done, ran, kept, cause⟩ | ⟨slots, last, done, ran, appended, _⟩ <;>
        rw [ran] at acts
      · refine .inl ⟨fault, last, done, ran, kept, ?_, acts⟩
        rw [asks, ← count]
        apply Nat.lt_of_not_le
        intro room
        rcases cause with full | refused
        · exact limit full
        · rw [run_reserve_of_room below host room] at refused
          cases refused
      · have answer : (Call.insert value).onTable pool.slotLimit (failsFast host) table =
            (.ok table.nextId, table.appended value) := by
          simp only [Call.onTable, head, ← count, if_neg limit]
        refine .inr ⟨_, _, _, _, ran, ?_, ?_, rfl, ?_, acts⟩
        · rw [answer]
        · rw [answer]
          exact appended
        · intro room
          rw [asks, ← count] at room
          obtain ⟨events, pushed⟩ := run_pushSlot_of_reserved below
            (run_reserve_of_room below host room) room value
          have same := ran.symm.trans (run_insert_of_pushed none pushed)
          exact congrArg (·.state.1.slots.capacity) same

/-- Whatever is called on a pool: it is answered as the table answers it, or a new slot finds no room. -/
theorem Represents.called (represents : Represents pool host table) (valid : table.Valid)
    (call : Call T α) :
    (∃ fault last done, call.operation.run (pool, host) = ⟨.error fault, (pool, last), done⟩ ∧
        Represents pool last table ∧
        pool.slots.capacity < table.slots.length + call.asks pool.slotLimit table ∧
        Acts pool host pool last) ∨
      ∃ result after last done, call.operation.run (pool, host) = ⟨result, (after, last), done⟩ ∧
        Answered pool host table call result after last := by
  have resolves := represents.get?
  cases call with
  | insert value => exact called_insert represents valid value
  | update id change =>
    right
    cases live : table.get? id with
    | none =>
      exact ⟨_, _, _, _, run_update_of_dead ((resolves id).trans live) change,
        .of_still represents (by simp only [Call.onTable, live])⟩
    | some value =>
      have found := (resolves id).trans live
      exact ⟨_, _, _, _, run_update_of_live found change,
        .of_written (inside_of_live found) (by simp only [Call.onTable, live])
          (represents.overwritten live _)⟩
  | remove? id =>
    right
    cases live : table.get? id with
    | none =>
      exact ⟨_, _, _, _, run_remove?_of_dead ((resolves id).trans live),
        .of_still represents (by simp only [Call.onTable, live])⟩
    | some value =>
      have found := (resolves id).trans live
      exact ⟨_, _, _, _, run_remove?_of_live found,
        .of_written (inside_of_live found) (by simp only [Call.onTable, live])
          (represents.removed live)⟩
  | remove id =>
    right
    cases live : table.get? id with
    | none =>
      exact ⟨_, _, _, _, run_remove_of_dead ((resolves id).trans live),
        .of_still represents (by simp only [Call.onTable, live])⟩
    | some value =>
      have found := (resolves id).trans live
      have ran := run_remove_of_live found
      rw [run_remove?_of_live found] at ran
      exact ⟨_, _, _, _, ran,
        .of_written (inside_of_live found) (by simp only [Call.onTable, live])
          (represents.removed live)⟩

/-- Whatever is called on a pool, what others hold stays with them as it is. -/
theorem Represents.spares [LawfulMemory Object σ] (represents : Represents pool host table)
    (valid : table.Valid) (call : Call T α) :
    pool.slots.Spares host (call.operation.run (pool, host)).state.2 := by
  rcases represents.called valid call with
    ⟨fault, last, done, ran, _, _, acts⟩ | ⟨result, after, last, done, ran, answered⟩ <;> rw [ran]
  · exact acts.spares represents.owned
  · exact answered.acts.spares represents.owned

end Slots

end Allotment.Pool
