import Allotment.Proofs.Rationed.Arrays

namespace Allotment
open Allocator Custody Rationed
variable {Object σ T α : Type} [Element Object T]

/-- A slot array that looks like this, at no address. -/
def PoolView.frame (view : PoolView T) : GrowArray (Slot T) :=
  ⟨0, view.capacity, view.table.slots.length⟩

namespace Pool

/-- What its owner sees of a pool. -/
def view (pool : Pool T) (memory : Memory Object) : PoolView T :=
  ⟨pool.table memory, pool.slots.capacity, pool.slotLimit⟩

/-- Where the block of the slots starts, if there is one. -/
def own (pool : Pool T) : List Nat := pool.slots.own

/-- What its owner sees of a call on a pool: what the table makes of it and the room for its slots, or why
there is no room. -/
def Call.onRation (ration : Ration) (call : Call T α) (view : PoolView T) :
    Except Fault α × PoolView T :=
  let asked := call.asks view.limit view.table
  match view.frame.roomVerdict ration asked with
  | .error fault => (.error fault, view)
  | .ok _ =>
    ((call.onTable view.limit false view.table).1,
      ⟨(call.onTable view.limit false view.table).2, view.frame.capacityFor asked, view.limit⟩)

variable [Allocator Object σ] {pool : Pool T} {host : σ}

theorem frame_view (pool : Pool T) (memory : Memory Object) :
    (pool.view memory).frame = ((pool.slots.view memory).frame : GrowArray (Slot T)) := rfl

private theorem insert_eq_push [Custody σ] [LawfulAllocator Object σ] (owned : pool.slots.Owned host)
    (none : pool.freeHead = none) (below : pool.slots.length < pool.slotLimit) (value : T) :
    ∃ result slots last, ((GrowArray.push ⟨0, .occupied value⟩).run (pool.slots, host)).result = result ∧
      ((GrowArray.push ⟨0, .occupied value⟩).run (pool.slots, host)).state = (slots, last) ∧
      ((insert value).run (pool, host)).result = result.map (fun _ => ⟨.ofNat pool.slots.length, 0⟩) ∧
      ((insert value).run (pool, host)).state = match result with
        | .ok _ => ({ pool with slots := slots, length := pool.length + 1 }, last)
        | .error _ => ({ pool with slots := slots }, last) := by
  rcases Nat.lt_or_eq_of_le owned.fits with room | full
  · obtain ⟨events, pushed⟩ := run_pushSlot_of_reserved below (run_reserve_of_room below host room)
      room value
    rw [run_insert_of_pushed none pushed, GrowArray.run_push_of_room room]
    exact ⟨_, _, _, rfl, rfl, rfl, rfl⟩
  · rcases owned.reserved slot_sized 1 with ⟨fault, last, done, ran, _⟩ |
      ⟨larger, last, done, ran, _, length, capacity, _⟩
    · rw [run_insert_of_refused none (run_pushSlot_of_refused below ran value),
        GrowArray.run_push_of_refused full ran]
      exact ⟨_, _, _, rfl, rfl, rfl, rfl⟩
    · have enough := (pool.slots.capacity_le_capacityFor 1).2
      have room : larger.length < larger.capacity := by omega
      obtain ⟨events, pushed⟩ := run_pushSlot_of_reserved below ran room value
      rw [run_insert_of_pushed none pushed, GrowArray.run_push_of_grown full ran]
      exact ⟨_, _, _, rfl, rfl, rfl, rfl⟩

variable [Custody σ]

/-- The pool is in order: it owns the block of its slots, if it has one, and so is its table. -/
structure InOrder (pool : Pool T) (host : σ) : Prop where
  slots : pool.slots.InOrder host
  valid : (pool.table (memory host)).Valid

section Orders
variable {last : σ}

theorem InOrder.empty (sound : Sound host) (config : PoolConfig) : (Pool.empty T config).InOrder host :=
  ⟨.empty sound, .empty⟩

theorem InOrder.represents (inOrder : pool.InOrder host) :
    Represents pool host (pool.table (memory host)) := ⟨inOrder.slots.sized slot_sized, rfl⟩

/-- A pool with the slots, the count and the free chain of a valid table is in order, and looks like that. -/
theorem InOrder.of_slots {shown : SlotTable T} {capacity : Nat} (slots : pool.slots.InOrder host)
    (seen : pool.slots.view (memory host) = ⟨shown.slots, capacity⟩) (head : pool.freeHead = shown.freeHead)
    (length : pool.length = shown.length) (valid : shown.Valid) :
    pool.InOrder host ∧ pool.view (memory host) = ⟨shown, capacity, pool.slotLimit⟩ := by
  obtain ⟨toList, room⟩ := ArrayView.mk.inj seen
  have same : pool.table (memory host) = shown := by
    rw [table, toList, head, length]
  refine ⟨⟨slots, same ▸ valid⟩, ?_⟩
  rw [view, same, room]

/-- What the rule says of a value that needs a new slot. -/
private theorem InOrder.onRation_insert (inOrder : pool.InOrder host) (ration : Ration) (value : T)
    (none : pool.freeHead = none) (below : pool.slots.length < pool.slotLimit) :
    (Call.insert value).onRation ration (pool.view (memory host)) =
      match pool.slots.roomVerdict ration 1 with
      | .error fault => (.error fault, pool.view (memory host))
      | .ok _ => (.ok (pool.table (memory host)).nextId,
          ⟨(pool.table (memory host)).appended value, pool.slots.capacityFor 1, pool.slotLimit⟩) := by
  have count : (pool.table (memory host)).slots.length = pool.slots.length :=
    inOrder.represents.length_slots.symm
  have head : (pool.table (memory host)).freeHead = .none := none
  have asks : (Call.insert value).asks (pool.view (memory host)).limit (pool.view (memory host)).table =
      1 := if_pos ⟨none, count.symm ▸ below⟩
  have unlimited : ¬ pool.slotLimit ≤ (pool.table (memory host)).slots.length :=
    count.symm ▸ Nat.not_le.mpr below
  have table : (Call.insert value).onTable pool.slotLimit false (pool.table (memory host)) =
      (.ok (pool.table (memory host)).nextId, (pool.table (memory host)).appended value) := by
    simp only [Call.onTable, head, if_neg unlimited]
  rw [Call.onRation, asks, frame_view, GrowArray.roomVerdict_frame, GrowArray.capacityFor_frame]
  cases pool.slots.roomVerdict ration 1 with
  | error fault => rfl
  | ok _ =>
    change ((Call.onTable pool.slotLimit false (pool.table (memory host)) _).1,
      PoolView.mk (Call.onTable pool.slotLimit false (pool.table (memory host)) _).2 _ _) = _
    rw [table]
    rfl

variable [LawfulElement Object T]

theorem InOrder.spared (inOrder : pool.InOrder host) (sound : Sound last)
    (kept : ∀ address ∈ pool.slots.own, ∀ size, Holds host address size →
      Keeps host last address size) :
    pool.InOrder last ∧ pool.view (memory last) = pool.view (memory host) := by
  obtain ⟨slots, same⟩ := inOrder.slots.spared sound kept
  exact InOrder.of_slots slots same rfl rfl inOrder.valid

end Orders

variable [Rationed σ] [RationedAllocator Object σ] [LawfulElement Object T]

namespace InOrder
variable (inOrder : pool.InOrder host) (ready : Ready host)
include inOrder ready

theorem called_inside (call : Call T α)
    (inside : call.asks pool.slotLimit (pool.table (memory host)) = 0) :
    Played view InOrder own pool host (call.onRation (ration σ) (pool.view (memory host)))
      (call.operation.run (pool, host)) := by
  have fits := inOrder.slots.fits
  have count := inOrder.represents.length_slots
  have room : pool.slots.length + 0 ≤ pool.slots.capacity := fits
  have rule : call.onRation (ration σ) (pool.view (memory host)) =
      ((call.onTable pool.slotLimit false (pool.table (memory host))).1,
        ⟨(call.onTable pool.slotLimit false (pool.table (memory host))).2, pool.slots.capacity,
          pool.slotLimit⟩) := by
    have asks : call.asks (pool.view (memory host)).limit (pool.view (memory host)).table = 0 := inside
    have capacity : pool.slots.capacityFor 0 = pool.slots.capacity := if_pos room
    rw [Call.onRation, asks, frame_view, GrowArray.roomVerdict_frame, GrowArray.capacityFor_frame,
      GrowArray.roomVerdict, if_pos room, capacity]
    rfl
  rcases inOrder.represents.called inOrder.valid call with
    ⟨_, _, _, _, _, full, _⟩ | ⟨result, after, last, done, ran, answered⟩
  · omega
  · obtain ⟨slotCall, state⟩ := answered.acts
    have owned := inOrder.slots.sized slot_sized
    have turn := owned.turn ready.lenient slot_sized slotCall
    have table := answered.represents.table_eq
    have valid := valid_onTable inOrder.valid pool.slotLimit_lt false call
    have capacity := answered.capacity (by omega)
    have limit : after.slotLimit = pool.slotLimit := by
      rw [slotLimit, slotLimit, answered.config]
    rw [RationedAllocator.failsFast_eq ready.lenient] at table
    rw [state] at turn
    rw [ran, rule, answered.result, RationedAllocator.failsFast_eq ready.lenient]
    refine ⟨?_, ⟨.of_owned slot_sized answered.represents.owned, table ▸ valid⟩, turn⟩
    rw [view, table, capacity, limit]

private theorem called_outside (value : T) (none : pool.freeHead = none)
    (below : pool.slots.length < pool.slotLimit) :
    Played view InOrder own pool host ((Call.insert value).onRation (ration σ) (pool.view (memory host)))
      ((insert value).run (pool, host)) := by
  have count : pool.slots.length = (pool.table (memory host)).slots.length :=
    inOrder.represents.length_slots
  obtain ⟨result, slots, last, pushed, pushedState, answer, state⟩ :=
    insert_eq_push (inOrder.slots.sized slot_sized) none below value
  obtain ⟨onRation, order, turn⟩ :=
    inOrder.slots.called ready (.push ⟨0, .occupied value⟩ : GrowArray.Call (Slot T) Unit)
  rw [GrowArray.Call.operation, pushed, pushedState, GrowArray.Call.onRation,
    GrowArray.roomVerdict_frame, GrowArray.capacityFor_frame] at onRation
  rw [GrowArray.Call.operation, pushedState] at order turn
  generalize (insert value).run (pool, host) = outcome at answer state ⊢
  obtain ⟨answered, after, done⟩ := outcome
  obtain rfl : answered = _ := answer
  obtain rfl : after = _ := state
  rw [inOrder.onRation_insert (ration σ) value none below]
  cases verdict : pool.slots.roomVerdict (ration σ) 1 with
  | error fault =>
    have asked : pool.slots.roomVerdict (ration σ)
      (GrowArray.Call.push (⟨0, .occupied value⟩ : Slot T)).asks = .error fault := verdict
    rw [asked] at onRation
    obtain ⟨rfl, seen⟩ := Prod.mk.inj onRation
    obtain ⟨inOrder', same⟩ : Pool.InOrder { pool with slots := slots } last ∧ _ :=
      InOrder.of_slots order seen rfl rfl inOrder.valid
    exact ⟨congrArg (Prod.mk _) same, inOrder', turn⟩
  | ok _ =>
    have asked : pool.slots.roomVerdict (ration σ)
      (GrowArray.Call.push (⟨0, .occupied value⟩ : Slot T)).asks = .ok () := verdict
    rw [asked] at onRation
    obtain ⟨rfl, seen⟩ := Prod.mk.inj onRation
    have small := pool.slotLimit_lt
    obtain ⟨inOrder', appended⟩ :
        Pool.InOrder { pool with slots := slots, length := pool.length + 1 } last ∧ _ :=
      InOrder.of_slots order seen rfl rfl (inOrder.valid.appended (by omega))
    refine ⟨?_, inOrder', turn⟩
    rw [SlotTable.nextId, ← count]
    exact congrArg (Prod.mk _) appended

/-- Whatever is called on a pool in order is answered by the rule, and is a turn of the pool, which is in
order afterwards. -/
theorem called (call : Call T α) :
    Played view InOrder own pool host (call.onRation (ration σ) (pool.view (memory host)))
      (call.operation.run (pool, host)) := by
  cases call with
  | insert value =>
    by_cases needs : pool.freeHead = none ∧ pool.slots.length < pool.slotLimit
    · exact inOrder.called_outside ready value needs.1 needs.2
    · refine inOrder.called_inside ready (.insert value) (if_neg fun both => needs ⟨both.1, ?_⟩)
      rw [inOrder.represents.length_slots]
      exact both.2
  | update id change => exact inOrder.called_inside ready (.update id change) rfl
  | remove? id => exact inOrder.called_inside ready (.remove? id) rfl
  | remove id => exact inOrder.called_inside ready (.remove id) rfl

end InOrder

/-- What the owner of a pool sees of its creation: the room for its slots, or why there is none. -/
def createOnRation (T : Type) [Element Object T] (ration : Ration) (config : PoolConfig) :
    Except Fault (PoolView T) :=
  match config.defect? with
  | some defect => .error (.refused (.invalidConfig defect.reason))
  | none =>
    ((empty T config).slots.roomVerdict ration config.initialCapacity).map fun _ =>
      ⟨⟨[], none, 0⟩, (empty T config).slots.capacityFor config.initialCapacity,
        (empty T config).slotLimit⟩

theorem created (ready : Ready host) (config : PoolConfig) (before : Pool T) :
    (∃ fault after last done, (create config).run (before, host) = ⟨.error fault, (after, last), done⟩ ∧
        createOnRation T (ration σ) config = .error fault ∧ Turn [] [] host last) ∨
      ∃ pool last done, (create config).run (before, host) = ⟨.ok (), (pool, last), done⟩ ∧
        createOnRation T (ration σ) config = .ok (pool.view (memory last)) ∧ pool.InOrder last ∧
        Turn [] pool.slots.own host last := by
  rw [createOnRation]
  cases defect : config.defect? with
  | some defect' => exact .inl ⟨_, _, _, _, run_create_of_defect defect _ _, rfl, .refl ready.sound _⟩
  | none =>
    rcases GrowArray.built (T := Slot T) ready config.initialCapacity with
      ⟨fault, slots, last, done, ran, verdict, turn⟩ |
      ⟨slots, last, done, ran, verdict, seen, order, turn⟩
    · refine .inl ⟨_, _, _, _, run_create_of_refused defect ran _, ?_, turn⟩
      exact congrArg (Except.map _) verdict
    · obtain ⟨inOrder, fresh⟩ : Pool.InOrder ⟨slots, none, 0, config⟩ last ∧ _ :=
        InOrder.of_slots order seen rfl rfl .empty
      refine .inr ⟨_, _, _, run_create_of_reserved defect ran _, ?_, inOrder, turn⟩
      rw [fresh]
      exact congrArg (Except.map _) verdict

omit [LawfulElement Object T] in
/-- A pool that is destroyed gives back the block of its slots, and counts the values that it held. -/
theorem InOrder.destroyed (inOrder : pool.InOrder host) (sound : Sound host) :
    (destroy.run (pool, host)).result = .ok pool.length ∧
      Turn pool.slots.own [] host (destroy.run (pool, host)).state.2 := by
  rw [run_destroy, giveBack]
  by_cases bare : pool.slots.capacity = 0
  · rw [if_pos bare, GrowArray.own_of_none bare]
    exact ⟨rfl, .refl sound _⟩
  · have held := (inOrder.slots.sized slot_sized).held bare
    rw [if_neg bare, GrowArray.own_of_sized slot_sized bare,
      (RationedCustody.released sound held).1]
    exact ⟨rfl, .of_release sound held⟩

end Pool
end Allotment
