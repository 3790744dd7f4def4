import Allotment.Pool.Basic
import Allotment.Proofs.GrowArray.Growth
import Allotment.Proofs.Pool.SlotTable

namespace Allotment.Pool
open Allocator Custody
variable {Object σ T α : Type} [Element Object T]

/-- The table of a pool. -/
def table (pool : Pool T) (memory : Memory Object) : SlotTable T :=
  ⟨pool.slots.toList memory, pool.freeHead, pool.length⟩

private theorem get?_eq_table (pool : Pool T) (memory : Memory Object) (id : ResourceId) :
    pool.get? memory id = (pool.table memory).get? id := by
  rw [get?, slotAt?, GrowArray.get?_eq_getElem?]
  rfl

theorem toList_eq_entries (pool : Pool T) (memory : Memory Object) :
    pool.toList memory = (pool.table memory).entries := rfl

/-- The slots of the pool lie in a block of its own, and this is their table. -/
structure Represents [Allocator Object σ] [Custody σ] (pool : Pool T) (host : σ)
    (table : SlotTable T) : Prop where
  owned : pool.slots.Owned host
  table_eq : pool.table (memory host) = table

/-- A slot always takes room. -/
theorem slot_sized : Element.size (Slot T) ≠ 0 := by
  have fits := Slot.payload_fits (T := T)
  change Slot.slotSize T ≠ 0
  omega

section Runs
variable [Allocator Object σ] {pool : Pool T} {host : σ}

omit [Element Object T] [Allocator Object σ] in
theorem run_onSlots_of_run {operation : Step Object (GrowArray (Slot T) × σ) α}
    {result : Except Fault α} {slots : GrowArray (Slot T)} {last : σ} {done : List (Effect Object)}
    (ran : operation.run (pool.slots, host) = ⟨result, (slots, last), done⟩) :
    (onSlots operation).run (pool, host) = ⟨result, ({ pool with slots := slots }, last), done⟩ := by
  rw [onSlots, Step.run_within, ran]
  rfl

section Creation
variable {config : PoolConfig} {slots : GrowArray (Slot T)} {last : σ} {done : List (Effect Object)}

theorem run_create_of_defect {defect : PoolDefect} (found : config.defect? = some defect)
    (before : Pool T) (host : σ) : (create config).run (before, host) =
      ⟨.error (.refused (.invalidConfig defect.reason)), (before, host), []⟩ := by
  rw [create, PoolConfig.validate, found]
  rfl

private theorem run_create_of_sound (sane : config.defect? = none) (before : Pool T) (host : σ) :
    (create config).run (before, host) =
      (do
        onSlots (GrowArray.createWithCapacity config.initialCapacity)
        Step.log (.poolCreated config.initialCapacity config.maxSlots)).run (empty T config, host) := by
  rw [create, PoolConfig.validate, sane, Step.run_bind_of_quiet (Step.run_pure () _),
    Step.run_bind_of_quiet (Step.run_modify _ _)]

theorem run_createSlots (config : PoolConfig) (host : σ) :
    (GrowArray.createWithCapacity config.initialCapacity).run ((empty T config).slots, host) =
      (GrowArray.reserve config.initialCapacity).run (GrowArray.empty (Slot T), host) :=
  Step.run_bind_of_quiet (Step.run_modify _ _) _

theorem run_create_of_refused (sane : config.defect? = none) {fault : Fault}
    (ran : (GrowArray.reserve config.initialCapacity).run (GrowArray.empty (Slot T), host) =
      ⟨.error fault, (slots, last), done⟩) (before : Pool T) :
    (create config).run (before, host) = ⟨.error fault, (⟨slots, none, 0, config⟩, last), done⟩ := by
  rw [run_create_of_sound sane]
  exact Step.run_bind_of_error (run_onSlots_of_run ((run_createSlots config host).trans ran)) _

theorem run_create_of_reserved (sane : config.defect? = none)
    (ran : (GrowArray.reserve config.initialCapacity).run (GrowArray.empty (Slot T), host) =
      ⟨.ok (), (slots, last), done⟩) (before : Pool T) :
    (create config).run (before, host) = ⟨.ok (), (⟨slots, none, 0, config⟩, last),
      done ++ [.logged (.poolCreated config.initialCapacity config.maxSlots)]⟩ := by
  rw [run_create_of_sound sane,
    Step.run_bind_of_ok (run_onSlots_of_run ((run_createSlots config host).trans ran))]
  rfl

end Creation

/-- The host once a slot was written. -/
def written (pool : Pool T) (host : σ) (index : UInt32) (slot : Slot T) : σ :=
  pool.slots.written host index.toNat slot

theorem run_replaceSlot {index : UInt32} (inside : index.toNat < pool.slots.length) (slot : Slot T) :
    (onSlots (GrowArray.replace index.toNat slot)).run (pool, host) =
      ⟨.ok (pool.slots.get? (memory host) index.toNat), (pool, pool.written host index slot), []⟩ :=
  run_onSlots_of_run (GrowArray.run_replace inside slot)

theorem run_reuseSlot {id : ResourceId} {next : Option UInt32}
    (found : pool.slots.get? (memory host) id.index.toNat = some ⟨id.generation, .free next⟩)
    (value : T) :
    (reuseSlot id.index value).run (pool, host) = ⟨.ok id, ({ pool with freeHead := next },
      pool.written host id.index ⟨id.generation, .occupied value⟩), []⟩ := by
  have inside := GrowArray.lt_of_get?_eq_some found
  rw [reuseSlot, Step.run_bind_of_quiet (Step.run_get _)]
  dsimp only
  rw [found]
  dsimp only
  rw [Step.run_bind_of_quiet (run_replaceSlot inside _)]
  rfl

theorem run_insert_of_free {id : ResourceId} {next : Option UInt32}
    (head : pool.freeHead = some id.index)
    (found : pool.slots.get? (memory host) id.index.toNat = some ⟨id.generation, .free next⟩)
    (value : T) :
    (insert value).run (pool, host) = ⟨.ok id,
      ({ pool with freeHead := next, length := pool.length + 1 },
        pool.written host id.index ⟨id.generation, .occupied value⟩),
      [.logged (.slotAllocated id (pool.length + 1))]⟩ := by
  refine Step.run_owning_of_ok ?_
  rw [Step.run_bind_of_quiet (Step.run_get _)]
  dsimp only
  rw [head]
  dsimp only
  rw [Step.run_bind_of_quiet (run_reuseSlot found value)]
  rfl

theorem run_pushSlot_of_limit (full : pool.slotLimit ≤ pool.slots.length) (value : T) :
    (pushSlot value).run (pool, host) =
      ⟨.error ((MemoryError.poolExhausted component pool.slotLimit).fault (failsFast host)),
        (pool, host),
        (MemoryError.poolExhausted component pool.slotLimit).announcement (failsFast host)⟩ := by
  rw [pushSlot, Step.run_bind_of_quiet (Step.run_get _)]
  dsimp only
  rw [if_pos full, Step.run_refuseCapacity]

theorem run_pushSlot_of_refused (below : pool.slots.length < pool.slotLimit) {fault : Fault}
    {slots : GrowArray (Slot T)} {last : σ} {done : List (Effect Object)}
    (ran : (GrowArray.reserve 1).run (pool.slots, host) = ⟨.error fault, (slots, last), done⟩)
    (value : T) :
    (pushSlot value).run (pool, host) =
      ⟨.error fault, ({ pool with slots := slots }, last), done⟩ := by
  rw [pushSlot, Step.run_bind_of_quiet (Step.run_get _)]
  dsimp only
  rw [if_neg (Nat.not_le.mpr below)]
  exact Step.run_bind_of_error (run_onSlots_of_run ran) _

theorem run_pushSlot_of_reserved (below : pool.slots.length < pool.slotLimit)
    {larger : GrowArray (Slot T)} {last : σ} {done : List (Effect Object)}
    (ran : (GrowArray.reserve 1).run (pool.slots, host) = ⟨.ok (), (larger, last), done⟩)
    (room : larger.length < larger.capacity) (value : T) :
    ∃ events : List Event, (pushSlot value).run (pool, host) = ⟨.ok ⟨.ofNat pool.slots.length, 0⟩,
      ({ pool with slots := larger.extended },
        larger.written last larger.length ⟨0, .occupied value⟩), done ++ events.map .logged⟩ := by
  have pushed : (onSlots (GrowArray.push ⟨0, .occupied value⟩)).run
      ({ pool with slots := larger }, last) = ⟨.ok (), ({ pool with slots := larger.extended },
        larger.written last larger.length ⟨0, .occupied value⟩), []⟩ :=
    run_onSlots_of_run (GrowArray.run_push_of_room room _)
  obtain ⟨events, announced⟩ : ∃ events : List Event,
      (Step.when (pool.slots.length == pool.slots.capacity) announceGrowth).run
        ({ pool with slots := larger }, last) =
          ⟨.ok (), ({ pool with slots := larger }, last), events.map .logged⟩ := by
    cases pool.slots.length == pool.slots.capacity with
    | false => exact ⟨[], rfl⟩
    | true => exact ⟨[.poolGrown larger.capacity], rfl⟩
  refine ⟨events, ?_⟩
  rw [pushSlot, Step.run_bind_of_quiet (Step.run_get _)]
  dsimp only
  rw [if_neg (Nat.not_le.mpr below), Step.run_bind_of_ok (run_onSlots_of_run ran),
    Step.run_bind_of_ok announced, Step.run_bind_of_quiet pushed, Step.run_pure, List.append_nil]

section Unfree
variable (none : pool.freeHead = none) {after : Pool T} {last : σ} {done : List (Effect Object)}
include none

theorem run_insert_of_refused {fault : Fault} {value : T}
    (ran : (pushSlot value).run (pool, host) = ⟨.error fault, (after, last), done⟩) :
    (insert value).run (pool, host) = ⟨.error fault, (after, last),
      done ++ (Element.destructors value).map Effect.destroyed⟩ := by
  refine Step.run_owning_of_error ?_
  rw [Step.run_bind_of_quiet (Step.run_get _)]
  dsimp only
  rw [none]
  exact Step.run_bind_of_error ran _

theorem run_insert_of_pushed {id : ResourceId} {value : T}
    (ran : (pushSlot value).run (pool, host) = ⟨.ok id, (after, last), done⟩) :
    (insert value).run (pool, host) = ⟨.ok id, ({ after with length := after.length + 1 }, last),
      done ++ [.logged (.slotAllocated id (pool.length + 1))]⟩ := by
  refine Step.run_owning_of_ok ?_
  rw [Step.run_bind_of_quiet (Step.run_get _)]
  dsimp only
  rw [none]
  dsimp only
  rw [Step.run_bind_of_ok ran]
  rfl

end Unfree

theorem run_update_of_dead {id : ResourceId} (dead : pool.get? (memory host) id = none)
    (change : T → T × α) :
    (update id change).run (pool, host) = ⟨.ok none, (pool, host), []⟩ := by
  rw [update, Step.run_bind_of_quiet (Step.run_get _)]
  dsimp only
  rw [dead]
  rfl

theorem run_remove?_of_dead {id : ResourceId} (dead : pool.get? (memory host) id = none) :
    (remove? id).run (pool, host) = ⟨.ok none, (pool, host), []⟩ := by
  rw [remove?, Step.run_bind_of_quiet (Step.run_get _)]
  dsimp only
  rw [dead]
  rfl

variable {id : ResourceId} {value : T}

theorem inside_of_live (live : pool.get? (memory host) id = some value) :
    id.index.toNat < pool.slots.length := by
  obtain ⟨slot, found, _⟩ := Option.bind_eq_some_iff.mp live
  exact GrowArray.lt_of_get?_eq_some found

theorem run_update_of_live (live : pool.get? (memory host) id = some value) (change : T → T × α) :
    (update id change).run (pool, host) = ⟨.ok (some (change value).2),
      (pool, pool.written host id.index ⟨id.generation, .occupied (change value).1⟩), []⟩ := by
  rw [update, Step.run_bind_of_quiet (Step.run_get _)]
  dsimp only
  rw [live]
  dsimp only
  rw [Step.run_bind_of_quiet (run_replaceSlot (inside_of_live live) _)]
  rfl

theorem run_remove?_of_live (live : pool.get? (memory host) id = some value) :
    (remove? id).run (pool, host) = ⟨.ok (some value),
      ({ pool with freeHead := some id.index, length := pool.length - 1 },
        pool.written host id.index ⟨id.generation + 1, .free pool.freeHead⟩),
      [.logged (.slotFreed id (pool.length - 1))]⟩ := by
  rw [remove?, Step.run_bind_of_quiet (Step.run_get _)]
  dsimp only
  rw [live]
  dsimp only
  rw [Step.run_bind_of_quiet (run_replaceSlot (inside_of_live live) _)]
  rfl

theorem run_remove_of_live (live : pool.get? (memory host) id = some value) :
    (remove id).run (pool, host) = ⟨.ok value, ((remove? id).run (pool, host)).state,
      ((remove? id).run (pool, host)).effects⟩ := by
  rw [remove, Step.run_bind_of_ok (run_remove?_of_live live), run_remove?_of_live live]
  rfl

theorem run_remove_of_dead (dead : pool.get? (memory host) id = none) :
    (remove id).run (pool, host) =
      ⟨.error (.aborted (.violation component (PoolMisuse.freeDead id).details)), (pool, host),
        [.logged (.usageViolation component (PoolMisuse.freeDead id).details)]⟩ := by
  rw [remove, Step.run_bind_of_quiet (run_remove?_of_dead dead)]
  rfl

end Runs

section Changes
variable [Allocator Object σ] [Custody σ] [LawfulAllocator Object σ] [LawfulElement Object T]
  {pool : Pool T} {host : σ} {table : SlotTable T}

theorem slotLimit_lt (pool : Pool T) : pool.slotLimit < 2 ^ (32 : Nat) := UInt32.toNat_lt _

/-- A value goes into a new slot, or into none: at the limit, and where the array finds no room. -/
theorem pushSlot_cases (represents : Represents pool host table) (value : T) :
    (∃ fault last done, (pushSlot value).run (pool, host) = ⟨.error fault, (pool, last), done⟩ ∧
        Represents pool last table ∧ (pool.slotLimit ≤ pool.slots.length ∨
          ((GrowArray.reserve 1).run (pool.slots, host)).result = .error fault)) ∨
      ∃ slots last done, (pushSlot value).run (pool, host) =
          ⟨.ok table.nextId, ({ pool with slots := slots }, last), done⟩ ∧
        slots.Owned last ∧ slots.toList (memory last) = table.slots ++ [⟨0, .occupied value⟩] ∧
        table.slots.length + 1 < 2 ^ (32 : Nat) := by
  have small := pool.slotLimit_lt
  have slots : pool.slots.toList (memory host) = table.slots :=
    congrArg SlotTable.slots represents.table_eq
  have count : pool.slots.length = table.slots.length := by
    rw [← slots, GrowArray.length_toList]
  by_cases limit : pool.slotLimit ≤ pool.slots.length
  · exact .inl ⟨_, host, _, run_pushSlot_of_limit limit value, represents, .inl limit⟩
  · have below := Nat.lt_of_not_le limit
    rcases represents.owned.reserved slot_sized 1 with
      ⟨fault, last, done, ran, _, refused, _⟩ |
      ⟨larger, last, done, ran, relocated, length, capacity, _⟩
    · have kept := represents.owned.preserved_of_refused refused
      refine .inl ⟨fault, last, done, run_pushSlot_of_refused below ran value,
        ⟨kept.owned, ?_⟩, .inr ?_⟩
      · rw [← represents.table_eq, Pool.table, Pool.table, kept.toList]
      · rw [ran]
    · have kept := relocated.kept
      have enough := (pool.slots.capacity_le_capacityFor 1).2
      have roomy : larger.length < larger.capacity := by omega
      obtain ⟨owned, contents, _⟩ := kept.owned.pushed roomy ⟨0, .occupied value⟩
      obtain ⟨events, pushed⟩ := run_pushSlot_of_reserved below ran roomy value
      rw [SlotTable.nextId, ← count]
      exact .inr ⟨_, _, _, pushed, owned, contents.trans (by rw [kept.toList, slots]), by omega⟩

/-- Where no slot is free, a value goes into a new slot or nothing changes. -/
theorem insert_cases (represents : Represents pool host table) (none : pool.freeHead = none)
    (value : T) :
    (∃ fault last done, (insert value).run (pool, host) = ⟨.error fault, (pool, last), done⟩ ∧
        Represents pool last table ∧ (pool.slotLimit ≤ pool.slots.length ∨
          ((GrowArray.reserve 1).run (pool.slots, host)).result = .error fault)) ∨
      ∃ slots last done, (insert value).run (pool, host) = ⟨.ok table.nextId,
          ({ pool with slots := slots, length := pool.length + 1 }, last), done⟩ ∧
        Represents { pool with slots := slots, length := pool.length + 1 } last
          (table.appended value) ∧
        table.slots.length + 1 < 2 ^ (32 : Nat) := by
  rcases pushSlot_cases represents value with
    ⟨fault, last, done, ran, kept, cause⟩ | ⟨slots, last, done, ran, owned, contents, small⟩
  · exact .inl ⟨fault, last, _, run_insert_of_refused none ran, kept, cause⟩
  · refine .inr ⟨slots, last, _, run_insert_of_pushed none ran, ⟨owned, ?_⟩, small⟩
    rw [SlotTable.appended, Pool.table, contents, ← represents.table_eq]
    rfl

namespace Represents

omit [LawfulAllocator Object σ] [LawfulElement Object T] in
theorem get? (represents : Represents pool host table) (id : ResourceId) :
    pool.get? (memory host) id = table.get? id := by
  rw [get?_eq_table, represents.table_eq]

omit [LawfulAllocator Object σ] [LawfulElement Object T] in
theorem slot? (represents : Represents pool host table) (index : Nat) :
    pool.slots.get? (memory host) index = table.slots[index]? := by
  rw [GrowArray.get?_eq_getElem?, ← represents.table_eq]
  rfl

/-- A slot was written, and the rest of the pool says what became of the table. -/
theorem written (represents : Represents pool host table) {index : UInt32}
    (inside : index.toNat < pool.slots.length) (slot : Slot T) (head : Option UInt32)
    (length : Nat) :
    Represents { pool with freeHead := head, length := length } (pool.written host index slot)
      ⟨table.slots.set index.toNat slot, head, length⟩ := by
  refine ⟨(represents.owned.written (Nat.lt_of_lt_of_le inside represents.owned.fits) slot).1, ?_⟩
  rw [← represents.table_eq]
  exact congrArg (SlotTable.mk · head length) (pool.slots.toList_written host index.toNat slot)

omit [LawfulAllocator Object σ] [LawfulElement Object T] in
theorem freeHead_eq (represents : Represents pool host table) : pool.freeHead = table.freeHead :=
  congrArg SlotTable.freeHead represents.table_eq

omit [LawfulAllocator Object σ] [LawfulElement Object T] in
theorem length_eq (represents : Represents pool host table) : pool.length = table.length :=
  congrArg SlotTable.length represents.table_eq

omit [LawfulAllocator Object σ] [LawfulElement Object T] in
theorem length_slots (represents : Represents pool host table) :
    pool.slots.length = table.slots.length := by
  rw [← represents.table_eq]
  exact (GrowArray.length_toList _ _).symm

theorem overwritten (represents : Represents pool host table) {id : ResourceId} {value : T}
    (live : table.get? id = some value) (changed : T) :
    Represents pool (pool.written host id.index ⟨id.generation, .occupied changed⟩)
      (table.overwritten id changed) := by
  have inside := inside_of_live ((represents.get? id).trans live)
  obtain ⟨owned, rfl⟩ := represents
  exact written ⟨owned, rfl⟩ inside ⟨id.generation, .occupied changed⟩ pool.freeHead pool.length

/-- The slot behind a live identifier was put at the head of the free list. -/
theorem removed (represents : Represents pool host table) {id : ResourceId} {value : T}
    (live : table.get? id = some value) :
    Represents { pool with freeHead := some id.index, length := pool.length - 1 }
      (pool.written host id.index ⟨id.generation + 1, .free pool.freeHead⟩) (table.removed id) := by
  have inside := inside_of_live ((represents.get? id).trans live)
  obtain ⟨owned, rfl⟩ := represents
  exact written ⟨owned, rfl⟩ inside ⟨id.generation + 1, .free pool.freeHead⟩ (some id.index)
    (pool.length - 1)

/-- A value is stored in the table, or nothing changes: no slot is free, and the pool is at its limit or
its array finds no room. -/
theorem insert (represents : Represents pool host table) (valid : table.Valid) (value : T) :
    (∃ id larger pool' last done, (Pool.insert value).run (pool, host) =
        ⟨.ok id, (pool', last), done⟩ ∧ table.Inserted value id larger ∧
        Represents pool' last larger) ∨
      ∃ fault last done, (Pool.insert value).run (pool, host) = ⟨.error fault, (pool, last), done⟩ ∧
        Represents pool last table ∧ table.freeHead = none ∧
        (pool.slotLimit ≤ pool.slots.length ∨
          ((GrowArray.reserve 1).run (pool.slots, host)).result = .error fault) := by
  have same := represents.freeHead_eq
  cases head : table.freeHead with
  | none =>
    rcases insert_cases represents (same.trans head) value with
      ⟨fault, last, done, ran, kept, cause⟩ | ⟨slots, last, done, ran, appended, room⟩
    · exact .inr ⟨fault, last, done, ran, kept, rfl, cause⟩
    · exact .inl ⟨_, _, _, last, done, ran, .appended room, appended⟩
  | some index =>
    obtain ⟨generation, next, found⟩ := valid.head_free head
    have place := (represents.slot? index.toNat).trans found
    have ran := run_insert_of_free (show pool.freeHead =
      some (ResourceId.mk index generation).index from same.trans head) place value
    have reused := represents.written (GrowArray.lt_of_get?_eq_some place)
      ⟨generation, .occupied value⟩ next (pool.length + 1)
    rw [represents.length_eq] at reused ran
    exact .inl ⟨⟨index, generation⟩, _, _, _, _, ran, .reused head found, reused⟩

omit [LawfulAllocator Object σ] [LawfulElement Object T] in
theorem of_empty {slots : GrowArray (Slot T)} (owned : slots.Owned host)
    (none : slots.toList (memory host) = []) (config : PoolConfig) :
    Represents ⟨slots, .none, 0, config⟩ host ⟨[], .none, 0⟩ :=
  ⟨owned, congrArg (SlotTable.mk · .none 0) none⟩

omit [LawfulElement Object T] in
theorem of_create {last : σ} {before : Pool T} {config : PoolConfig} {done : List (Effect Object)}
    (sound : Sound host)
    (built : (create config).run (before, host) = ⟨.ok (), (pool, last), done⟩) :
    Represents pool last ⟨[], .none, 0⟩ := by
  have owned : (GrowArray.empty (Slot T)).Owned host := .empty slot_sized sound
  cases defect : config.defect? with
  | some defect' =>
    rw [run_create_of_defect defect] at built
    cases built
  | none =>
    rcases owned.reserved slot_sized config.initialCapacity with
      ⟨fault, host', done', ran, _⟩ | ⟨slots, host', done', ran, relocated, _⟩
    · rw [run_create_of_refused defect ran] at built
      cases built
    · rw [run_create_of_reserved defect ran] at built
      cases built
      exact .of_empty relocated.kept.owned relocated.kept.toList config

end Represents
end Changes
end Allotment.Pool
