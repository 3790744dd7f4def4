import Allotment.Proofs.GrowArray.Conservation
import Allotment.Proofs.Pool.Atomicity

/-! Where the values of a pool go. Each value that was stored is handed back once or is still in the pool,
and is then leaked when the pool ends. The only values that a pool destroys are those it did not store. -/
namespace Allotment
open Allocator Custody Effect
variable {Object σ T α : Type}

/-- The value in a slot. -/
def Slot.value? (slot : Slot T) : Option T :=
  match slot.state with
  | .occupied value => some value
  | .free _ => none

namespace SlotTable
variable {table : SlotTable T}

/-- The values in slot order. -/
def values (table : SlotTable T) : List T := table.slots.filterMap Slot.value?

private theorem map_entries (table : SlotTable T) : table.entries.map Prod.snd = table.values := by
  have slots : table.values = (table.slots.zipIdx.map Prod.fst).filterMap Slot.value? := by
    rw [List.zipIdx_map_fst]
    rfl
  rw [slots, entries, List.map_filterMap, List.filterMap_map]
  apply List.filterMap_congr
  rintro ⟨⟨generation, state⟩, index⟩ _
  cases state <;> rfl

private theorem values_appended (table : SlotTable T) (value : T) :
    (table.appended value).values = table.values ++ [value] :=
  List.filterMap_append

theorem values_of_set {changed : SlotTable T} {index : Nat} {old : Slot T} (slot : Slot T)
    (found : table.slots[index]? = some old) (slots : changed.slots = table.slots.set index slot) :
    (slot.value?.toList ++ table.values).Perm (old.value?.toList ++ changed.values) := by
  obtain ⟨inside, rfl⟩ := List.getElem?_eq_some_iff.mp found
  have split (first : Slot T) (rest : List (Slot T)) : (first :: rest).filterMap Slot.value? =
      first.value?.toList ++ rest.filterMap Slot.value? := by
    rw [List.filterMap_cons]
    cases first.value? <;> rfl
  have before := (List.getElem_cons_eraseIdx_perm inside).symm.filterMap Slot.value?
  have after := (List.set_perm_cons_eraseIdx inside slot).filterMap Slot.value?
  rw [split] at before after
  rw [values, values, slots]
  refine (before.append_left _).trans (.trans ?_ (after.symm.append_left _))
  rw [← List.append_assoc, ← List.append_assoc]
  exact List.perm_append_comm.append_right _

end SlotTable

namespace Pool
variable [Element Object T]

/-- What a caller may do with values in a pool. -/
inductive Deal (T : Type) : Type → Type where
  | insert (value : T) : Deal T ResourceId
  /-- A value is put in place of the one behind an identifier. -/
  | overwrite (id : ResourceId) (value : T) : Deal T (Option T)
  | remove? (id : ResourceId) : Deal T (Option T)
  | remove (id : ResourceId) : Deal T T

namespace Deal

def call : Deal T α → Call T α
  | insert value => .insert value
  | overwrite id value => .update id fun old => (value, old)
  | remove? id => .remove? id
  | remove id => .remove id

/-- The values that a pool takes, by its answer. A value that is to be put behind an identifier of no
value stays with the caller. -/
def stores : Deal T α → Except Fault α → List T
  | insert value, .ok _ => [value]
  | overwrite _ value, .ok (some _) => [value]
  | _, _ => []

/-- The values that the caller gets. -/
def handsBack : Deal T α → Except Fault α → List T
  | overwrite _ _, .ok (some old) => [old]
  | remove? _, .ok (some value) => [value]
  | remove _, .ok value => [value]
  | _, _ => []

/-- The values that find no slot. -/
def refuses : Deal T α → Except Fault α → List T
  | insert value, .error _ => [value]
  | _, _ => []

private theorem stores_of_error (deal : Deal T α) (fault : Fault) : deal.stores (.error fault) = [] := by
  cases deal <;> rfl

private theorem handsBack_of_error (deal : Deal T α) (fault : Fault) : deal.handsBack (.error fault) = [] := by
  cases deal <;> rfl

omit [Element Object T] in
private theorem balance_onTable {table : SlotTable T} (valid : table.Valid) (limit : Nat) (failsFast : Bool)
    (deal : Deal T α) :
    (deal.stores (deal.call.onTable limit failsFast table).1 ++ table.values).Perm
      (deal.handsBack (deal.call.onTable limit failsFast table).1 ++
        (deal.call.onTable limit failsFast table).2.values) := by
  cases deal with
  | insert value =>
    cases head : table.freeHead with
    | none =>
      simp only [call, Call.onTable, head]
      split
      · exact .refl _
      · rw [SlotTable.values_appended]
        exact List.perm_append_comm
    | some index =>
      obtain ⟨generation, next, found⟩ := valid.head_free head
      simp only [call, Call.onTable, head, found]
      exact SlotTable.values_of_set ⟨generation, .occupied value⟩ found rfl
  | overwrite id value =>
    cases live : table.get? id with
    | none =>
      simp only [call, Call.onTable, live]
      exact .refl _
    | some old =>
      simp only [call, Call.onTable, live]
      exact SlotTable.values_of_set ⟨id.generation, .occupied value⟩
        (SlotTable.get?_eq_some_iff.mp live) rfl
  | remove? id | remove id =>
    cases live : table.get? id with
    | none =>
      simp only [call, Call.onTable, live]
      exact .refl _
    | some value =>
      simp only [call, Call.onTable, live]
      exact SlotTable.values_of_set ⟨id.generation + 1, .free table.freeHead⟩
        (SlotTable.get?_eq_some_iff.mp live) rfl

end Deal

section Destruction
variable [Allocator Object σ]

/-- A pool that ends destroys nothing, whatever is in it, be its slots taken back or not. -/
private theorem destroyedObjects_dispose [DiscreetAllocator Object σ] (pool : Pool T) (host : σ) :
    destroyedObjects (dispose.run (pool, host)).effects = [] := by
  have farewell : destroyedObjects (pool.farewell : List (Effect Object)) = [] := by
    rw [farewell]
    split <;> rfl
  have slots := (GrowArray.destroyed_dispose pool.slots host).1
  rw [run_dispose_slots, destroyedObjects_append, farewell, slots]
  exact List.flatMap_eq_nil_iff.mpr fun _ _ => rfl

private theorem destroyedObjects_create [DiscreetAllocator Object σ] (config : PoolConfig) (before : Pool T)
    (host : σ) : destroyedObjects ((create config).run (before, host)).effects = [] := by
  have quiet := destroyedObjects_of_incidental
    (GrowArray.discreet_reserve config.initialCapacity (GrowArray.empty (Slot T), host))
  cases found : config.defect? with
  | some defect =>
    rw [run_create_of_defect found]
    rfl
  | none =>
    rcases ran : (GrowArray.reserve config.initialCapacity).run (GrowArray.empty (Slot T), host) with
      ⟨fault | _, ⟨slots, last⟩, done⟩ <;> rw [ran] at quiet
    · rw [run_create_of_refused found ran]
      exact quiet
    · rw [run_create_of_reserved found ran, destroyedObjects_append, quiet]
      rfl

end Destruction

namespace Timeline
variable [Allocator Object σ] [Custody σ] {session : Timeline T σ}

namespace Valid
variable [LawfulAllocator Object σ] [LawfulElement Object T]

/-- A call changes nothing and fails, or it does what the table of the pool does. -/
theorem moved (valid : session.Valid) (call : Call T α) :
    (∃ fault, session.answer call = .error fault ∧ (session.perform call).table = session.table) ∨
      session.answer call =
          (call.onTable session.pool.slotLimit (failsFast session.host) session.table).1 ∧
        (session.perform call).table =
          (call.onTable session.pool.slotLimit (failsFast session.host) session.table).2 := by
  rcases valid.represents.called valid.chronicles.valid call with
    ⟨fault, last, done, ran, kept, _⟩ | ⟨result, after, last, done, ran, answered⟩
  · refine .inl ⟨fault, congrArg Outcome.result ran, ?_⟩
    rw [perform_of_run ran]
    exact kept.table_eq
  · refine .inr ⟨(congrArg Outcome.result ran).trans answered.result, ?_⟩
    rw [perform_of_run ran]
    exact answered.represents.table_eq

private theorem balance_deal (valid : session.Valid) (deal : Deal T α) :
    (deal.stores (session.answer deal.call) ++ session.table.values).Perm
      (deal.handsBack (session.answer deal.call) ++ (session.perform deal.call).table.values) := by
  rcases valid.moved deal.call with ⟨fault, answered, same⟩ | ⟨answered, after⟩
  · rw [answered, same, deal.stores_of_error, deal.handsBack_of_error]
  · rw [answered, after]
    exact deal.balance_onTable valid.chronicles.valid _ _

omit [LawfulElement Object T] in
/-- The destructors that run in a call are those of the value that found no slot. -/
private theorem destroyedObjects_deal [DiscreetAllocator Object σ] (valid : session.Valid)
    (deal : Deal T α) :
    destroyedObjects (deal.call.operation.run (session.pool, session.host)).effects =
      (deal.refuses (session.answer deal.call)).flatMap Element.destructors := by
  cases deal with
  | insert value =>
    have destroyed := valid.destroyedObjects_insert value
    rw [Deal.call, Call.operation, destroyed]
    cases session.answer (.insert value) with
    | ok id => rfl
    | error fault => exact (List.append_nil _).symm
  | overwrite id value =>
    rw [Deal.call, Call.operation, destroyedObjects_of_incidental (discreet_update id _ _)]
    rfl
  | remove? id =>
    rw [Deal.call, Call.operation, destroyedObjects_of_incidental (discreet_remove? id _)]
    rfl
  | remove id =>
    rw [Deal.call, Call.operation, destroyedObjects_of_incidental (discreet_remove id _)]
    rfl

end Valid

/-- The runs of a pool on any allocator, with the values that it stored, those that it handed back, those
that found no slot, and the objects whose destructors ran. Faults are caught, and others use the allocator
in between. -/
inductive History : Timeline T σ → List T → List T → List T → List Object → Prop where
  | unreserved {host : σ} (sound : Sound host) (config : PoolConfig) :
      History ⟨.empty T config, host, [], [0]⟩ [] [] [] []
  | reserved {host last : σ} {before pool : Pool T} {config : PoolConfig}
      {done : List (Effect Object)} (sound : Sound host)
      (built : (Pool.create config).run (before, host) = ⟨.ok (), (pool, last), done⟩) :
      History ⟨pool, last, [], [0]⟩ [] [] [] (destroyedObjects done)
  | performed {session : Timeline T σ} {stored handed refused : List T} {destroyed : List Object}
      {α : Type} (history : History session stored handed refused destroyed) (deal : Deal T α) :
      History (session.perform deal.call) (stored ++ deal.stores (session.answer deal.call))
        (handed ++ deal.handsBack (session.answer deal.call))
        (refused ++ deal.refuses (session.answer deal.call))
        (destroyed ++
          destroyedObjects (deal.call.operation.run (session.pool, session.host)).effects)
  | disturbed {session : Timeline T σ} {stored handed refused : List T} {destroyed : List Object}
      {last : σ} (history : History session stored handed refused destroyed) (sound : Sound last)
      (keeps : session.pool.slots.capacity ≠ 0 → Keeps session.host last session.pool.slots.address
        (Element.size (Slot T) * session.pool.slots.capacity)) :
      History { session with host := last } stored handed refused destroyed

namespace History
variable {stored handed refused : List T} {destroyed : List Object}

theorem reachable (history : History session stored handed refused destroyed) :
    session.Reachable := by
  induction history with
  | unreserved sound config => exact .unreserved sound config
  | reserved sound built => exact .reserved sound built
  | performed _ deal ih => exact .performed ih deal.call
  | disturbed _ sound keeps ih => exact .disturbed ih sound keeps

variable [LawfulAllocator Object σ] [LawfulElement Object T]

theorem balance (history : History session stored handed refused destroyed) :
    stored.Perm (handed ++ session.table.values) := by
  induction history with
  | unreserved => exact .refl []
  | @reserved host last before pool config done sound built =>
    have blank : Timeline.table ⟨pool, last, [], [0]⟩ = ⟨[], none, 0⟩ :=
      (Represents.of_create sound built).table_eq
    rw [blank]
    exact .refl []
  | performed history deal ih => exact balance_trans ih (history.reachable.valid.balance_deal deal)
  | @disturbed session _ _ _ _ last history sound keeps ih =>
    have preserved := history.reachable.valid.owned.preserved_of_keeps sound keeps
    have same : Timeline.table { session with host := last } = session.table :=
      congrArg (SlotTable.mk · session.pool.freeHead session.pool.length) preserved.toList
    rwa [same]

variable [DiscreetAllocator Object σ]

theorem destroyed_eq (history : History session stored handed refused destroyed) :
    destroyed = refused.flatMap Element.destructors := by
  induction history with
  | unreserved => rfl
  | @reserved host last before pool config done sound built =>
    have quiet := destroyedObjects_create config before host
    rwa [built] at quiet
  | performed history deal ih =>
    rw [List.flatMap_append, ← ih, history.reachable.valid.destroyedObjects_deal deal]
  | disturbed _ _ _ ih => exact ih

/-- Each value that was stored is handed back once or is still in the pool, and is then leaked when the pool
ends. The destructors that run are those of the values that found no slot. -/
theorem stored_value_never_destroyed (history : History session stored handed refused destroyed) :
    stored.Perm (handed ++ (session.pool.toList (memory session.host)).map Prod.snd) ∧
    destroyed = refused.flatMap Element.destructors ∧
    (∀ value fault, session.answer (.insert value) = .error fault →
      destroyedObjects ((insert value).run (session.pool, session.host)).effects =
        Element.destructors value) ∧
    (∀ value id, session.answer (.insert value) = .ok id →
      destroyedObjects ((insert value).run (session.pool, session.host)).effects = []) ∧
    destroyedObjects (dispose.run (session.pool, session.host)).effects = [] ∧
    destroyedObjects (destroy.run (session.pool, session.host)).effects = [] ∧
    handed.length ≤ stored.length ∧
    (destroy.run (session.pool, session.host)).result =
      (session.pool.giveBack.run session.host).result.map (fun _ => stored.length - handed.length) ∧
    ∀ heap : Heap Object, (session.pool.giveBack.run heap).result = .ok () := by
  have valid := history.reachable.valid
  have values : (session.pool.toList (memory session.host)).map Prod.snd = session.table.values :=
    SlotTable.map_entries session.table
  have balance := history.balance
  rw [← values] at balance
  have count := balance.length_eq
  rw [List.length_append, List.length_map, valid.length_toList] at count
  have rest : stored.length - handed.length = session.pool.length := by omega
  refine ⟨balance, history.destroyed_eq, fun value fault failed => ?_,
    fun value id stored => valid.destroyedObjects_of_stored stored, destroyedObjects_dispose _ _, ?_,
    by omega, ?_, fun heap => giveBack_heap _ heap⟩
  · rw [valid.destroyedObjects_insert, failed]
  · rw [run_destroy]
    exact destroyedObjects_dispose _ _
  · rw [run_destroy, rest]

/-- A pool on the process heap that may have two slots: the first mark was replaced, the second one taken
out, and a third one stored in its slot. -/
def twoSlots : Timeline Tracked (Heap Value) :=
  (((((⟨.empty Tracked ⟨0, some 2, true⟩, .empty false, [], [0]⟩ : Timeline Tracked (Heap Value)).perform
    (Deal.insert ⟨1⟩).call).perform (Deal.insert ⟨2⟩).call).perform
      (Deal.overwrite ⟨0, 0⟩ ⟨3⟩).call).perform (Deal.remove? ⟨1, 0⟩ : Deal Tracked _).call).perform
        (Deal.insert ⟨4⟩).call

/-- The mark that was taken out is asked for again, which is a misuse, and one mark more finds no slot. Of
five marks one was destroyed; the pool hands two back and leaks two. -/
theorem stored_value_never_destroyed_of_two_slots :
    ∃ session stored handed refused destroyed,
      History (session : Timeline Tracked (Heap Value)) stored handed refused destroyed ∧
      session = (twoSlots.perform (Deal.remove ⟨1, 0⟩ : Deal Tracked _).call).perform
        (Deal.insert ⟨5⟩).call ∧
      stored = [⟨1⟩, ⟨2⟩, ⟨3⟩, ⟨4⟩] ∧ handed = [⟨1⟩, ⟨2⟩] ∧ refused = [⟨5⟩] ∧
      destroyed = [.tracked ⟨5⟩] ∧ (destroy.run (session.pool, session.host)).result = .ok 2 ∧
      destroyedObjects (destroy.run (session.pool, session.host)).effects = [] := by
  have empty : History (⟨.empty Tracked ⟨0, some 2, true⟩, .empty false, [], [0]⟩ :
      Timeline Tracked (Heap Value)) [] [] [] [] := .unreserved (Heap.Orderly.empty false) _
  have two : History twoSlots _ _ _ _ :=
    ((((empty.performed (.insert ⟨1⟩)).performed (.insert ⟨2⟩)).performed
      (.overwrite ⟨0, 0⟩ ⟨3⟩)).performed (.remove? ⟨1, 0⟩)).performed (.insert ⟨4⟩)
  have full := (two.performed (.remove ⟨1, 0⟩)).performed (.insert ⟨5⟩)
  obtain ⟨_, destroyed, _, _, _, ended, _, answered, back⟩ := full.stored_value_never_destroyed
  refine ⟨_, _, _, _, _, full, rfl, rfl, rfl, rfl, ?_, ?_, ended⟩
  · rw [destroyed]
    rfl
  · rw [answered, back]
    rfl

end History
end Timeline
end Pool
end Allotment
