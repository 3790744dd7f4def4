import Allotment.Element.Value
import Allotment.Proofs.Allocator.Heap
import Allotment.Proofs.Pool.Operations
import Allotment.Proofs.Pool.Registry

/-! A pool refines a finite map whose keys are never issued twice. The map knows only what was called
and what was answered; every answer of the pool is the one the map gives. -/
namespace Allotment.Pool
open Allocator Custody
variable {Object σ T α : Type}

/-- What may change a pool. Looking into it changes nothing. -/
inductive Call (T : Type) : Type → Type 1 where
  | insert (value : T) : Call T ResourceId
  /-- The value behind an identifier is changed in place, and looked at. -/
  | update {α : Type} (id : ResourceId) (change : T → T × α) : Call T (Option α)
  | remove? (id : ResourceId) : Call T (Option T)
  | remove (id : ResourceId) : Call T T

namespace Call

/-- The map after a call that was answered. -/
def record : Call T α → α → Registry T → Registry T
  | insert value, id, registry => registry.issue id value
  | update id change, _, registry =>
    match registry.live.lookup id with
    | some value => registry.assign id (change value).1
    | none => registry
  | remove? _, none, registry => registry
  | remove? id, some _, registry => registry.free id
  | remove id, _, registry => registry.free id

/-- What a map with these bindings answers. A new identifier is one that was never issued. -/
def Admits (registry : Registry T) : Call T α → Except Fault α → Prop
  | insert _, .ok id => id ∉ registry.issued
  | insert _, .error _ => True
  | update id change, answer =>
    answer = .ok ((registry.live.lookup id).map fun value => (change value).2)
  | remove? id, answer => answer = .ok (registry.live.lookup id)
  | remove id, answer =>
    answer = match registry.live.lookup id with
      | some value => .ok value
      | none => .error (.aborted (.violation component (PoolMisuse.freeDead id).details))

variable [Allocator Object σ] [Element Object T]

/-- The operation behind a call. -/
def operation : Call T α → Step Object (Pool T × σ) α
  | insert value => Pool.insert value
  | update id change => Pool.update id change
  | remove? id => Pool.remove? id
  | remove id => Pool.remove id

end Call

/-- A pool, its allocator, and the map it stands for. -/
structure Session (T σ : Type) where
  pool : Pool T
  host : σ
  registry : Registry T

namespace Session
variable [Allocator Object σ] [Element Object T] {session : Session T σ}

/-- The table of the pool. -/
def table (session : Session T σ) : SlotTable T := session.pool.table (memory session.host)

/-- What a call answers. -/
def answer (session : Session T σ) (call : Call T α) : Except Fault α :=
  (call.operation.run (session.pool, session.host)).result

/-- The session after a call. A fault is caught, and the map stays as it was. -/
def perform (session : Session T σ) (call : Call T α) : Session T σ :=
  let last := (call.operation.run (session.pool, session.host)).state
  ⟨last.1, last.2,
    match session.answer call with
    | .ok answer => call.record answer session.registry
    | .error _ => session.registry⟩

/-- The sessions that begin with a new pool, on an allocator in any state it can come to. -/
inductive Reachable [Custody σ] : Session T σ → Prop where
  | unreserved {host : σ} (sound : Sound host) (config : PoolConfig) :
      Reachable ⟨.empty T config, host, .blank T⟩
  | reserved {host last : σ} {before pool : Pool T} {config : PoolConfig}
      {done : List (Effect Object)} (sound : Sound host)
      (built : (Pool.create config).run (before, host) = ⟨.ok (), (pool, last), done⟩) :
      Reachable ⟨pool, last, .blank T⟩
  | performed {session : Session T σ} {α : Type} (reached : Reachable session) (call : Call T α) :
      Reachable (session.perform call)

theorem perform_of_ok {call : Call T α} {answer : α} {pool : Pool T} {host : σ}
    {done : List (Effect Object)}
    (ran : call.operation.run (session.pool, session.host) = ⟨.ok answer, (pool, host), done⟩) :
    session.perform call = ⟨pool, host, call.record answer session.registry⟩ := by
  rw [perform, Session.answer, ran]

theorem perform_of_error {call : Call T α} {fault : Fault} {pool : Pool T} {host : σ}
    {done : List (Effect Object)}
    (ran : call.operation.run (session.pool, session.host) = ⟨.error fault, (pool, host), done⟩) :
    session.perform call = ⟨pool, host, session.registry⟩ := by
  rw [perform, Session.answer, ran]

/-- The slots lie in a block of the pool's own, and the map describes their table. -/
structure Valid [Custody σ] (session : Session T σ) : Prop where
  owned : session.pool.slots.Owned session.host
  describes : session.registry.Describes session.table

namespace Valid
variable [Custody σ]

theorem of_represents {pool : Pool T} {host : σ} {table : SlotTable T} {registry : Registry T}
    (represents : pool.Represents host table) (describes : registry.Describes table) :
    Valid ⟨pool, host, registry⟩ := by
  have same : Session.table ⟨pool, host, registry⟩ = table := represents.table_eq
  exact ⟨represents.owned, same ▸ describes⟩

theorem represents (valid : session.Valid) : session.pool.Represents session.host session.table :=
  ⟨valid.owned, rfl⟩

theorem get?_eq (valid : session.Valid) (id : ResourceId) :
    session.pool.get? (memory session.host) id = session.registry.live.lookup id :=
  (valid.represents.get? id).trans (valid.describes.resolves id)

private theorem freeCount_eq (valid : session.Valid) (none : session.pool.freeHead = none) :
    session.pool.freeCount = 0 := by
  have full : session.table.length = session.table.slots.length :=
    valid.describes.valid.length_of_no_free none
  have count : session.table.slots.length = session.pool.slots.length :=
    GrowArray.length_toList ..
  rw [freeCount, ← count, ← full]
  exact Nat.sub_self _

variable [LawfulAllocator Object σ] [LawfulElement Object T]

/-- A value is stored under an identifier that was never issued, or nothing changes. -/
theorem insert (valid : session.Valid) (value : T) :
    (∃ id pool last done, (Pool.insert value).run (session.pool, session.host) =
        ⟨.ok id, (pool, last), done⟩ ∧ id ∉ session.registry.issued ∧
        Valid ⟨pool, last, session.registry.issue id value⟩) ∨
      ∃ fault last done, (Pool.insert value).run (session.pool, session.host) =
          ⟨.error fault, (session.pool, last), done⟩ ∧
        Valid ⟨session.pool, last, session.registry⟩ ∧ session.pool.freeCount = 0 ∧
        (session.pool.slotLimit ≤ session.pool.slots.length ∨
          ((GrowArray.reserve 1).run (session.pool.slots, session.host)).result = .error fault) := by
  rcases valid.represents.insert valid.describes.valid value with
    ⟨id, larger, pool, last, done, ran, inserted, represents⟩ |
    ⟨fault, last, done, ran, kept, none, cause⟩
  · obtain ⟨fresh, describes⟩ := valid.describes.inserted inserted
    exact .inl ⟨id, pool, last, done, ran, fresh, .of_represents represents describes⟩
  · exact .inr ⟨fault, last, done, ran, .of_represents kept valid.describes,
      valid.freeCount_eq none, cause⟩

private theorem full_of_refused (valid : session.Valid) {value : T} {fault : Fault}
    (refused : session.answer (.insert value) = .error fault) :
    session.pool.freeCount = 0 ∧ (session.pool.slotLimit ≤ session.pool.slots.length ∨
      ((GrowArray.reserve 1).run (session.pool.slots, session.host)).result = .error fault) := by
  rcases valid.insert value with ⟨id, pool, last, done, ran, _⟩ |
    ⟨fault', last, done, ran, _, full, cause⟩
  · have ran' : (Call.insert value).operation.run (session.pool, session.host) = _ := ran
    rw [answer, ran'] at refused
    cases refused
  · have ran' : (Call.insert value).operation.run (session.pool, session.host) = _ := ran
    rw [answer, ran'] at refused
    cases refused
    exact ⟨full, cause⟩

theorem update (valid : session.Valid) {id : ResourceId} {value : T}
    (live : session.pool.get? (memory session.host) id = some value) (changed : T) :
    Valid ⟨session.pool, session.pool.written session.host id.index ⟨id.generation, .occupied changed⟩,
      session.registry.assign id changed⟩ := by
  have found := (valid.represents.get? id).symm.trans live
  exact .of_represents (valid.represents.overwritten found changed)
    (valid.describes.overwritten found changed)

theorem remove (valid : session.Valid) {id : ResourceId} {value : T}
    (live : session.pool.get? (memory session.host) id = some value)
    (few : (session.registry.free id).frees id.index.toNat < 2 ^ (32 : Nat)) :
    Valid ⟨{ session.pool with freeHead := some id.index, length := session.pool.length - 1 },
      session.pool.written session.host id.index ⟨id.generation + 1, .free session.pool.freeHead⟩,
      session.registry.free id⟩ := by
  have found := (valid.represents.get? id).symm.trans live
  exact .of_represents (valid.represents.removed found) (valid.describes.removed found few)

/-- Whatever is called, the answer is one the map gives, and the map after it describes the pool as long
as no slot was freed too often. -/
theorem step (valid : session.Valid) (call : Call T α) :
    call.Admits session.registry (session.answer call) ∧
      ((∀ index, (session.perform call).registry.frees index < 2 ^ (32 : Nat)) →
        (session.perform call).Valid) := by
  cases call with
  | insert value =>
    rcases valid.insert value with ⟨id, pool, last, done, ran, fresh, after⟩ |
      ⟨fault, last, done, ran, after, _⟩
    · have ran' : (Call.insert value).operation.run (session.pool, session.host) = _ := ran
      rw [perform_of_ok ran', answer, ran']
      exact ⟨fresh, fun _ => after⟩
    · have ran' : (Call.insert value).operation.run (session.pool, session.host) = _ := ran
      rw [perform_of_error ran', answer, ran']
      exact ⟨trivial, fun _ => after⟩
  | update id change =>
    have found := valid.get?_eq id
    cases live : session.registry.live.lookup id with
    | none =>
      have ran : (Call.update id change).operation.run (session.pool, session.host) = _ :=
        run_update_of_dead (found.trans live) change
      rw [perform_of_ok ran, answer, ran]
      simp only [Call.Admits, Call.record, live]
      exact ⟨rfl, fun _ => valid⟩
    | some value =>
      have ran : (Call.update id change).operation.run (session.pool, session.host) = _ :=
        run_update_of_live (found.trans live) change
      rw [perform_of_ok ran, answer, ran]
      simp only [Call.Admits, Call.record, live]
      exact ⟨rfl, fun _ => valid.update (found.trans live) (change value).1⟩
  | remove? id =>
    have found := valid.get?_eq id
    cases live : session.registry.live.lookup id with
    | none =>
      have ran : (Call.remove? id).operation.run (session.pool, session.host) = _ :=
        run_remove?_of_dead (found.trans live)
      rw [perform_of_ok ran, answer, ran]
      simp only [Call.Admits, Call.record, live]
      exact ⟨trivial, fun _ => valid⟩
    | some value =>
      have ran : (Call.remove? id).operation.run (session.pool, session.host) = _ :=
        run_remove?_of_live (found.trans live)
      rw [perform_of_ok ran, answer, ran]
      simp only [Call.Admits, Call.record, live]
      exact ⟨trivial, fun few => valid.remove (found.trans live) (few _)⟩
  | remove id =>
    have found := valid.get?_eq id
    cases live : session.registry.live.lookup id with
    | none =>
      have ran : (Call.remove id).operation.run (session.pool, session.host) = _ :=
        run_remove_of_dead (found.trans live)
      rw [perform_of_error ran, answer, ran]
      simp only [Call.Admits, live]
      exact ⟨trivial, fun _ => valid⟩
    | some value =>
      have ran : (Call.remove id).operation.run (session.pool, session.host) = _ :=
        run_remove_of_live (found.trans live)
      rw [run_remove?_of_live (found.trans live)] at ran
      rw [perform_of_ok ran, answer, ran]
      simp only [Call.Admits, Call.record, live]
      exact ⟨trivial, fun few => valid.remove (found.trans live) (few _)⟩

end Valid

theorem frees_le_perform (session : Session T σ) (call : Call T α) (index : Nat) :
    session.registry.frees index ≤ (session.perform call).registry.frees index := by
  have free (id : ResourceId) :
      session.registry.frees index ≤ (session.registry.free id).frees index := by
    change _ ≤ (id :: session.registry.freed).countP _
    rw [List.countP_cons]
    exact Nat.le_add_right ..
  change _ ≤ Registry.frees (match session.answer call with
    | .ok answer => call.record answer session.registry
    | .error _ => session.registry) index
  cases session.answer call with
  | error fault => exact Nat.le_refl _
  | ok answer =>
    cases call with
    | insert value => exact Nat.le_refl _
    | update id change =>
      simp only [Call.record]
      split <;> exact Nat.le_refl _
    | remove? id =>
      cases answer with
      | none => exact Nat.le_refl _
      | some value => exact free id
    | remove id => exact free id

theorem Reachable.valid [Custody σ] [LawfulAllocator Object σ] [LawfulElement Object T]
    (reached : session.Reachable) (few : ∀ index, session.registry.frees index < 2 ^ (32 : Nat)) :
    session.Valid := by
  induction reached with
  | unreserved sound config =>
    exact .of_represents (.of_empty (.empty slot_sized sound) rfl config) .blank
  | reserved sound built => exact .of_represents (.of_create sound built) .blank
  | performed reached call ih =>
    have before := ih fun index => Nat.lt_of_le_of_lt (frees_le_perform _ call index) (few index)
    exact (before.step call).2 few

private theorem Valid.lookup_of_freed [Custody σ] (valid : session.Valid) {id : ResourceId}
    (freed : id ∈ session.registry.freed) : session.registry.live.lookup id = none := by
  rw [← valid.describes.resolves]
  exact valid.describes.dead_of_freed freed

theorem Valid.mem_toList_iff [Custody σ] (valid : session.Valid) (id : ResourceId) (value : T) :
    (id, value) ∈ session.pool.toList (memory session.host) ↔
      session.registry.live.lookup id = some value := by
  rw [toList_eq_entries, ← valid.describes.resolves]
  exact SlotTable.mem_entries_iff valid.describes.valid.small

private theorem Valid.length_eq_card [Custody σ] (valid : session.Valid) :
    session.pool.length = session.registry.live.keys.card := by
  have sorted := SlotTable.entries_sorted valid.describes.valid.small
  have nodup : (session.table.entries.map Prod.fst).Nodup := by
    apply List.pairwise_map.mpr
    apply sorted.imp
    intro first second before same
    rw [same] at before
    exact UInt32.lt_irrefl _ before
  have keys : session.registry.live.keys = (session.table.entries.map Prod.fst).toFinset := by
    ext id
    rw [Finmap.mem_keys, Finmap.mem_iff, List.mem_toFinset, List.mem_map]
    constructor
    · rintro ⟨value, bound⟩
      exact ⟨(id, value), (valid.mem_toList_iff id value).mpr bound, rfl⟩
    · rintro ⟨⟨_, value⟩, member, rfl⟩
      exact ⟨value, (valid.mem_toList_iff _ value).mp member⟩
  rw [keys, List.toFinset_card_of_nodup nodup, List.length_map, SlotTable.length_entries]
  exact valid.describes.valid.length

/-- A pool is a map that issues no identifier twice, as long as no slot was freed as often as there are
generations. Every lookup and every call is answered by the map, and what was freed is not found again. -/
theorem Reachable.refines_map [Custody σ] [LawfulAllocator Object σ] [LawfulElement Object T]
    (reached : session.Reachable) (few : ∀ index, session.registry.frees index < 2 ^ (32 : Nat)) :
    session.registry.issued.Nodup ∧
      (∀ id, session.pool.get? (memory session.host) id = session.registry.live.lookup id ∧
        session.pool.contains (memory session.host) id =
          (session.registry.live.lookup id).isSome) ∧
      (∀ id ∈ session.registry.freed, session.registry.live.lookup id = none) ∧
      session.pool.length = session.registry.live.keys.card ∧
      (session.pool.toList (memory session.host)).Pairwise
        (fun first second => first.1.index < second.1.index) ∧
      (∀ id value, (id, value) ∈ session.pool.toList (memory session.host) ↔
        session.registry.live.lookup id = some value) ∧
      (∀ {α : Type} (call : Call T α), call.Admits session.registry (session.answer call)) ∧
      ∀ value fault, session.answer (.insert value) = .error fault →
        session.pool.freeCount = 0 ∧ (session.pool.slotLimit ≤ session.pool.slots.length ∨
          ((GrowArray.reserve 1).run (session.pool.slots, session.host)).result = .error fault) := by
  have valid := reached.valid few
  refine ⟨valid.describes.distinct, fun id => ⟨valid.get?_eq id, ?_⟩,
    fun id freed => valid.lookup_of_freed freed, valid.length_eq_card,
    SlotTable.entries_sorted valid.describes.valid.small, valid.mem_toList_iff,
    fun call => (valid.step call).1, fun value fault failed => valid.full_of_refused failed⟩
  rw [contains, valid.get?_eq]

/-- A slot on the process heap holds nine after it held seven and was freed: the old identifier finds
nothing, nor does one of a generation to come, and to free that one is a misuse. -/
theorem refines_map_of_reused_slot :
    ∃ session : Session UInt32 (Heap Value), session.Reachable ∧
      session.registry.issued = [⟨0, 1⟩, ⟨0, 0⟩] ∧ session.registry.freed = [⟨0, 0⟩] ∧
      session.pool.get? (memory session.host) ⟨0, 0⟩ = none ∧
      session.pool.get? (memory session.host) ⟨0, 1⟩ = some 9 ∧
      session.pool.length = session.registry.live.keys.card ∧
      session.answer (.remove ⟨0, 2⟩) =
        .error (.aborted (.violation component (PoolMisuse.freeDead ⟨0, 2⟩).details)) := by
  have created : Reachable ⟨.empty UInt32 .standard, (Heap.empty false : Heap Value), .blank UInt32⟩ :=
    .unreserved (Heap.Orderly.empty false) .standard
  have reached := ((created.performed (.insert 7)).performed (.remove ⟨0, 0⟩)).performed (.insert 9)
  obtain ⟨_, lookups, freed, length, _, _, answers, _⟩ := reached.refines_map fun index =>
    Nat.lt_of_le_of_lt List.countP_le_length (by decide)
  refine ⟨_, reached, rfl, rfl, ?_, ?_, length, ?_⟩
  · exact (lookups ⟨0, 0⟩).1.trans (freed ⟨0, 0⟩ (List.mem_singleton.mpr rfl))
  · exact (lookups ⟨0, 1⟩).1.trans (Finmap.lookup_insert _)
  · exact answers (.remove ⟨0, 2⟩)

end Session
end Allotment.Pool
