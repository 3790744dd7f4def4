import Allotment.Proofs.Pool.History

namespace Allotment.Pool
open Allocator Custody
variable {Object σ T α : Type} [Allocator Object σ] [Element Object T]

/-- A call leaves as many slots as there were, or one more, and then a value is in every slot. -/
private theorem slots_onTable {table : SlotTable T} (valid : table.Valid) (limit : Nat) (failsFast : Bool)
    (call : Call T α) :
    (call.onTable limit failsFast table).2.slots.length = table.slots.length ∨
      (call.onTable limit failsFast table).2.slots.length = table.slots.length + 1 ∧
        (call.onTable limit failsFast table).2.length = table.slots.length + 1 := by
  have set (index : Nat) (slot : Slot T) : (table.slots.set index slot).length = table.slots.length :=
    List.length_set ..
  cases call with
  | insert value =>
    cases head : table.freeHead with
    | none =>
      simp only [Call.onTable, head]
      split
      · exact .inl rfl
      · refine .inr ⟨List.length_append, ?_⟩
        exact congrArg (· + 1) (valid.length_of_no_free head)
    | some index =>
      obtain ⟨generation, next, found⟩ := valid.head_free head
      simp only [Call.onTable, head, found]
      exact .inl (set ..)
  | update id change =>
    cases live : table.get? id <;> simp only [Call.onTable, live]
    · exact .inl trivial
    · exact .inl (set ..)
  | remove? id =>
    cases live : table.get? id <;> simp only [Call.onTable, live]
    · exact .inl trivial
    · exact .inl (set ..)
  | remove id =>
    cases live : table.get? id <;> simp only [Call.onTable, live]
    · exact .inl trivial
    · exact .inl (set ..)

/-- The greatest of the numbers. -/
structure Peak (peak : Nat) (numbers : List Nat) : Prop where
  attained : peak ∈ numbers
  highest : ∀ number ∈ numbers, number ≤ peak

namespace Peak
variable {peak number : Nat} {numbers : List Nat}

theorem single (number : Nat) : Peak number [number] := ⟨List.mem_singleton.mpr rfl, by simp⟩

theorem kept (before : Peak peak numbers) (below : number ≤ peak) : Peak peak (number :: numbers) :=
  ⟨List.mem_cons_of_mem _ before.attained, List.forall_mem_cons.mpr ⟨below, before.highest⟩⟩

private theorem risen (before : Peak peak numbers) (above : peak ≤ number) : Peak number (number :: numbers) :=
  ⟨List.mem_cons_self .., List.forall_mem_cons.mpr
    ⟨Nat.le_refl _, fun other member => Nat.le_trans (before.highest other member) above⟩⟩

end Peak

/-- A pool, its allocator, its calls with their answers and its lengths so far. The last call and the
present length come first. -/
structure Timeline (T σ : Type) where
  pool : Pool T
  host : σ
  log : List (Entry T)
  lengths : List Nat

namespace Timeline
variable {session : Timeline T σ}

/-- The table of the pool. -/
def table (session : Timeline T σ) : SlotTable T := session.pool.table (memory session.host)

/-- What a call answers. -/
def answer (session : Timeline T σ) (call : Call T α) : Except Fault α :=
  (call.operation.run (session.pool, session.host)).result

/-- The session after a call. A fault is caught. -/
def perform (session : Timeline T σ) (call : Call T α) : Timeline T σ :=
  let last := (call.operation.run (session.pool, session.host)).state
  ⟨last.1, last.2, ⟨call, session.answer call⟩ :: session.log, last.1.length :: session.lengths⟩

/-- The sessions that begin with a new pool, on an allocator in any state it can come to. -/
inductive Reachable [Custody σ] : Timeline T σ → Prop where
  | unreserved {host : σ} (sound : Sound host) (config : PoolConfig) :
      Reachable ⟨.empty T config, host, [], [0]⟩
  | reserved {host last : σ} {before pool : Pool T} {config : PoolConfig}
      {done : List (Effect Object)} (sound : Sound host)
      (built : (Pool.create config).run (before, host) = ⟨.ok (), (pool, last), done⟩) :
      Reachable ⟨pool, last, [], [0]⟩
  | performed {session : Timeline T σ} {α : Type} (reached : Reachable session) (call : Call T α) :
      Reachable (session.perform call)
  /-- Others use the allocator, but nobody writes to the block of the slots or releases it. -/
  | disturbed {session : Timeline T σ} {last : σ} (reached : Reachable session) (sound : Sound last)
      (keeps : session.pool.slots.capacity ≠ 0 → Keeps session.host last session.pool.slots.address
        (Element.size (Slot T) * session.pool.slots.capacity)) :
      Reachable { session with host := last }

theorem perform_of_run {call : Call T α} {result : Except Fault α} {pool : Pool T} {host : σ}
    {done : List (Effect Object)}
    (ran : call.operation.run (session.pool, session.host) = ⟨result, (pool, host), done⟩) :
    session.perform call =
      ⟨pool, host, ⟨call, result⟩ :: session.log, pool.length :: session.lengths⟩ := by
  rw [perform, answer, ran]

/-- The calls account for the table, which lies in a block of the pool's own and has as many slots as the
pool has ever held values. -/
structure Valid [Custody σ] (session : Timeline T σ) : Prop where
  owned : session.pool.slots.Owned session.host
  chronicles : Chronicles session.log session.table
  peak : Peak session.pool.slots.length session.lengths

namespace Valid
variable [Custody σ]

theorem represents (valid : session.Valid) : session.pool.Represents session.host session.table :=
  ⟨valid.owned, rfl⟩

theorem of_represents {pool : Pool T} {host : σ} {table : SlotTable T} {log : List (Entry T)}
    {lengths : List Nat} (represents : pool.Represents host table) (chronicles : Chronicles log table)
    (peak : Peak pool.slots.length lengths) : Valid ⟨pool, host, log, lengths⟩ := by
  have same : Timeline.table ⟨pool, host, log, lengths⟩ = table := represents.table_eq
  exact ⟨represents.owned, same ▸ chronicles, peak⟩

theorem of_blank {pool : Pool T} {host : σ} (represents : pool.Represents host ⟨[], none, 0⟩) :
    Valid ⟨pool, host, [], [0]⟩ := by
  have length : pool.slots.length = 0 := represents.length_slots
  refine .of_represents represents .empty ?_
  rw [length]
  exact .single 0

theorem length_le (valid : session.Valid) : session.pool.length ≤ session.pool.slots.length := by
  rw [valid.represents.length_slots, valid.represents.length_eq, valid.chronicles.valid.length]
  exact List.countP_le_length

theorem length_toList (valid : session.Valid) :
    (session.pool.toList (memory session.host)).length = session.pool.length := by
  rw [toList_eq_entries, SlotTable.length_entries, valid.represents.length_eq]
  exact valid.chronicles.valid.length.symm

variable [LawfulAllocator Object σ] [LawfulElement Object T]

/-- Whatever is called, it is answered as the table answers it, or a new slot finds no room and nothing
changes. -/
theorem step (valid : session.Valid) (call : Call T α) : (session.perform call).Valid := by
  have before := valid.represents.length_slots
  rcases valid.represents.called valid.chronicles.valid call with
    ⟨fault, last, done, ran, kept, full, _⟩ | ⟨result, after, last, done, ran, answered⟩
  · cases call with
    | insert value =>
      rw [perform_of_run ran]
      exact .of_represents kept (valid.chronicles.refused value fault) (valid.peak.kept valid.length_le)
    | _ =>
      have fits := valid.owned.fits
      simp only [Call.asks] at full
      omega
  · obtain rfl := answered.result
    have chronicles := valid.chronicles.called session.pool.slotLimit_lt (failsFast session.host) call
    have count := answered.represents.length_slots
    have inside : after.length ≤ after.slots.length := by
      rw [count, answered.represents.length_eq, chronicles.valid.length]
      exact List.countP_le_length
    rw [perform_of_run ran]
    refine .of_represents answered.represents chronicles ?_
    rcases slots_onTable valid.chronicles.valid session.pool.slotLimit (failsFast session.host) call with
      same | ⟨more, full⟩
    · have still : after.slots.length = session.pool.slots.length := by rw [count, same, before]
      rw [still] at inside ⊢
      exact valid.peak.kept inside
    · have filled : after.slots.length = after.length := by
        rw [count, more, answered.represents.length_eq, full]
      rw [filled]
      exact valid.peak.risen (by omega)

omit [LawfulAllocator Object σ] [LawfulElement Object T] in
/-- Others may do what they like with the rest of the allocator. -/
theorem disturbed (valid : session.Valid) {last : σ} (sound : Sound last)
    (keeps : session.pool.slots.capacity ≠ 0 → Keeps session.host last session.pool.slots.address
      (Element.size (Slot T) * session.pool.slots.capacity)) :
    Valid { session with host := last } := by
  have preserved := valid.owned.preserved_of_keeps sound keeps
  refine .of_represents ⟨preserved.owned, ?_⟩ valid.chronicles valid.peak
  exact congrArg (SlotTable.mk · session.pool.freeHead session.pool.length) preserved.toList

end Valid

theorem Reachable.valid [Custody σ] [LawfulAllocator Object σ] [LawfulElement Object T]
    (reached : session.Reachable) : session.Valid := by
  induction reached with
  | unreserved sound config => exact .of_blank (.of_empty (.empty slot_sized sound) rfl config)
  | reserved sound built => exact .of_blank (.of_create sound built)
  | performed _ call ih => exact ih.step call
  | disturbed _ sound keeps ih => exact ih.disturbed sound keeps

end Timeline
end Allotment.Pool
