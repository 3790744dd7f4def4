import Allotment.Proofs.Pool.Timeline

/-! Which slot a value goes into. The free slots are chained in the order in which they were freed, last
freed first, and a new slot is made only when none is free; so a pool has as many slots as the most values
it ever held, and the generation in an identifier counts how often its slot was freed before. -/
namespace Allotment

namespace SlotTable
variable {T : Type} {slots : List (Slot T)} {free : List Nat}

/-- A list that has every free slot once leaves as many slots as hold values. -/
private theorem length_add_of_complete (nodup : free.Nodup)
    (complete : ∀ index, index ∈ free ↔ FreeAt slots index) :
    free.length + slots.countP Slot.isOccupied = slots.length := by
  let vacant (place : Slot T × Nat) : Bool := !place.1.isOccupied
  have nodup' : ((slots.zipIdx.filter vacant).map Prod.snd).Nodup := by
    have indices : (slots.zipIdx.map Prod.snd).Nodup := by
      rw [List.zipIdx_map_snd]
      exact List.nodup_range'
    exact indices.sublist (List.filter_sublist.map Prod.snd)
  have same : free.Perm ((slots.zipIdx.filter vacant).map Prod.snd) := by
    apply (List.perm_ext_iff_of_nodup nodup nodup').mpr
    intro index
    rw [complete, List.mem_map]
    constructor
    · rintro ⟨slot, found, free⟩
      refine ⟨(slot, index), List.mem_filter.mpr ⟨List.mk_mem_zipIdx_iff_getElem?.mpr found, ?_⟩, rfl⟩
      simp [vacant, free]
    · rintro ⟨⟨slot, _⟩, member, rfl⟩
      obtain ⟨listed, free⟩ := List.mem_filter.mp member
      refine ⟨slot, List.mk_mem_zipIdx_iff_getElem?.mp listed, ?_⟩
      simpa [vacant] using free
  have count : (slots.zipIdx.filter vacant).length = slots.countP fun slot => ¬ slot.isOccupied := by
    have slots' : slots.countP (fun slot => ¬ slot.isOccupied) = slots.zipIdx.countP vacant := by
      conv_lhs => rw [← List.zipIdx_map_fst 0 slots]
      rw [List.countP_map]
      apply List.countP_congr
      intro place _
      simp [vacant]
    rw [slots', List.countP_eq_length_filter]
  rw [same.length_eq, List.length_map, count, Nat.add_comm]
  exact (List.length_eq_countP_add_countP Slot.isOccupied).symm

end SlotTable

namespace Pool
open Allocator Custody
variable {Object σ T α : Type} [Allocator Object σ] [Element Object T]

namespace Timeline
variable {session : Timeline T σ}

namespace Valid
variable [Custody σ]

/-- The calls say which slot the free list begins with. -/
theorem freeHead_eq (valid : session.Valid) :
    session.pool.freeHead.map UInt32.toNat = (unused session.log).head? := by
  have linked : SlotTable.FreeList session.table.slots session.pool.freeHead (unused session.log) :=
    valid.chronicles.linked
  generalize unused session.log = free at linked ⊢
  generalize session.pool.freeHead = head at linked ⊢
  cases linked <;> rfl

theorem freeHead_eq_none_iff (valid : session.Valid) :
    session.pool.freeHead = none ↔ unused session.log = [] := by
  rw [← List.head?_eq_none_iff, ← valid.freeHead_eq, Option.map_eq_none_iff]

/-- As many slots are free as there are more slots than values. -/
theorem length_unused (valid : session.Valid) :
    (unused session.log).length + session.pool.length = session.pool.slots.length := by
  obtain ⟨nodup, complete⟩ := valid.chronicles.valid.complete valid.chronicles.linked
  have counted := SlotTable.length_add_of_complete nodup complete
  rwa [← valid.chronicles.valid.length, ← valid.represents.length_slots,
    ← valid.represents.length_eq] at counted

variable [LawfulAllocator Object σ] [LawfulElement Object T]

/-- A call that needs no new slot is answered by the table. -/
private theorem called_of_slotted (valid : session.Valid) (call : Call T α)
    (slotted : call.asks session.pool.slotLimit session.table = 0) :
    session.answer call =
        (call.onTable session.pool.slotLimit (failsFast session.host) session.table).1 ∧
      (session.perform call).table =
        (call.onTable session.pool.slotLimit (failsFast session.host) session.table).2 := by
  rcases valid.represents.called valid.chronicles.valid call with
    ⟨fault, last, done, ran, kept, full, _⟩ | ⟨result, after, last, done, ran, answered⟩
  · have fits := valid.owned.fits
    have count := valid.represents.length_slots
    omega
  · rw [perform_of_run ran, answer, ran]
    exact ⟨answered.result, answered.represents.table_eq⟩

/-- A value goes into the slot that was freed last. -/
theorem insert_of_unused (valid : session.Valid) {index : Nat} {rest : List Nat}
    (free : unused session.log = index :: rest) (value : T) :
    ∃ id, session.answer (.insert value) = .ok id ∧ id.index.toNat = index ∧
      unused (session.perform (.insert value)).log = rest ∧
      (session.perform (.insert value)).pool.slots.length = session.pool.slots.length := by
  have begins := valid.freeHead_eq
  rw [free, List.head?_cons, Option.map_eq_some_iff] at begins
  obtain ⟨first, head, rfl⟩ := begins
  have head' : session.table.freeHead = some first := head
  obtain ⟨generation, next, found⟩ := valid.chronicles.valid.head_free head'
  have slotted : (Call.insert value).asks session.pool.slotLimit session.table = 0 :=
    if_neg fun asked => by simp [head'] at asked
  obtain ⟨stored, after⟩ := valid.called_of_slotted (.insert value) slotted
  simp only [Call.onTable, head', found] at stored after
  refine ⟨_, stored, rfl, ?_, ?_⟩
  · change Deed.onUnused (Entry.deed ⟨.insert value, session.answer (.insert value)⟩) _ = rest
    rw [stored, free]
    exact List.erase_cons_head ..
  · rw [(valid.step (.insert value)).represents.length_slots, after, valid.represents.length_slots]
    exact List.length_set ..

/-- Where no slot is free a value that is stored goes into a new slot, behind all others. -/
private theorem insert_of_full (valid : session.Valid) (full : unused session.log = []) {value : T}
    {id : ResourceId} (stored : session.answer (.insert value) = .ok id) :
    id.index.toNat = session.pool.slots.length ∧
      (session.perform (.insert value)).pool.slots.length = session.pool.slots.length + 1 := by
  have none := valid.freeHead_eq_none_iff.mpr full
  have small := valid.chronicles.valid.small
  have count := valid.represents.length_slots
  rcases insert_cases valid.represents none value with
    ⟨fault, last, done, ran, _⟩ | ⟨slots, last, done, ran, appended, _⟩
  · rw [answer, Call.operation, ran] at stored
    cases stored
  · rw [answer, Call.operation, ran] at stored
    cases stored
    refine ⟨(UInt32.toNat_ofNat_of_lt' small).trans count.symm, ?_⟩
    have ran' : (Call.insert value).operation.run (session.pool, session.host) = _ := ran
    rw [perform_of_run ran', appended.length_slots, count]
    exact List.length_append

end Valid

/-- Stores values one after another: the answers, and the session afterwards. -/
def insertAll (session : Timeline T σ) : List T → List (Except Fault ResourceId) × Timeline T σ
  | [] => ([], session)
  | value :: rest =>
    let (answers, last) := (session.perform (.insert value)).insertAll rest
    (session.answer (.insert value) :: answers, last)

variable [Custody σ] [LawfulAllocator Object σ] [LawfulElement Object T]

/-- Values that are stored one after another go into the free slots, last freed first. -/
theorem Valid.insertAll (valid : session.Valid) (values : List T)
    (enough : values.length ≤ (unused session.log).length) :
    ∃ ids : List ResourceId, (session.insertAll values).1 = ids.map .ok ∧
      ids.map (·.index.toNat) = (unused session.log).take values.length := by
  induction values generalizing session with
  | nil => exact ⟨[], rfl, rfl⟩
  | cons value values ih =>
    cases free : unused session.log with
    | nil =>
      rw [free] at enough
      cases enough
    | cons index rest =>
      obtain ⟨id, stored, there, left, _⟩ := valid.insert_of_unused free value
      rw [free, List.length_cons, List.length_cons, Nat.succ_le_succ_iff] at enough
      obtain ⟨ids, answers, indices⟩ := ih (valid.step (.insert value)) (left.symm ▸ enough)
      refine ⟨id :: ids, ?_, ?_⟩
      · rw [Timeline.insertAll, stored, List.map_cons, ← answers]
      · rw [List.map_cons, indices, there, left, List.length_cons, List.take_succ_cons]

omit [LawfulAllocator Object σ] [LawfulElement Object T] in
/-- The slot that the free list begins with takes a value: it never holds one. -/
private theorem Valid.reuseSlot_result (valid : session.Valid) {index : UInt32}
    (head : session.pool.freeHead = some index) (value : T) :
    ∃ generation, ((reuseSlot index value).run (session.pool, session.host)).result =
      .ok ⟨index, generation⟩ := by
  obtain ⟨generation, next, found⟩ := valid.chronicles.valid.head_free head
  have place := (valid.represents.slot? index.toNat).trans found
  have ran := run_reuseSlot (show session.pool.slots.get? (memory session.host)
    (ResourceId.mk index generation).index.toNat = some ⟨generation, .free next⟩ from place) value
  exact ⟨generation, congrArg Outcome.result ran⟩

theorem Valid.refused (valid : session.Valid) {value : T} {fault : Fault}
    (refused : session.answer (.insert value) = .error fault) :
    session.pool.freeHead = none ∧
      ((pushSlot value).run (session.pool, session.host)).result = .error fault := by
  cases free : unused session.log with
  | cons index rest =>
    obtain ⟨id, stored, _⟩ := valid.insert_of_unused free value
    cases stored.symm.trans refused
  | nil =>
    have none := valid.freeHead_eq_none_iff.mpr free
    refine ⟨none, ?_⟩
    rcases ran : (pushSlot value).run (session.pool, session.host) with ⟨fault' | id, last, done⟩
    · have failed := run_insert_of_refused none ran
      rw [answer, Call.operation, failed] at refused
      cases refused
      rfl
    · have stored := run_insert_of_pushed none ran
      rw [answer, Call.operation, stored] at refused
      cases refused

/-- The free list visits the slots that were freed and not used since, last freed first. Values go into
them in this order, and into a new slot behind all others only when there are none. -/
theorem Reachable.reuses_last_freed_first (reached : session.Reachable) :
    SlotTable.FreeList session.table.slots session.pool.freeHead (unused session.log) ∧
      (unused session.log).Nodup ∧
      (∀ index, index ∈ unused session.log ↔ SlotTable.FreeAt session.table.slots index) ∧
      (unused session.log).length = session.pool.freeCount ∧
      session.pool.freeCount + session.pool.length = session.pool.slots.length ∧
      (∀ index rest, unused session.log = index :: rest → ∀ value : T, ∃ id,
        session.answer (.insert value) = .ok id ∧ id.index.toNat = index ∧
        unused (session.perform (.insert value)).log = rest ∧
        (session.perform (.insert value)).pool.slots.length = session.pool.slots.length) ∧
      (∀ values : List T, values.length ≤ (unused session.log).length → ∃ ids : List ResourceId,
        (session.insertAll values).1 = ids.map .ok ∧
        ids.map (·.index.toNat) = (unused session.log).take values.length) ∧
      (unused session.log = [] → ∀ (value : T) id, session.answer (.insert value) = .ok id →
        id.index.toNat = session.pool.slots.length ∧
        (session.perform (.insert value)).pool.slots.length = session.pool.slots.length + 1) ∧
      (∀ index, session.pool.freeHead = some index → ∀ value : T, ∃ generation,
        ((reuseSlot index value).run (session.pool, session.host)).result = .ok ⟨index, generation⟩) ∧
      ∀ (value : T) fault, session.answer (.insert value) = .error fault →
        session.pool.freeHead = none ∧
          ((pushSlot value).run (session.pool, session.host)).result = .error fault := by
  have valid := reached.valid
  have linked := valid.chronicles.linked
  obtain ⟨nodup, complete⟩ := valid.chronicles.valid.complete linked
  have count := valid.length_unused
  refine ⟨linked, nodup, complete, ?_, ?_, fun index rest free value => valid.insert_of_unused free value,
    valid.insertAll, fun full value id stored => valid.insert_of_full full stored,
    fun index head value => valid.reuseSlot_result head value, fun value fault => valid.refused⟩
  · rw [freeCount]
    omega
  · rw [freeCount]
    omega

/-- Of three values on the process heap the first and the third are taken out, and the third once more. The
next two values go into their slots, the third one's first. -/
theorem reuses_last_freed_first_of_two_freed :
    ∃ session : Timeline UInt32 (Heap Value), session.Reachable ∧ unused session.log = [2, 0] ∧
      SlotTable.FreeList session.table.slots session.pool.freeHead [2, 0] ∧
      session.pool.freeCount = 2 ∧
      ∃ ids : List ResourceId, (session.insertAll [40, 50]).1 = ids.map .ok ∧
        ids.map (·.index.toNat) = [2, 0] := by
  have created : Reachable ⟨.empty UInt32 .standard, (Heap.empty false : Heap Value), [], [0]⟩ :=
    .unreserved (Heap.Orderly.empty false) .standard
  have filled := ((created.performed (.insert 10)).performed (.insert 20)).performed (.insert 30)
  have reached := ((filled.performed (.remove ⟨0, 0⟩)).performed (.remove? ⟨2, 0⟩)).performed
    (.remove ⟨2, 0⟩)
  obtain ⟨linked, _, _, length, _, _, stored, _⟩ := reached.reuses_last_freed_first
  exact ⟨_, reached, rfl, linked, length.symm, stored [40, 50] (Nat.le_refl 2)⟩

/-- There are as many slots as the most values the pool held so far, and every identifier that was issued
points at one of them. -/
theorem Reachable.slots_at_peak (reached : session.Reachable) :
    Peak session.pool.slots.length session.lengths ∧
      ∀ entry earlier, (entry :: earlier) <:+ session.log → ∀ id value, entry.deed = .issued id value →
        id.index.toNat < session.pool.slots.length ∧
        (frees earlier id.index.toNat < 2 ^ (32 : Nat) →
          id.generation.toNat = frees earlier id.index.toNat) := by
  have valid := reached.valid
  refine ⟨valid.peak, fun entry earlier suffixes id value issued => ⟨?_, fun few => ?_⟩⟩
  · rw [valid.represents.length_slots]
    exact valid.chronicles.inside entry (suffixes.subset (List.mem_cons_self ..)) id value issued
  · rw [(valid.chronicles.faithful.at_suffix suffixes).2 id value issued]
    exact UInt32.toNat_ofNat_of_lt' few

/-- The pool on the process heap that held one, two, one and two values has two slots. The third value has
the slot of the first, which had been freed once. -/
theorem slots_at_peak_of_reused_slot :
    ∃ session : Timeline UInt32 (Heap Value), session.Reachable ∧ session.lengths = [2, 1, 2, 1, 0] ∧
      Peak session.pool.slots.length [2, 1, 2, 1, 0] ∧ session.pool.slots.length = 2 ∧
      (session.log.map Entry.deed).head? = some (.issued ⟨0, 1⟩ 30) ∧
      (⟨0, 1⟩ : ResourceId).generation.toNat = frees session.log.tail 0 := by
  have created : Reachable ⟨.empty UInt32 .standard, (Heap.empty false : Heap Value), [], [0]⟩ :=
    .unreserved (Heap.Orderly.empty false) .standard
  have filled := (created.performed (.insert 10)).performed (.insert 20)
  have reached := (filled.performed (.remove ⟨0, 0⟩)).performed (.insert 30)
  obtain ⟨peak, stamps⟩ := reached.slots_at_peak
  refine ⟨_, reached, rfl, peak, rfl, rfl, ?_⟩
  exact (stamps _ _ (List.suffix_refl _) ⟨0, 1⟩ 30 rfl).2 (by decide)

end Timeline
end Pool
end Allotment
