import Allotment.Proofs.Allocator.ProcessHeap
import Allotment.Proofs.Allocator.Recorded
import Allotment.Proofs.Allocator.Steady
import Allotment.Proofs.Pool.Reuse
import Allotment.Proofs.Pool.Teardown

namespace Allotment
open Allocator Custody Effect
variable {Object σ T : Type} [Allocator Object σ] [Element Object T]

namespace GrowArray
variable {array : GrowArray T} {host last : σ} {newCapacity : Nat} {fault : Fault}
  {done : List (Effect Object)}

/-- Why an array finds no room for another element. -/
inductive Denied (array : GrowArray T) (host : σ) : Fault → Prop where
  /-- The elements need a stricter alignment than the allocator has. -/
  | strict (strict : alignment host < Element.alignment T) :
      Denied array host (.refused (.invalidAlignment (Element.alignment T) (alignment host)))
  /-- The bytes that more room takes are no word. -/
  | oversized (overflow : arraySize? (Element.size T) (array.grownCapacity 1) = none) :
      Denied array host (.refused (.sizeOverflow "realloc_array"))
  /-- The allocator rejects the request for another block. -/
  | rejected {fault : Fault}
      (rejected : ((resize array.block? (Element.size T * array.grownCapacity 1)
        (Element.size T * array.capacity)).run host).result = .error fault) :
      Denied array host fault

namespace Owned
variable [Custody σ]

theorem denied (owned : array.Owned host)
    (ran : (array.enlarge (array.grownCapacity 1)).run host = ⟨.error fault, last, done⟩) :
    array.Denied host fault := by
  rcases Nat.lt_or_ge (alignment host) (Element.alignment T) with strict | aligned
  · rw [enlarge, run_resizeArray_of_strict _ _ strict] at ran
    cases ran
    exact .strict strict
  · cases bytes : arraySize? (Element.size T) (array.grownCapacity 1) with
    | none =>
      rw [enlarge, run_resizeArray_of_overflow _ _ aligned bytes] at ran
      cases ran
      exact .oversized bytes
    | some newSize =>
      obtain ⟨rfl, _⟩ := Word.checkedMul?_eq_some_iff.mp bytes
      rw [enlarge, run_resizeArray_of_size _ _ aligned bytes, owned.bytes, Option.getD_some] at ran
      exact .rejected (congrArg Outcome.result ran)

variable [LawfulAllocator Object σ] [SteadyAllocator Object σ]

/-- The allocator that rejects a request for another block changes at most its counts. -/
theorem recounted (owned : array.Owned host) (sized : Element.size T ≠ 0)
    (more : array.capacity < newCapacity)
    (ran : (array.enlarge newCapacity).run host = ⟨.error fault, last, done⟩) :
    SteadyAllocator.Recounted host last := by
  rcases owned.run_enlarge newCapacity with ⟨fault', refused⟩ | ⟨_, _, asked⟩
  · rw [ran] at refused
    cases refused
    exact SteadyAllocator.refl host
  · rw [ran] at asked
    by_cases none : array.capacity = 0
    · rw [block?_of_none none, LawfulAllocator.resize_none, Step.run_map] at asked
      have rejected : ((Allocator.allocate (Element.size T * newCapacity)).run host).result =
          .error fault := by
        have result := congrArg Outcome.result asked
        cases acquired : ((Allocator.allocate (Element.size T * newCapacity)).run host).result with
        | ok place => rw [acquired] at result; cases result
        | error fault' => rw [acquired] at result; cases result; rfl
      have state : last = _ := congrArg Outcome.state asked
      rw [state]
      exact SteadyAllocator.allocate owned.sound rejected
    · have requested : Element.size T * newCapacity ≠ 0 := Nat.mul_ne_zero sized (by omega)
      rw [block?_of_some none] at asked
      have state : last = _ := congrArg Outcome.state asked
      rw [state]
      exact SteadyAllocator.resize owned.sound requested (owned.held none)
        (congrArg Outcome.result asked).symm

/-- Where an array finds no room for another element, it and the allocator are as they were, but for what
the allocator counts. -/
private theorem reserve_refused (owned : array.Owned host) (sized : Element.size T ≠ 0)
    (small : array.length + 1 < wordLimit)
    (failed : ((reserve 1).run (array, host)).result = .error fault) :
    ∃ last done, (reserve 1).run (array, host) = ⟨.error fault, (array, last), done⟩ ∧
      SteadyAllocator.Recounted host last ∧ array.Denied host fault := by
  by_cases room : array.length < array.capacity
  · rw [run_reserve_of_roomy small room] at failed
    cases failed
  · have full : array.capacity < array.length + 1 := Nat.lt_of_not_le room
    have more := lt_grownCapacity full
    rw [run_reserve_of_full small full] at failed ⊢
    have enlarged := owned.enlarged sized more
    generalize ran : (array.enlarge (array.grownCapacity 1)).run host = outcome at enlarged
    cases enlarged with
    | granted relocated =>
      rw [run_growTo_of_ok sized more ran] at failed
      cases failed
    | refused refused =>
      have stopped := run_growTo_of_error sized more ran
      rw [stopped] at failed
      cases failed
      exact ⟨_, _, stopped, owned.recounted sized more ran, owned.denied ran⟩

end Owned
end GrowArray

namespace Pool

/-- Why a value finds no slot, where none is free. -/
inductive Unplaced (pool : Pool T) (host : σ) : Fault → Prop where
  /-- There are as many slots as there may be. -/
  | exhausted (full : pool.slotLimit ≤ pool.slots.length) :
      Unplaced pool host ((MemoryError.poolExhausted component pool.slotLimit).fault (failsFast host))
  /-- There is no room for another slot. -/
  | denied {fault : Fault} (denied : pool.slots.Denied host fault) : Unplaced pool host fault

/-- What comes of storing a value, whatever the allocator makes of it. -/
structure AllOrNothing (session : Timeline T σ) (value : T) (recounted : σ → σ → Prop) : Prop where
  /-- A free slot takes the value, and nothing else changes. -/
  slotted : 0 < session.pool.freeCount → ∃ id next,
    (insert value).run (session.pool, session.host) = ⟨.ok id,
      ({ session.pool with freeHead := next, length := session.pool.length + 1 },
        session.pool.written session.host id.index ⟨id.generation, .occupied value⟩),
      [.logged (.slotAllocated id (session.pool.length + 1))]⟩
  /-- The allocator is not asked for anything. -/
  unasked : 0 < session.pool.freeCount → ∀ requests, ((insert value).run
    (session.pool, (⟨session.host, requests⟩ : Recorded σ))).state.2.requests = requests
  /-- A value that is stored is behind its identifier, and it is not destroyed. -/
  stored : ∀ id, session.answer (.insert value) = .ok id →
    (session.perform (.insert value)).table.get? id = some value ∧
      destroyedObjects ((insert value).run (session.pool, session.host)).effects = []
  /-- A value that is not stored is destroyed once, and nothing else happens. -/
  refused : ∀ fault, session.answer (.insert value) = .error fault → ∃ last done,
    (insert value).run (session.pool, session.host) = ⟨.error fault, (session.pool, last), done⟩ ∧
      recounted session.host last ∧
      session.pool.table (memory last) = session.table ∧
      (∀ id, session.pool.get? (memory last) id = session.pool.get? (memory session.host) id) ∧
      destroyedObjects done = Element.destructors value ∧
      session.pool.freeCount = 0 ∧ Unplaced session.pool session.host fault

/-- A value that is refused a new slot changes at most what the allocator counts. -/
theorem run_pushSlot_of_error [Custody σ] [LawfulAllocator Object σ] [SteadyAllocator Object σ]
    {pool : Pool T} {host : σ} (owned : pool.slots.Owned host) {value : T}
    {fault : Fault} (failed : ((pushSlot value).run (pool, host)).result = .error fault) :
    ∃ last done, (pushSlot value).run (pool, host) = ⟨.error fault, (pool, last), done⟩ ∧
      SteadyAllocator.Recounted host last ∧ Unplaced pool host fault := by
  rcases Nat.lt_or_ge pool.slots.length pool.slotLimit with below | full
  · rcases owned.reserved slot_sized 1 with
      ⟨fault', last, done, ran, _⟩ | ⟨larger, last, done, ran, _, length, capacity, _⟩
    · have limit := pool.slotLimit_lt
      have small : pool.slots.length + 1 < wordLimit := by
        rw [wordLimit]
        omega
      obtain ⟨last', done', ran', recounted, denied⟩ :=
        owned.reserve_refused slot_sized small (congrArg Outcome.result ran)
      have stopped := run_pushSlot_of_refused below ran value
      rw [stopped] at failed
      cases failed
      rw [ran] at ran'
      cases ran'
      exact ⟨_, _, stopped, recounted, .denied denied⟩
    · have enough := (pool.slots.capacity_le_capacityFor 1).2
      obtain ⟨events, pushed⟩ := run_pushSlot_of_reserved below ran (by omega) value
      rw [pushed] at failed
      cases failed
  · have stopped : (pushSlot value).run (pool, host) = _ := run_pushSlot_of_limit full value
    rw [stopped] at failed
    cases failed
    exact ⟨_, _, stopped, SteadyAllocator.refl _, .exhausted full⟩

/-- To make a slot for a value destroys nothing, whether there is room for it or not. -/
private theorem destroyedObjects_pushSlot [Custody σ] [LawfulAllocator Object σ] [DiscreetAllocator Object σ]
    {pool : Pool T} {host : σ} (owned : pool.slots.Owned host) (value : T) :
    destroyedObjects ((pushSlot value).run (pool, host)).effects = [] := by
  rcases Nat.lt_or_ge pool.slots.length pool.slotLimit with below | full
  · have quiet := destroyedObjects_of_incidental (GrowArray.discreet_reserve 1 (pool.slots, host))
    rcases owned.reserved slot_sized 1 with
      ⟨fault, last, done, ran, _⟩ | ⟨larger, last, done, ran, _, length, capacity, _⟩ <;>
      rw [ran] at quiet
    · rw [run_pushSlot_of_refused below ran]
      exact quiet
    · have enough := (pool.slots.capacity_le_capacityFor 1).2
      obtain ⟨events, pushed⟩ := run_pushSlot_of_reserved below ran (by omega) value
      rw [pushed, destroyedObjects_append, destroyedObjects_logged, quiet]
      rfl
  · have stopped : (pushSlot value).run (pool, host) = _ := run_pushSlot_of_limit full value
    rw [stopped]
    exact destroyedObjects_of_incidental (incidental_announcement _ _)

namespace Timeline.Valid
variable [Custody σ] {session : Timeline T σ}

private theorem freeCount_eq_zero (valid : session.Valid) (none : session.pool.freeHead = none) :
    session.pool.freeCount = 0 := by
  have count := valid.length_unused
  rw [valid.freeHead_eq_none_iff.mp none, List.length_nil] at count
  rw [freeCount]
  omega

private theorem head_of_free (valid : session.Valid) (free : 0 < session.pool.freeCount) :
    ∃ (id : ResourceId) (next : Option UInt32), session.pool.freeHead = some id.index ∧
      session.pool.slots.get? (memory session.host) id.index.toNat =
        some ⟨id.generation, .free next⟩ := by
  cases head : session.pool.freeHead with
  | none =>
    rw [valid.freeCount_eq_zero head] at free
    cases free
  | some index =>
    obtain ⟨generation, next, found⟩ := valid.chronicles.valid.head_free head
    exact ⟨⟨index, generation⟩, next, rfl, (valid.represents.slot? index.toNat).trans found⟩

variable [LawfulAllocator Object σ] [LawfulElement Object T]

private theorem get?_of_stored (valid : session.Valid) {value : T} {id : ResourceId}
    (stored : session.answer (.insert value) = .ok id) :
    (session.perform (.insert value)).table.get? id = some value := by
  rw [(valid.step (.insert value)).chronicles.resolves]
  change Deed.onHeld id (Entry.deed ⟨.insert value, session.answer (.insert value)⟩) _ = some value
  rw [stored]
  exact if_pos rfl

variable [DiscreetAllocator Object σ]

omit [LawfulElement Object T] in
/-- A value is destroyed if and only if it is not stored. -/
theorem destroyedObjects_insert (valid : session.Valid) (value : T) :
    destroyedObjects ((insert value).run (session.pool, session.host)).effects =
      match session.answer (.insert value) with
      | .ok _ => []
      | .error _ => Element.destructors value := by
  rw [answer, Call.operation]
  cases head : session.pool.freeHead with
  | some index =>
    obtain ⟨generation, next, found⟩ := valid.chronicles.valid.head_free head
    have place := (valid.represents.slot? index.toNat).trans found
    rw [run_insert_of_free (show session.pool.freeHead =
      some (ResourceId.mk index generation).index from head) place value]
    rfl
  | none =>
    have quiet := destroyedObjects_pushSlot valid.owned value
    rcases ran : (pushSlot value).run (session.pool, session.host) with
      ⟨fault | id, ⟨after, last⟩, done⟩ <;> rw [ran] at quiet
    · rw [run_insert_of_refused head ran, destroyedObjects_append, quiet, destroyedObjects_destroyed]
      rfl
    · rw [run_insert_of_pushed head ran, destroyedObjects_append, quiet]
      rfl

omit [LawfulElement Object T] in
theorem destroyedObjects_of_stored (valid : session.Valid) {value : T} {id : ResourceId}
    (stored : session.answer (.insert value) = .ok id) :
    destroyedObjects ((insert value).run (session.pool, session.host)).effects = [] := by
  rw [valid.destroyedObjects_insert, stored]

variable [SteadyAllocator Object σ]

theorem allOrNothing (valid : session.Valid) (value : T) :
    AllOrNothing session value SteadyAllocator.Recounted := by
  constructor
  case slotted =>
    intro free
    obtain ⟨id, next, head, found⟩ := valid.head_of_free free
    exact ⟨id, next, run_insert_of_free head found value⟩
  case unasked =>
    intro free requests
    obtain ⟨id, next, head, found⟩ := valid.head_of_free free
    have found' : session.pool.slots.get? (memory (⟨session.host, requests⟩ : Recorded σ))
      id.index.toNat = some ⟨id.generation, .free next⟩ := found
    rw [run_insert_of_free head found' value]
    rfl
  case stored => exact fun id stored => ⟨valid.get?_of_stored stored, valid.destroyedObjects_of_stored stored⟩
  case refused =>
    intro fault refused
    obtain ⟨none, failed⟩ := valid.refused refused
    obtain ⟨last, done, ran, recounted, cause⟩ := run_pushSlot_of_error valid.owned failed
    have stopped := run_insert_of_refused none ran
    have kept : Represents session.pool last session.table := by
      rcases insert_cases valid.represents none value with
        ⟨_, _, _, ran', kept, _⟩ | ⟨_, _, _, ran', _⟩ <;> rw [stopped] at ran' <;> cases ran'
      exact kept
    have destroyed := valid.destroyedObjects_insert value
    rw [refused, stopped] at destroyed
    exact ⟨last, _, stopped, recounted, kept.table_eq,
      fun id => (kept.get? id).trans (valid.represents.get? id).symm, destroyed,
      valid.freeCount_eq_zero none, cause⟩

end Timeline.Valid

/-- To store a value is all or nothing, up to what the allocator counts when it rejects a request: on a stack
these are the counters, and a heap keeps its blocks with all that is in them, whatever requests it meets. -/
theorem insert_all_or_nothing {η : Type} [LawfulElement Object T] [Custody σ] [LawfulAllocator Object σ]
    [DiscreetAllocator Object σ] [SteadyAllocator Object σ] [SystemHeap Object η] [HeapLedger η]
    [LawfulSystemHeap Object η] :
    (∀ session : Timeline T σ, session.Reachable → ∀ value,
      AllOrNothing session value SteadyAllocator.Recounted) ∧
    (∀ session : Timeline T (Stack Object), session.Reachable → ∀ value,
      AllOrNothing session value fun before after =>
        after = { before with counters := after.counters }) ∧
    ∀ session : Timeline T (General η), session.Reachable → ∀ value,
      AllOrNothing session value General.Undisturbed :=
  ⟨fun _ reached value => reached.valid.allOrNothing value,
    fun _ reached value => reached.valid.allOrNothing value,
    fun _ reached value => reached.valid.allOrNothing value⟩

/-- Four values fill the slots of a pool on a stack, and another block lies on top of them. A fifth value
finds no room, which is a misuse of the stack; it is destroyed, and the third value is where it was. Once
the second one was taken out the value has its slot. -/
theorem insert_all_or_nothing_of_covered_slots :
    ∃ session : Timeline UInt32 (Stack Value), session.Reachable ∧
      (∃ details last done, (insert (50 : UInt32)).run (session.pool, session.host) =
          ⟨.error (.aborted (.violation Stack.component details)), (session.pool, last), done⟩ ∧
        last = { session.host with counters := last.counters } ∧
        session.pool.get? (memory last) ⟨2, 0⟩ = some 30 ∧ destroyedObjects done = [.word32 50]) ∧
      ∃ last done, (insert (50 : UInt32)).run ((session.perform (.remove ⟨1, 0⟩)).pool,
        (session.perform (.remove ⟨1, 0⟩)).host) = ⟨.ok ⟨1, 1⟩, last, done⟩ := by
  have created : Timeline.Reachable ⟨.empty UInt32 .standard,
      (.empty ⟨256, 8, rfl, by decide, by decide, rfl, by decide⟩ .debug : Stack Value), [], [0]⟩ :=
    .unreserved (Stack.Session.Valid.of_empty _ _).sound .standard
  have filled := (((created.performed (.insert 10)).performed (.insert 20)).performed
    (.insert 30)).performed (.insert 40)
  have acquired := LawfulCustody.allocate filled.valid.owned.sound 8
  have covered := filled.disturbed acquired.sound fun some =>
    acquired.kept _ _ (filled.valid.owned.held some)
  obtain ⟨_, stack, _⟩ := @insert_all_or_nothing Value (Stack Value) UInt32 _ _ (Heap Value) _ _ _ _ _
    _ _ _
  refine ⟨_, covered, ?_, ?_⟩
  · obtain ⟨last, done, ran, counted, _, kept, destroyed, _⟩ :=
      (stack _ covered 50).refused (.aborted (.violation Stack.component _)) rfl
    exact ⟨_, last, done, ran, counted, (kept ⟨2, 0⟩).trans rfl, destroyed⟩
  · obtain ⟨id, next, ran⟩ := (stack _ (covered.performed (.remove ⟨1, 0⟩)) 50).slotted (by decide)
    have stored : (.ok id : Except Fault ResourceId) = .ok ⟨1, 1⟩ :=
      (congrArg Outcome.result ran).symm.trans rfl
    cases stored
    exact ⟨_, _, ran⟩

end Pool
end Allotment
