import Allotment.Proofs.Allocator.General
import Allotment.Proofs.Allocator.ProcessHeap
import Allotment.Proofs.Allocator.Stack
import Allotment.Proofs.Pool.Reuse
import Allotment.Proofs.SharedPool.Streams

namespace Allotment.SharedPool
open Allocator Custody Effect Pool
variable {Object σ T α : Type} [Allocator Object σ] [Element Object T]

namespace Session

/-- A move, and the holder of the handle it is made through. -/
structure Turn (T : Type) : Type 1 where
  through : Holder
  {α : Type}
  move : Move T α

/-- The move alone. -/
def Turn.made (turn : Turn T) : Σ α, Move T α := ⟨turn.α, turn.move⟩

def performAll (session : Session Object T σ) (turns : List (Turn T)) : Session Object T σ :=
  turns.foldl (fun session turn => session.perform turn.through turn.move) session

/-- The sessions differ at most in who has a handle. -/
structure Alike (first second : Session Object T σ) : Prop where
  shared : first.shared = second.shared
  host : first.host = second.host
  trace : first.trace = second.trace
  plain : first.plain = second.plain

namespace Alike
variable {first second : Session Object T σ}

omit [Allocator Object σ] [Element Object T] in
theorem refl (session : Session Object T σ) : session.Alike session := ⟨rfl, rfl, rfl, rfl⟩

theorem outcome (alike : first.Alike second) (move : Move T α) :
    first.outcome move = second.outcome move := by
  rw [Session.outcome, Session.outcome, alike.shared, alike.host]

theorem perform (alike : first.Alike second) (through other : Holder) (move : Move T α) :
    (first.perform through move).Alike (second.perform other move) := by
  rw [Session.perform, Session.perform, alike.outcome, alike.trace, alike.plain]
  exact ⟨rfl, rfl, rfl, rfl⟩

theorem performAll (alike : first.Alike second) {turns others : List (Turn T)}
    (same : turns.map Turn.made = others.map Turn.made) :
    (first.performAll turns).Alike (second.performAll others) := by
  induction turns generalizing first second others with
  | nil =>
    obtain rfl := List.map_eq_nil_iff.mp same.symm
    exact alike
  | cons turn turns ih =>
    cases others with
    | nil => cases same
    | cons other others =>
      obtain ⟨through, move⟩ := turn
      obtain ⟨through', move'⟩ := other
      obtain ⟨made, rest⟩ := List.cons.inj same
      cases made
      exact ih (alike.perform through through' move) rest

end Alike

/-- How the handles own the pool. -/
structure Ownership [Custody σ] (session : Session Object T σ) : Prop where
  counted : session.shared.handles = session.holders.length
  handleCount : session.answer .handleCount = .ok session.holders.length
  /-- The pool with one owner gives the same answers. -/
  asked : session.holders ≠ [] → ∀ {α : Type} (asked : Ask T α),
    session.answer (.ask asked) = asked.answer session.plain
  enrolled : session.holders ≠ [] → ∀ value : T,
    session.answer (.enroll value) = session.plain.answer (.insert value)
  /-- One of several handles is handed back, and nothing else happens. -/
  handedBack : 1 < session.holders.length →
    session.answer .destroy = .ok none ∧
      ∀ through, session.perform through .destroy = session
  /-- The only handle destroys the pool. The answer is the number of its values, unless the allocator does
  not take the slots back. -/
  destroyed : session.holders.length = 1 →
    session.answer .destroy =
      (session.shared.pool.giveBack.run session.host).result.map
        fun _ => some (session.shared.pool.toList (memory session.host)).length
  /-- With the only handle, dropped or destroyed, all handles are gone. -/
  last : ∀ through, session.holders = [through] →
    (session.perform through .drop).holders = [] ∧
      (session.perform through .destroy).holders = []
  tornDown : teardowns session.trace = if session.holders = [] then 1 else 0
  gaveBack : session.holders = [] →
    session.host = (session.plain.pool.giveBack.run session.plain.host).state
  /-- A request to free an identifier hands out the value if and only if nobody asked for that since the
  identifier was issued. -/
  firstFrees : ∀ entry earlier, (entry :: earlier) <:+ session.plain.log → ∀ id, entry.AsksToFree id →
    ((∃ value, entry.deed = .freed id value) ↔ Unfreed earlier id) ∧
      ∀ value, entry.deed = .freed id value ↔ held earlier id = some value
  /-- After a misuse that was caught, everything is as it was, and whatever is done next, through whichever
  handle, comes to what it would have come to. -/
  freeDead : ∀ id, session.shared.pool.get? (memory session.host) id = none →
    session.answer (.ask (.call (.remove id))) =
        .error (.aborted (.violation component (PoolMisuse.freeDead id).details)) ∧
      ∀ through, let after := session.perform through (.ask (.call (.remove id)))
        (after.shared, after.host, after.holders) =
            (session.shared, session.host, session.holders) ∧
          ∀ {α : Type} (move : Move T α), after.outcome move = session.outcome move

variable {session : Session Object T σ} {through : Holder}

private theorem outcome_remove_of_dead {id : ResourceId}
    (dead : session.shared.pool.get? (memory session.host) id = none) :
    session.outcome (.ask (.call (.remove id))) =
      ⟨.error (.aborted (.violation component (PoolMisuse.freeDead id).details)),
        (session.shared, session.host),
        [.logged (.usageViolation component (PoolMisuse.freeDead id).details)]⟩ := by
  have ran : (Call.remove id).operation.run (session.shared.pool, session.host) = _ :=
    run_remove_of_dead dead
  rw [outcome, Move.operation, onPool, Step.run_within, Ask.operation, ran]
  rfl

namespace Accounted
variable [Custody σ]

theorem asked (accounted : session.Accounted) (some : session.holders ≠ []) (asked : Ask T α) :
    session.answer (.ask asked) = asked.answer session.plain := by
  cases accounted with
  | ended => exact (some rfl).elim
  | alive => exact congrArg Outcome.result (outcome_ask _ _ _ asked)

theorem enrolled (accounted : session.Accounted) (some : session.holders ≠ []) (value : T) :
    session.answer (.enroll value) = session.plain.answer (.insert value) := by
  cases accounted with
  | ended => exact (some rfl).elim
  | @alive plain holders trace =>
    cases stored : plain.answer (.insert value) with
    | ok id => exact (congrArg Outcome.result (outcome_enroll_of_stored _ _ _ stored)).trans stored.symm
    | error fault =>
      exact (congrArg Outcome.result (outcome_enroll_of_refused _ _ _ stored)).trans stored.symm

theorem handedBack (accounted : session.Accounted) (several : 1 < session.holders.length) :
    session.answer .destroy = .ok none ∧ ∀ through, session.perform through .destroy = session := by
  cases accounted with
  | ended => cases several
  | @alive plain holders trace =>
    have several' : holders.length ≠ 1 := Nat.ne_of_gt several
    exact ⟨congrArg Outcome.result (outcome_destroy_of_several plain holders trace several'),
      fun through => perform_destroy_of_several plain holders trace several'⟩

theorem last (accounted : session.Accounted) (only : session.holders = [through]) :
    (session.perform through .drop).holders = [] ∧ (session.perform through .destroy).holders = [] := by
  cases accounted with
  | ended => cases only
  | @alive plain holders trace =>
    obtain rfl : holders = [through] := only
    rw [perform_drop_of_last, perform_destroy_of_last]
    exact ⟨rfl, rfl⟩

theorem tornDown (accounted : session.Accounted) :
    teardowns session.trace = if session.holders = [] then 1 else 0 := by
  cases accounted with
  | ended _ once => exact once
  | alive _ some whole => exact whole.trans (if_neg some).symm

theorem gaveBack (accounted : session.Accounted) (none : session.holders = []) :
    session.host = (session.plain.pool.giveBack.run session.plain.host).state := by
  cases accounted with
  | ended => rfl
  | alive _ some => exact (some none).elim

variable [LawfulAllocator Object σ] [LawfulElement Object T]

theorem destroyed (accounted : session.Accounted) (only : session.holders.length = 1) :
    session.answer .destroy = (session.shared.pool.giveBack.run session.host).result.map
      fun _ => some (session.shared.pool.toList (memory session.host)).length := by
  have count := accounted.plain_reachable.valid.length_toList
  cases accounted with
  | ended => cases only
  | @alive plain holders trace =>
    change (plain.pool.toList (memory plain.host)).length = plain.pool.length at count
    obtain ⟨through, rfl⟩ := List.length_eq_one_iff.mp only
    refine (congrArg Outcome.result (outcome_destroy_of_last plain trace through)).trans ?_
    rw [← count]
    rfl

theorem firstFrees (accounted : session.Accounted) {entry : Entry T} {earlier : List (Entry T)}
    (suffixes : (entry :: earlier) <:+ session.plain.log) {id : ResourceId}
    (asks : entry.AsksToFree id) :
    ((∃ value, entry.deed = .freed id value) ↔ Unfreed earlier id) ∧
      ∀ value, entry.deed = .freed id value ↔ held earlier id = some value := by
  have faithful := accounted.plain_reachable.valid.chronicles.faithful.of_suffix suffixes
  have settles := faithful.1 id asks
  refine ⟨?_, settles⟩
  rw [faithful.2.2.unfreed_iff]
  exact exists_congr settles

end Accounted

variable [Custody σ] [LawfulAllocator Object σ] [LawfulElement Object T] [DiscreetAllocator Object σ]

theorem Reachable.ownership (reached : session.Reachable) : session.Ownership := by
  have accounted := reached.accounted
  refine ⟨accounted.counted, congrArg Except.ok accounted.counted,
    fun some => accounted.asked some, accounted.enrolled,
    accounted.handedBack, accounted.destroyed, fun through => accounted.last, accounted.tornDown,
    accounted.gaveBack, fun entry earlier suffixes id => accounted.firstFrees suffixes, ?_⟩
  intro id dead
  have misused := outcome_remove_of_dead dead
  refine ⟨congrArg Outcome.result misused, fun through => ?_⟩
  rw [perform_of_outcome misused]
  exact ⟨rfl, fun move => rfl⟩

/-- The handles own the pool: what a move comes to depends on the moves before it, not on whose handles they
were made through. On the process heap the only handle always destroys the pool, and of a pool of open files
every stream and every copy of one is a handle. -/
theorem owned_by_handles {η τ : Type} [SystemHeap Object η] [HeapLedger η] [LawfulSystemHeap Object η]
    [Allocator BufferedFile τ] [Custody τ] [LawfulAllocator BufferedFile τ]
    [DiscreetAllocator BufferedFile τ] :
    (∀ session : Session Object T σ, session.Reachable → session.Ownership ∧
      ∀ turns others : List (Turn T), turns.map Turn.made = others.map Turn.made →
        ∀ {α : Type} (move : Move T α),
          (session.performAll turns).answer move = (session.performAll others).answer move) ∧
      (∀ session : Session Object T (General η), session.Reachable → session.holders.length = 1 →
        session.answer .destroy =
          .ok (some (session.shared.pool.toList (memory session.host)).length)) ∧
      ∀ tenancy : StreamPool.Tenancy τ, tenancy.Reachable →
        tenancy.state.shared.handles = tenancy.holders.length ∧
        teardowns tenancy.trace = (if tenancy.holders = [] then 1 else 0) ∧
        ∃ session : Session BufferedFile BufferedFile τ, session.Reachable ∧
          session.shared = tenancy.state.shared ∧ session.host = tenancy.state.host ∧
          session.holders = tenancy.holders ∧ teardowns session.trace = teardowns tenancy.trace := by
  refine ⟨fun session reached => ⟨reached.ownership, fun turns others same α move => ?_⟩,
    fun session reached only => ?_, fun tenancy reached => ?_⟩
  · rw [answer, answer, ((Alike.refl session).performAll same).outcome]
  · rw [reached.ownership.destroyed only, giveBack_general]
    rfl
  · obtain ⟨session, run, shared, host, holders, torn⟩ := reached.followed
    have counted := run.ownership.counted
    have tornDown := run.ownership.tornDown
    rw [shared, holders] at counted
    rw [holders, torn] at tornDown
    exact ⟨counted, tornDown, session, run, shared, host, holders, torn⟩

/-- A value is taken out through the handle of a stream, and is not there for the program either. The program
can destroy the pool once the stream is dropped; an opened file and its copy have a handle each. -/
theorem owned_by_handles_of_program_and_stream :
    (∃ session : Session Value UInt32 (General (Heap Value)), session.Reachable ∧
      session.holders = [.stream ⟨1, 0⟩, .program] ∧
      session.answer (.ask (.call (.remove? ⟨0, 0⟩))) = .ok none ∧
      session.answer .destroy = .ok none ∧
      (session.perform (.stream ⟨1, 0⟩) .drop).answer .destroy = .ok (some 1) ∧
      teardowns ((session.perform (.stream ⟨1, 0⟩) .drop).perform .program .destroy).trace = 1) ∧
    ∃ tenancy : StreamPool.Tenancy (Heap BufferedFile), tenancy.Reachable ∧
      tenancy.holders = [.stream ⟨0, 0⟩, .stream ⟨0, 0⟩, .program] ∧ tenancy.state.shared.handles = 3 := by
  have founded : Reachable (Session.mk (.ofPool (.empty UInt32 .standard)) ⟨false, Heap.empty false⟩
      [.program] []
      ⟨.empty UInt32 .standard, (⟨false, Heap.empty false⟩ : General (Heap Value)), [], [0]⟩) :=
    .founded (.unreserved (Heap.Orderly.empty false) .standard)
  have stored := founded.moved (List.mem_cons_self ..) (.ask (.call (.insert 10)))
  have enrolled := stored.moved (List.mem_cons_self ..) (.enroll 20)
  have taken := enrolled.moved (show Holder.stream ⟨1, 0⟩ ∈ _ from List.mem_cons_self ..)
    (.ask (.call (.remove? ⟨0, 0⟩)))
  have dropped := taken.moved (show Holder.stream ⟨1, 0⟩ ∈ _ from List.mem_cons_self ..) .drop
  have destroyed := dropped.moved (show Holder.program ∈ _ from List.mem_cons_self ..) .destroy
  have fresh : StreamPool.Tenancy.Reachable ⟨.empty (Heap.empty false) .empty, [.program], []⟩ :=
    .standard (Heap.Orderly.empty false) .empty
  have opened := fresh.called (List.mem_cons_self ..) (.openNew "a")
  have holders : (StreamPool.Tenancy.call ⟨.empty (Heap.empty false) .empty, [.program], []⟩ .program
      (.openNew "a")).holders = [.stream ⟨0, 0⟩, .program] := by decide +kernel
  have copied := opened.called (holders ▸ List.mem_cons_self ..) .clone
  obtain ⟨owned, heap, streams⟩ := @owned_by_handles Value (General (Heap Value)) UInt32 _ _ _ _ _ _
    (Heap Value) (Heap BufferedFile) _ _ _ _ _ _ _
  refine ⟨⟨_, taken, rfl, ?_, ?_, ?_, ?_⟩, _, copied, ?_, (streams _ copied).1.trans ?_⟩
  · exact (owned _ taken).1.asked (List.cons_ne_nil _ _) _
  · exact ((owned _ taken).1.handedBack (by decide)).1
  · exact heap _ dropped rfl
  · exact (owned _ destroyed).1.tornDown
  · exact congrArg (Holder.stream ⟨0, 0⟩ :: ·) holders
  · exact congrArg (List.length ∘ (Holder.stream ⟨0, 0⟩ :: ·)) holders

/-- The slots of a pool lie on a stack, and those of another one on top of them. The only handle does not
destroy the first pool: to give its slots back is a misuse of the stack. -/
theorem destroy_refused_of_covered_slots :
    ∃ session : Session Value UInt32 (Stack Value), session.Reachable ∧
      session.holders = [.program] ∧ (session.shared.pool.toList (memory session.host)).length = 1 ∧
      session.answer .destroy = .error (.aborted
        (.violation Stack.component (StackMisuse.releaseOutOfOrder 8 64).details)) ∧
      session.answer .destroy ≠ .ok (some 1) := by
  have founded : Reachable (Session.mk (.ofPool (.empty UInt32 .standard))
      (.empty ⟨256, 8, rfl, by decide, by decide, rfl, by decide⟩ .debug) [.program] []
      ⟨.empty UInt32 .standard,
        (.empty ⟨256, 8, rfl, by decide, by decide, rfl, by decide⟩ .debug : Stack Value), [], [0]⟩) :=
    .founded (.unreserved (Stack.Session.Valid.of_empty _ _).sound .standard)
  have stored := founded.moved (List.mem_cons_self ..) (.ask (.call (.insert 1)))
  have owned := stored.accounted.plain_reachable.valid.owned
  have above : (Pool.empty UInt32 .standard).Represents _ _ :=
    .of_empty (.empty slot_sized owned.sound) rfl .standard
  have spared := above.spares .empty (.insert 2)
  have covered := stored.disturbed (List.cons_ne_nil _ _) spared.sound fun some =>
    spared.kept _ _ (fun other => (other rfl).elim) (owned.held some)
  exact ⟨_, covered, rfl, rfl, rfl, fun answered => by cases answered⟩

end Session
end Allotment.SharedPool
