import Allotment.Pool.Shared
import Allotment.Proofs.Pool.Teardown
import Allotment.Proofs.Pool.Timeline

/-! Runs over one shared pool: handles come and go, and through any of them the pool may be used. Beside
the shared pool stands one with a single owner, on which the same calls are made. -/
namespace Allotment
open Allocator Custody Effect
variable {Object σ T α : Type} [Allocator Object σ] [Element Object T]

namespace Pool

/-- What can be asked of a pool. -/
inductive Ask (T : Type) : Type → Type 1 where
  | call {α : Type} (made : Call T α) : Ask T α
  | has (id : ResourceId) : Ask T Bool
  | length : Ask T Nat

namespace Ask

def operation : Ask T α → Step Object (Pool T × σ) α
  | call made => made.operation
  | has id => do
    let (pool, host) ← Step.get
    pure (pool.contains (memory host) id)
  | length => do
    let (pool, _) ← Step.get
    pure pool.length

/-- What a pool with one owner answers. -/
def answer (plain : Timeline T σ) (asked : Ask T α) : Except Fault α :=
  (asked.operation.run (plain.pool, plain.host)).result

/-- The pool with one owner after it was asked. -/
def after (plain : Timeline T σ) : Ask T α → Timeline T σ
  | call made => plain.perform made
  | _ => plain

private theorem state_eq (plain : Timeline T σ) (asked : Ask T α) :
    (asked.operation.run (plain.pool, plain.host)).state =
      ((asked.after plain).pool, (asked.after plain).host) := by
  cases asked <;> rfl

theorem endsNothing [DiscreetAllocator Object σ] (asked : Ask T α) :
    (asked.operation : Step Object (Pool T × σ) α).EndsNothing := by
  cases asked with
  | call made => exact made.endsNothing
  | has id => exact .of_quiet fun _ => rfl
  | length => exact .of_quiet fun _ => rfl

theorem reachable_after [Custody σ] {plain : Timeline T σ} (reached : plain.Reachable)
    (asked : Ask T α) : (asked.after plain).Reachable := by
  cases asked with
  | call made => exact reached.performed made
  | has id => exact reached
  | length => exact reached

end Ask
end Pool

namespace SharedPool
open Pool

/-- Who has a handle: the program itself, or a stream with the identifier of its file. -/
inductive Holder where
  | program
  | stream (id : ResourceId)
  deriving DecidableEq

/-- What may be done with a handle. -/
inductive Move (T : Type) : Type → Type 1 where
  | ask {α : Type} (asked : Ask T α) : Move T α
  /-- A value is stored, and what leads to it gets a handle of its own. -/
  | enroll (value : T) : Move T ResourceId
  | handleCount : Move T Nat
  | clone : Move T Unit
  | drop : Move T Unit
  | destroy : Move T (Option Nat)

namespace Move

def operation : Move T α → Step Object (SharedPool T × σ) α
  | ask asked => onPool asked.operation
  | enroll value => do
    let id ← onPool (Pool.insert value)
    SharedPool.clone
    pure id
  | handleCount => do
    let (shared, _) ← Step.get
    pure shared.handles
  | clone => SharedPool.clone
  | drop => SharedPool.drop
  | destroy => SharedPool.destroy

/-- The handles once a move was made through one of them. A handle that destroys the pool is used up,
whether or not it succeeds, unless it is handed back. -/
def holders (through : Holder) (held : List Holder) : Move T α → Except Fault α → List Holder
  | enroll _, .ok id => .stream id :: held
  | clone, _ => through :: held
  | drop, _ => held.erase through
  | destroy, .ok none => held
  | destroy, _ => held.erase through
  | _, _ => held

/-- The pool with one owner after a move: only what concerns the pool is done there. -/
def after (plain : Timeline T σ) : Move T α → Timeline T σ
  | ask asked => asked.after plain
  | enroll value => plain.perform (.insert value)
  | _ => plain

end Move

/-- A shared pool and its allocator, with all handles on the pool and what was done so far, and the pool
with one owner. -/
structure Session (Object T σ : Type) where
  shared : SharedPool T
  host : σ
  holders : List Holder
  trace : List (Effect Object)
  plain : Timeline T σ

namespace Session
variable {session : Session Object T σ} {through : Holder}

/-- What a move comes to. -/
def outcome (session : Session Object T σ) (move : Move T α) : Outcome Object (SharedPool T × σ) α :=
  move.operation.run (session.shared, session.host)

def answer (session : Session Object T σ) (move : Move T α) : Except Fault α :=
  (session.outcome move).result

/-- The session after a move through a handle. A fault is caught. -/
def perform (session : Session Object T σ) (through : Holder) (move : Move T α) : Session Object T σ :=
  let ⟨result, last, done⟩ := session.outcome move
  ⟨last.1, last.2, move.holders through session.holders result, session.trace ++ done,
    move.after session.plain⟩

/-- The sessions that begin with the handle on a pool, in whatever state the pool is. -/
inductive Reachable [Custody σ] : Session Object T σ → Prop where
  | founded {plain : Timeline T σ} (reached : plain.Reachable) :
      Reachable ⟨.ofPool plain.pool, plain.host, [.program], [], plain⟩
  | moved {session : Session Object T σ} {through : Holder} {α : Type} (reached : Reachable session)
      (held : through ∈ session.holders) (move : Move T α) : Reachable (session.perform through move)
  /-- Others use the allocator, but nobody writes to the block of the slots or releases it. -/
  | disturbed {session : Session Object T σ} {last : σ} (reached : Reachable session)
      (held : session.holders ≠ []) (sound : Sound last)
      (keeps : session.plain.pool.slots.capacity ≠ 0 →
        Keeps session.host last session.plain.pool.slots.address
          (Element.size (Slot T) * session.plain.pool.slots.capacity)) :
      Reachable { session with host := last, plain := { session.plain with host := last } }

/-- The session with these handles whose shared pool is as the pool with one owner. -/
def alive (plain : Timeline T σ) (holders : List Holder) (trace : List (Effect Object)) :
    Session Object T σ :=
  ⟨⟨plain.pool, holders.length⟩, plain.host, holders, trace, plain⟩

/-- The session without handles: the pool was torn down, and gave its slots back. -/
def ended (plain : Timeline T σ) (trace : List (Effect Object)) : Session Object T σ :=
  ⟨⟨{ plain.pool with slots.length := 0 }, 0⟩, (plain.pool.giveBack.run plain.host).state, [], trace,
    plain⟩

theorem perform_of_outcome {move : Move T α} {result : Except Fault α} {shared : SharedPool T} {host : σ}
    {done : List (Effect Object)} (ran : session.outcome move = ⟨result, (shared, host), done⟩) :
    session.perform through move =
      ⟨shared, host, move.holders through session.holders result, session.trace ++ done,
        move.after session.plain⟩ := by
  rw [perform, ran]

section Outcomes
variable (plain : Timeline T σ) (holders : List Holder) (trace : List (Effect Object))

theorem outcome_ask (asked : Ask T α) :
    (alive plain holders trace).outcome (.ask asked) =
      ⟨asked.answer plain,
        (⟨(asked.after plain).pool, holders.length⟩, (asked.after plain).host),
        (asked.operation.run (plain.pool, plain.host)).effects⟩ := by
  have state := asked.state_eq plain
  rw [outcome, Move.operation, onPool, Step.run_within, Outcome.mapState]
  change Outcome.mk _ (SharedPool.mk (asked.operation.run (plain.pool, plain.host)).state.1 _,
    (asked.operation.run (plain.pool, plain.host)).state.2) _ = _
  rw [state]
  rfl

theorem outcome_enroll_of_stored {value : T} {id : ResourceId}
    (stored : plain.answer (.insert value) = .ok id) :
    (alive plain holders trace).outcome (.enroll value) =
      ⟨.ok id, (⟨(plain.perform (.insert value)).pool, holders.length + 1⟩,
          (plain.perform (.insert value)).host),
        ((Pool.insert value).run (plain.pool, plain.host)).effects⟩ := by
  have ran := outcome_ask plain holders trace (.call (.insert value))
  rw [show Ask.answer plain (.call (.insert value)) = .ok id from stored] at ran
  have cloned := Step.run_bind_of_ok ran fun id => (do SharedPool.clone; pure id)
  exact cloned.trans (congrArg (Outcome.mk (.ok id) _) (List.append_nil _))

theorem outcome_enroll_of_refused {value : T} {fault : Fault}
    (refused : plain.answer (.insert value) = .error fault) :
    (alive plain holders trace).outcome (.enroll value) =
      ⟨.error fault, (⟨(plain.perform (.insert value)).pool, holders.length⟩,
          (plain.perform (.insert value)).host),
        ((Pool.insert value).run (plain.pool, plain.host)).effects⟩ := by
  have ran := outcome_ask plain holders trace (.call (.insert value))
  rw [show Ask.answer plain (.call (.insert value)) = .error fault from refused] at ran
  exact Step.run_bind_of_error ran fun id => (do SharedPool.clone; pure id)

private theorem outcome_drop_of_several (several : holders.length ≠ 1) :
    (alive plain holders trace).outcome .drop =
      ⟨.ok (), (⟨plain.pool, holders.length - 1⟩, plain.host), []⟩ := run_drop_of_several several

private theorem outcome_drop_of_last (through : Holder) :
    (alive plain [through] trace).outcome .drop =
      ⟨(plain.pool.giveBack.run plain.host).result,
        (⟨{ plain.pool with slots.length := 0 }, 0⟩, (plain.pool.giveBack.run plain.host).state),
        (Pool.dispose.run (plain.pool, plain.host)).effects⟩ := by
  have dropped : (alive plain [through] trace).outcome .drop = _ := run_drop_of_last rfl
  exact dropped.trans (congrArg _ (run_dispose plain.pool plain.host))

theorem outcome_destroy_of_several (several : holders.length ≠ 1) :
    (alive plain holders trace).outcome .destroy =
      ⟨.ok none, (⟨plain.pool, holders.length⟩, plain.host), []⟩ := run_destroy_of_several several

theorem outcome_destroy_of_last (through : Holder) :
    (alive plain [through] trace).outcome .destroy =
      ⟨(plain.pool.giveBack.run plain.host).result.map fun _ => some plain.pool.length,
        (⟨{ plain.pool with slots.length := 0 }, 0⟩, (plain.pool.giveBack.run plain.host).state),
        (Pool.dispose.run (plain.pool, plain.host)).effects⟩ := by
  have destroyed : (alive plain [through] trace).outcome .destroy =
      ((some <$> Pool.destroy).run (plain.pool, plain.host)).mapState
        fun inner => (⟨inner.1, 0⟩, inner.2) := run_destroy_of_last rfl
  rw [Step.run_map, run_destroy] at destroyed
  refine destroyed.trans ?_
  cases (plain.pool.giveBack.run plain.host).result <;> rfl

end Outcomes

section Moves
variable (plain : Timeline T σ) (holders : List Holder) (trace : List (Effect Object))

/-- What is asked of the shared pool is answered by the pool with one owner, and done there. -/
private theorem perform_ask (asked : Ask T α) :
    (alive plain holders trace).perform through (.ask asked) =
      alive (asked.after plain) holders
        (trace ++ (asked.operation.run (plain.pool, plain.host)).effects) := by
  rw [perform_of_outcome (outcome_ask plain holders trace asked)]
  cases asked <;> rfl

private theorem perform_enroll_of_stored {value : T} {id : ResourceId}
    (stored : plain.answer (.insert value) = .ok id) :
    (alive plain holders trace).perform through (.enroll value) =
      alive (plain.perform (.insert value)) (.stream id :: holders)
        (trace ++ ((Pool.insert value).run (plain.pool, plain.host)).effects) := by
  rw [perform_of_outcome (outcome_enroll_of_stored plain holders trace stored)]
  rfl

private theorem perform_enroll_of_refused {value : T} {fault : Fault}
    (refused : plain.answer (.insert value) = .error fault) :
    (alive plain holders trace).perform through (.enroll value) =
      alive (plain.perform (.insert value)) holders
        (trace ++ ((Pool.insert value).run (plain.pool, plain.host)).effects) := by
  rw [perform_of_outcome (outcome_enroll_of_refused plain holders trace refused)]
  rfl

private theorem perform_handleCount :
    (alive plain holders trace).perform through .handleCount = alive plain holders trace := by
  change alive plain holders (trace ++ []) = _
  rw [List.append_nil]

private theorem perform_clone :
    (alive plain holders trace).perform through .clone = alive plain (through :: holders) trace := by
  change alive plain (through :: holders) (trace ++ []) = _
  rw [List.append_nil]

private theorem perform_drop_of_several (held : through ∈ holders) (several : holders.length ≠ 1) :
    (alive plain holders trace).perform through .drop =
      alive plain (holders.erase through) trace := by
  rw [perform_of_outcome (outcome_drop_of_several plain holders trace several)]
  change Session.mk ⟨plain.pool, holders.length - 1⟩ plain.host (holders.erase through) (trace ++ [])
    plain = _
  rw [List.append_nil, ← List.length_erase_of_mem held]
  rfl

theorem perform_drop_of_last :
    (alive plain [through] trace).perform through .drop =
      ended plain (trace ++ (Pool.dispose.run (plain.pool, plain.host)).effects) := by
  rw [perform_of_outcome (outcome_drop_of_last plain trace through)]
  change Session.mk _ _ ([through].erase through) _ plain = _
  rw [List.erase_cons_head]
  rfl

theorem perform_destroy_of_several (several : holders.length ≠ 1) :
    (alive plain holders trace).perform through .destroy = alive plain holders trace := by
  rw [perform_of_outcome (outcome_destroy_of_several plain holders trace several)]
  change alive plain holders (trace ++ []) = _
  rw [List.append_nil]

theorem perform_destroy_of_last :
    (alive plain [through] trace).perform through .destroy =
      ended plain (trace ++ (Pool.dispose.run (plain.pool, plain.host)).effects) := by
  have used (result : Except Fault Unit) : Move.holders (T := T) through [through] .destroy
      (result.map fun _ => some plain.pool.length) = [] := by
    cases result <;> exact List.erase_cons_head ..
  rw [perform_of_outcome (outcome_destroy_of_last plain trace through)]
  change Session.mk _ _ (Move.holders through [through] .destroy _) _ plain = _
  rw [used]
  rfl

end Moves

/-- While there are handles, the pool is as the one with one owner and was not torn down. Once there are
none, it was torn down once, and its slots were given back. -/
inductive Accounted [Custody σ] : Session Object T σ → Prop where
  | alive {plain : Timeline T σ} {holders : List Holder} {trace : List (Effect Object)}
      (reached : plain.Reachable) (some : holders ≠ []) (whole : teardowns trace = 0) :
      Accounted (alive plain holders trace)
  | ended {plain : Timeline T σ} {trace : List (Effect Object)} (reached : plain.Reachable)
      (once : teardowns trace = 1) : Accounted (ended plain trace)

variable [Custody σ]

theorem Accounted.plain_reachable (accounted : session.Accounted) : session.plain.Reachable := by
  cases accounted with
  | alive reached => exact reached
  | ended reached => exact reached

theorem Accounted.counted (accounted : session.Accounted) :
    session.shared.handles = session.holders.length := by
  cases accounted <;> rfl

theorem Accounted.pool_eq (accounted : session.Accounted) (some : session.holders ≠ []) :
    session.shared.pool = session.plain.pool := by
  cases accounted with
  | alive => rfl
  | ended => exact (some rfl).elim

variable [DiscreetAllocator Object σ]

theorem Accounted.step (accounted : session.Accounted) (held : through ∈ session.holders)
    (move : Move T α) : (session.perform through move).Accounted := by
  cases accounted with
  | ended => cases held
  | @alive plain holders trace reached some whole =>
  change through ∈ holders at held
  have quiet {β : Type} (asked : Ask T β) :
      teardowns (trace ++ (asked.operation.run (plain.pool, plain.host)).effects) = 0 := by
    rw [teardowns_append, whole, asked.endsNothing.teardowns]
  have torn : teardowns (trace ++ (Pool.dispose.run (plain.pool, plain.host)).effects) = 1 := by
    rw [teardowns_append, whole, teardowns_dispose]
  cases move with
  | ask asked =>
    rw [perform_ask]
    exact .alive (asked.reachable_after reached) some (quiet asked)
  | enroll value =>
    have after := reached.performed (.insert value)
    cases stored : plain.answer (.insert value) with
    | ok id =>
      rw [perform_enroll_of_stored plain holders trace stored]
      exact .alive after (List.cons_ne_nil _ _) (quiet (.call (.insert value)))
    | error fault =>
      rw [perform_enroll_of_refused plain holders trace stored]
      exact .alive after some (quiet (.call (.insert value)))
  | handleCount =>
    rw [perform_handleCount]
    exact .alive reached some whole
  | clone =>
    rw [perform_clone]
    exact .alive reached (List.cons_ne_nil _ _) whole
  | drop =>
    by_cases last : holders.length = 1
    · obtain ⟨_, rfl⟩ := List.length_eq_one_iff.mp last
      obtain rfl := List.mem_singleton.mp held
      rw [perform_drop_of_last]
      exact .ended reached torn
    · rw [perform_drop_of_several plain holders trace held last]
      refine .alive reached (fun none => last ?_) whole
      have left := List.length_erase_of_mem held
      have any := List.length_pos_of_mem held
      rw [none, List.length_nil] at left
      omega
  | destroy =>
    by_cases last : holders.length = 1
    · obtain ⟨_, rfl⟩ := List.length_eq_one_iff.mp last
      obtain rfl := List.mem_singleton.mp held
      rw [perform_destroy_of_last]
      exact .ended reached torn
    · rw [perform_destroy_of_several plain holders trace last]
      exact .alive reached some whole

theorem Reachable.accounted (reached : session.Reachable) : session.Accounted := by
  induction reached with
  | @founded plain reached =>
    change (alive plain [.program] []).Accounted
    exact .alive reached (List.cons_ne_nil _ _) rfl
  | moved _ held move ih => exact ih.step held move
  | disturbed _ held sound keeps ih =>
    cases ih with
    | ended => exact (held rfl).elim
    | alive reached some whole => exact .alive (reached.disturbed sound keeps) some whole

end Session
end SharedPool
end Allotment
