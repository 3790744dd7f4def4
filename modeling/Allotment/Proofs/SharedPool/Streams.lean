import Allotment.Proofs.SharedPool.Session
import Allotment.Proofs.Stream.Session

/-! Streams as holders of handles. Every stream has a handle on the pool of open files, so what is done
with streams comes to moves on that pool. -/
namespace Allotment.StreamPool
open Allocator Custody Effect SharedPool
variable {α σ : Type} [Allocator BufferedFile σ]

/-- The handles once a call was made through one of them. A stream that is opened has a handle of its own,
and so has a copy; whoever uses or closes a stream keeps its handle. -/
def Call.holders (through : Holder) (held : List Holder) : Call α → Answer α → List Holder
  | clone, _ => through :: held
  | drop, _ => held.erase through
  | call, answer => (call.issued answer).map .stream ++ held

/-- A pool of streams, who has a handle on it, and what was done so far. -/
structure Tenancy (σ : Type) where
  state : StreamPool σ
  holders : List Holder
  trace : List (Effect BufferedFile)

namespace Tenancy

/-- The tenancy after a call through a handle, whatever it answered. -/
def call (tenancy : Tenancy σ) (through : Holder) (call : Call α) : Tenancy σ :=
  let ⟨answer, state, done⟩ := call.operation.run tenancy.state
  ⟨state, call.holders through tenancy.holders answer, tenancy.trace ++ done⟩

/-- The tenancy after a move on the pool of open files itself. -/
def move (tenancy : Tenancy σ) (through : Holder) (move : Move BufferedFile α) : Tenancy σ :=
  let ⟨answer, state, done⟩ := (onShared move.operation).run tenancy.state
  ⟨state, move.holders through tenancy.holders answer, tenancy.trace ++ done⟩

/-- The tenancies that begin with the program's handle on a new pool. Others change the disk and use the
allocator in between. -/
inductive Reachable [Custody σ] : Tenancy σ → Prop where
  | standard {host : σ} (sound : Sound host) (disk : Disk) :
      Reachable ⟨.empty host disk, [.program], []⟩
  | created {host : σ} {disk : Disk} {config : PoolConfig} {state : StreamPool σ}
      {done : List (Effect BufferedFile)} (sound : Sound host)
      (built : (create config).run (.empty host disk) = ⟨.ok (), state, done⟩) :
      Reachable ⟨state, [.program], []⟩
  | called {tenancy : Tenancy σ} {through : Holder} {α : Type} (reached : Reachable tenancy)
      (held : through ∈ tenancy.holders) (call : Call α) : Reachable (tenancy.call through call)
  | moved {tenancy : Tenancy σ} {through : Holder} {α : Type} (reached : Reachable tenancy)
      (held : through ∈ tenancy.holders) (move : Move BufferedFile α) :
      Reachable (tenancy.move through move)
  | elsewhere {tenancy : Tenancy σ} (reached : Reachable tenancy) (disk : Disk) :
      Reachable { tenancy with state := { tenancy.state with disk := disk } }
  | disturbed {tenancy : Tenancy σ} {host : σ} (reached : Reachable tenancy)
      (held : tenancy.holders ≠ []) (spared : tenancy.state.SparedBy host) :
      Reachable { tenancy with state := { tenancy.state with host := host } }

end Tenancy

section Runs
variable {state : StreamPool σ} {id : ResourceId} {stream : BufferedFile}

omit [Allocator BufferedFile σ] in
theorem run_shared_of_run {operation : Step BufferedFile (Pool BufferedFile × σ) α}
    {result : Except Fault α} {pool : Pool BufferedFile} {host : σ} {done : List (Effect BufferedFile)}
    (ran : operation.run (state.shared.pool, state.host) = ⟨result, (pool, host), done⟩) :
    (SharedPool.onPool operation).run (state.shared, state.host) =
      ⟨result, ((state.withPool pool host).shared, host), done⟩ := by
  rw [SharedPool.onPool, Step.run_within, ran]
  rfl

private theorem teardowns_close (live : state.file? id = some stream) :
    teardowns ((close id).run state).effects = 0 := by
  have found : state.shared.pool.get? (memory state.host) id = some stream := live
  rw [close, Step.run_bind_of_ok (run_onPool_of_run (Pool.run_remove?_of_live found)), teardowns_append]
  rfl

end Runs

variable [Custody σ]

/-- The pool of open files came about in a run over one shared pool, with these handles on it and as often
torn down. -/
structure Followed (shared : SharedPool BufferedFile) (host : σ) (holders : List Holder)
    (trace : List (Effect BufferedFile)) : Prop where
  run : ∃ session : SharedPool.Session BufferedFile BufferedFile σ, session.Reachable ∧
    session.shared = shared ∧ session.host = host ∧ session.holders = holders ∧
    teardowns session.trace = teardowns trace

namespace Followed
variable {shared shared' : SharedPool BufferedFile} {host host' : σ} {holders : List Holder}
  {trace done effects : List (Effect BufferedFile)} {through : Holder} {result : Except Fault α}

theorem founded {pool : Pool BufferedFile} (reached : Pool.Timeline.Reachable ⟨pool, host, [], [0]⟩) :
    Followed (.ofPool pool) host [.program] [] :=
  ⟨_, .founded reached, rfl, rfl, rfl, rfl⟩

theorem idle (followed : Followed shared host holders trace) :
    Followed shared host holders (trace ++ []) := by
  rwa [List.append_nil]

/-- A move through one of the handles, and as much torn down by it. -/
theorem moved (followed : Followed shared host holders trace) (held : through ∈ holders)
    (move : Move BufferedFile α) (ran : move.operation.run (shared, host) = ⟨result, (shared', host'), done⟩)
    (same : teardowns done = teardowns effects) :
    Followed shared' host' (move.holders through holders result) (trace ++ effects) := by
  obtain ⟨session, reached, rfl, rfl, rfl, torn⟩ := followed
  refine ⟨_, reached.moved held move, ?_⟩
  rw [Session.perform_of_outcome ran]
  exact ⟨rfl, rfl, rfl, by rw [teardowns_append, teardowns_append, torn, same]⟩

end Followed

namespace Followed
variable {state : StreamPool σ} {holders : List Holder} {trace : List (Effect BufferedFile)}
  {through : Holder}

/-- A file that was opened is enrolled: the stream on it has a handle, and there is none without it. -/
theorem register (followed : Followed state.shared state.host holders trace) (held : through ∈ holders)
    (file : OpenFile) (name : String) :
    let ran := (StreamPool.register file name).run state
    Followed ran.state.shared ran.state.host ((Answer.streams ran.result).map .stream ++ holders)
      (trace ++ ran.effects) := by
  intro ran
  rcases inserted : (Pool.insert (.ofFile file name)).run (state.shared.pool, state.host) with
    ⟨fault | id, ⟨pool, host⟩, done⟩
  · have enrolled : (Move.enroll (.ofFile file name)).operation.run (state.shared, state.host) = _ :=
      Step.run_bind_of_error (run_shared_of_run inserted) _
    have registered : ran = _ := Step.run_bind_of_ok (Step.run_attempt_of_run (run_onPool_of_run inserted)) _
    rw [registered]
    cases fault <;> exact followed.moved held _ enrolled (teardowns_append done []).symm
  · have enrolled : (Move.enroll (.ofFile file name)).operation.run (state.shared, state.host) = _ :=
      Step.run_bind_of_ok (run_shared_of_run inserted) _
    have registered : ran = _ := Step.run_bind_of_ok (Step.run_attempt_of_run (run_onPool_of_run inserted)) _
    rw [registered]
    refine followed.moved held _ enrolled ?_
    rw [teardowns_append, teardowns_append]
    rfl

theorem asked (followed : Followed state.shared state.host holders trace) (held : through ∈ holders)
    (call : Pool.Call BufferedFile α) {result : Except Fault α} {pool : Pool BufferedFile} {host : σ}
    {done effects : List (Effect BufferedFile)}
    (ran : call.operation.run (state.shared.pool, state.host) = ⟨result, (pool, host), done⟩)
    (same : teardowns done = teardowns effects) :
    Followed (state.withPool pool host).shared host holders (trace ++ effects) :=
  followed.moved held (.ask (.call call)) (run_shared_of_run ran) same

/-- Whatever is done with the streams, it is done in a run over one shared pool. -/
theorem called (followed : Followed state.shared state.host holders trace) (held : through ∈ holders)
    (call : Call α) :
    Followed (call.operation.run state).state.shared (call.operation.run state).state.host
      (call.holders through holders (call.operation.run state).result)
      (trace ++ (call.operation.run state).effects) := by
  cases call with
  | openExisting name =>
    cases found : state.disk.openExisting name with
    | error error =>
      rw [Call.operation, run_openExisting_of_error found]
      exact followed.idle
    | ok file =>
      rw [Call.operation, run_openExisting_of_ok found]
      exact followed.register held file name
  | openNew name =>
    cases found : state.disk.create name with
    | error error =>
      rw [Call.operation, run_openNew_of_error found]
      exact followed.idle
    | ok made =>
      obtain ⟨file, disk⟩ := made
      rw [Call.operation, run_openNew_of_ok found]
      exact @register σ _ _ { state with disk := disk } holders trace through followed held file name
  | clone => exact followed.moved held .clone rfl rfl
  | drop =>
    rw [Call.operation, Step.run_map]
    exact followed.moved held .drop rfl rfl
  | use id asked =>
    cases live : state.file? id with
    | none =>
      rw [Call.operation, run_onFile_of_closed live]
      exact followed.idle
    | some stream =>
      rw [Call.operation, run_onFile_of_open live]
      generalize asked.operation (stream, state.disk) = changed
      have found : state.shared.pool.get? (memory state.host) id = some stream := live
      let change (old : BufferedFile) := (changed.2.1, old)
      have ran : (Pool.Call.update id change).operation.run (state.shared.pool, state.host) = _ :=
        Pool.run_update_of_live found change
      exact followed.asked held _ ran rfl
  | close id =>
    cases live : state.file? id with
    | none =>
      rw [Call.operation, run_close_of_closed live]
      exact followed.idle
    | some stream =>
      have found : state.shared.pool.get? (memory state.host) id = some stream := live
      have removed : (Pool.Call.remove? id).operation.run (state.shared.pool, state.host) = _ :=
        Pool.run_remove?_of_live found
      rw [Call.operation, (run_close_of_open live).2]
      exact followed.asked held _ removed (teardowns_close live).symm

end Followed

/-- In every tenancy the handles are those of a run over one shared pool. -/
theorem Tenancy.Reachable.followed [DiscreetAllocator BufferedFile σ] {tenancy : Tenancy σ}
    (reached : tenancy.Reachable) :
    Followed tenancy.state.shared tenancy.state.host tenancy.holders tenancy.trace := by
  induction reached with
  | standard sound disk => exact .founded (.unreserved sound .standard)
  | @created host disk config state done sound built =>
    rcases ran : (Pool.create config).run ((empty host disk).shared.pool, host) with
      ⟨result, ⟨pool, last⟩, done'⟩
    rw [create, run_onPool_of_run ran] at built
    cases built
    exact .founded (.reserved sound ran)
  | called _ held call ih => exact ih.called held call
  | moved _ held move ih => exact ih.moved held move rfl rfl
  | elsewhere _ disk ih => exact ih
  | @disturbed tenancy host _ held spared ih =>
    obtain ⟨⟨shared, before, disk⟩, holders, trace⟩ := tenancy
    obtain ⟨session, reached, rfl, rfl, rfl, torn⟩ := ih
    have keeps := spared.keeps
    rw [reached.accounted.pool_eq held] at keeps
    exact ⟨_, reached.disturbed held spared.sound keeps, rfl, rfl, rfl, torn⟩

end Allotment.StreamPool
