import Allotment.Stream.Basic
import Allotment.Proofs.Pool.Refinement

namespace Allotment.StreamPool
open Allocator Custody
variable {α σ : Type}

/-- What can be asked of an open file. -/
inductive Use : Type → Type where
  | path : Use String
  | read (count : Nat) : Use (List UInt8)
  | readText : Use String
  | write (bytes : List UInt8) : Use Unit
  | writePieces (pieces : List (List UInt8)) : Use Unit
  | flush : Use Unit
  | seek (whence : Whence) (distance : Int) : Use Nat

/-- The operation behind a use. Of what was read only the bytes count, not how they come in runs. -/
def Use.operation : Use α → FileStep α
  | path => fun state => (.ok state.1.path, state)
  | read count => fun state =>
    ((BufferedFile.read count state).1.map Run.values, (BufferedFile.read count state).2)
  | readText => BufferedFile.readText
  | write bytes => BufferedFile.write bytes
  | writePieces pieces => BufferedFile.writePieces pieces
  | flush => BufferedFile.flush
  | seek whence distance => BufferedFile.seek whence distance

theorem path_eq [Allocator BufferedFile σ] (id : ResourceId) :
    (path id : StreamStep σ _) = onFile id Use.path.operation := rfl

/-- What may be called while the pool lives. Slots are freed by closing alone. -/
inductive Call : Type → Type 1 where
  | openExisting (name : String) : Call ResourceId
  | openNew (name : String) : Call ResourceId
  /-- Another handle on the pool: a copy of a stream, or of the pool itself. -/
  | clone : Call Unit
  | drop : Call Unit
  | use {α : Type} (id : ResourceId) (asked : Use α) : Call α
  | close (id : ResourceId) : Call Unit

/-- What a call answers, unless it ends in a fault. -/
abbrev Answer (α : Type) := Except Fault (Except StreamError α)

/-- The answer is that a stream is closed. -/
def Answer.saysClosed : Answer α → Bool
  | .ok (.error (.closed _)) => true
  | _ => false

/-- The stream in the answer of a call that opens one. -/
def Answer.streams : Answer ResourceId → List ResourceId
  | .ok (.ok id) => [id]
  | _ => []

namespace Call

def operation [Allocator BufferedFile σ] : Call α → StreamStep σ (Except StreamError α)
  | openExisting name => StreamPool.openExisting name
  | openNew name => StreamPool.openNew name
  | clone => Except.ok <$> onShared SharedPool.clone
  | drop => Except.ok <$> onShared SharedPool.drop
  | use id asked => onFile id asked.operation
  | close id => StreamPool.close id

/-- The stream that a call goes through a copy of. -/
def stream? : Call α → Option ResourceId
  | use id _ => some id
  | close id => some id
  | _ => none

/-- A copy exists only of a stream that was opened, and the pool lives as long as a handle does. -/
def Permitted (state : StreamPool σ) (streams : List ResourceId) : Call α → Prop
  | drop => 1 < state.shared.handles
  | use id _ => id ∈ streams
  | close id => id ∈ streams
  | _ => True

/-- The stream that a call opened. -/
def issued : Call α → Answer α → List ResourceId
  | openExisting _, answer => answer.streams
  | openNew _, answer => answer.streams
  | _, _ => []

/-- The entry of a call in a log of all closes. -/
def closing : Call α → Answer α → List (ResourceId × Answer Unit)
  | close id, answer => [(id, answer)]
  | _, _ => []

theorem issued_of_error (call : Call α) (error : StreamError) :
    call.issued (.ok (.error error)) = [] := by
  cases call <;> rfl

theorem closing_of_no_stream {call : Call α} (through : call.stream? = none) (answer : Answer α) :
    call.closing answer = [] := by
  cases call with
  | close id => cases through
  | _ => rfl

/-- The file a call opens, the name it does so under, and the disk once the file is open. -/
def opens? (disk : Disk) : Call α → Option (OpenFile × String × Disk)
  | openExisting name =>
    match disk.openExisting name with
    | .ok file => some (file, name, disk)
    | .error _ => none
  | openNew name =>
    match disk.create name with
    | .ok (file, larger) => some (file, name, larger)
    | .error _ => none
  | _ => none

theorem no_stream_of_opens {call : Call α} {disk : Disk} {file : OpenFile × String × Disk}
    (opens : call.opens? disk = some file) : call.stream? = none := by
  cases call with
  | use id asked => cases opens
  | close id => cases opens
  | _ => rfl

end Call

variable [Allocator BufferedFile σ]

/-- The slots of the pool lie in a block of its own, and this is their table. -/
structure Represents [Custody σ] (state : StreamPool σ) (table : SlotTable BufferedFile) : Prop where
  pool : state.shared.pool.Represents state.host table
  valid : table.Valid

/-- The state with another pool and allocator. -/
def withPool (state : StreamPool σ) (pool : Pool BufferedFile) (host : σ) : StreamPool σ :=
  { state with shared := { state.shared with pool := pool }, host := host }

section Runs
variable {state : StreamPool σ} {id : ResourceId} {stream : BufferedFile}

omit [Allocator BufferedFile σ] in
theorem run_onPool_of_run {operation : Step BufferedFile (Pool BufferedFile × σ) α}
    {result : Except Fault α} {pool : Pool BufferedFile} {host : σ} {done : List (Effect BufferedFile)}
    (ran : operation.run (state.shared.pool, state.host) = ⟨result, (pool, host), done⟩) :
    (onPool operation).run state = ⟨result, state.withPool pool host, done⟩ := by
  rw [onPool, onShared, SharedPool.onPool, Step.run_within, Step.run_within, ran]
  rfl

theorem run_openExisting_of_ok {name : String} {file : OpenFile}
    (found : state.disk.openExisting name = .ok file) :
    (openExisting name).run state = (register file name).run state := by
  rw [openExisting, Step.run_bind_of_quiet (Step.run_get _), found]

theorem run_openExisting_of_error {name : String} {error : DiskError}
    (failed : state.disk.openExisting name = .error error) :
    (openExisting name).run state = ⟨.ok (.error (.disk error)), state, []⟩ := by
  rw [openExisting, Step.run_bind_of_quiet (Step.run_get _), failed]
  rfl

theorem run_openNew_of_ok {name : String} {file : OpenFile} {disk : Disk}
    (made : state.disk.create name = .ok (file, disk)) :
    (openNew name).run state = (register file name).run { state with disk := disk } := by
  rw [openNew, Step.run_bind_of_quiet (Step.run_get _), made]
  exact Step.run_bind_of_quiet (Step.run_set _ _) _

theorem run_openNew_of_error {name : String} {error : DiskError}
    (failed : state.disk.create name = .error error) :
    (openNew name).run state = ⟨.ok (.error (.disk error)), state, []⟩ := by
  rw [openNew, Step.run_bind_of_quiet (Step.run_get _), failed]
  rfl

theorem run_onFile_of_closed (closed : state.file? id = none) (operation : FileStep α) :
    (onFile id operation).run state = ⟨.ok (.error (.closed id)), state, []⟩ := by
  rw [onFile, Step.run_bind_of_quiet (Step.run_get _), closed]
  rfl

theorem run_close_of_closed (closed : state.file? id = none) :
    (close id).run state = ⟨.ok (.error (.closed id)), state, []⟩ := by
  have nothing := run_onPool_of_run (Pool.run_remove?_of_dead closed)
  rw [close, Step.run_bind_of_quiet nothing]
  rfl

/-- The state once an operation left a stream and the disk as `after`. -/
def stored (state : StreamPool σ) (id : ResourceId) (after : BufferedFile × Disk) : StreamPool σ :=
  { state.withPool state.shared.pool
      (state.shared.pool.written state.host id.index ⟨id.generation, .occupied after.1⟩) with
    disk := after.2 }

theorem run_onFile_of_open (live : state.file? id = some stream) (operation : FileStep α) :
    (onFile id operation).run state =
      ⟨.ok ((operation (stream, state.disk)).1.mapError .disk),
        state.stored id (operation (stream, state.disk)).2, []⟩ := by
  have found : state.shared.pool.get? (memory state.host) id = some stream := live
  have ran := Pool.run_update_of_live found fun old => ((operation (stream, state.disk)).2.1, old)
  have replaced := run_onPool_of_run ran
  rw [onFile, Step.run_bind_of_quiet (Step.run_get _), live]
  dsimp only
  rw [Pool.replace, Step.run_bind_of_quiet replaced]
  rfl

/-- The state once a stream is closed and its file flushed. -/
def freed (state : StreamPool σ) (id : ResourceId) (stream : BufferedFile) : StreamPool σ :=
  let pool := state.shared.pool
  let flushed := (BufferedFile.flush (stream, state.disk)).2
  { state.withPool { pool with freeHead := some id.index, length := pool.length - 1 }
      (pool.written state.host id.index ⟨id.generation + 1, .free pool.freeHead⟩) with
    disk := flushed.1.closeOn flushed.2 }

theorem run_close_of_open (live : state.file? id = some stream) :
    ((close id).run state).result =
        .ok ((BufferedFile.flush (stream, state.disk)).1.mapError .disk) ∧
      ((close id).run state).state = state.freed id stream := by
  have removed := run_onPool_of_run (Pool.run_remove?_of_live live)
  rw [close, Step.run_bind_of_ok removed]
  exact ⟨rfl, rfl⟩

end Runs

variable [Custody σ]

/-- Others used the allocator, but nobody wrote to the block of the slots or released it. -/
structure SparedBy (state : StreamPool σ) (host : σ) : Prop where
  sound : Sound host
  keeps : state.shared.pool.slots.capacity ≠ 0 → Keeps state.host host state.shared.pool.slots.address
    (Element.size (Slot BufferedFile) * state.shared.pool.slots.capacity)

namespace Represents
variable {state : StreamPool σ} {table : SlotTable BufferedFile} {id : ResourceId}
  {stream : BufferedFile}

theorem file?_eq (represents : state.Represents table) (id : ResourceId) :
    state.file? id = table.get? id := represents.pool.get? id

/-- What others do with the rest of the allocator does not matter. -/
theorem disturbed (represents : state.Represents table) {host : σ} (spared : state.SparedBy host) :
    ({ state with host := host } : StreamPool σ).Represents table := by
  have preserved := represents.pool.owned.preserved_of_keeps spared.sound spared.keeps
  refine ⟨⟨preserved.owned, ?_⟩, represents.valid⟩
  rw [← represents.pool.table_eq]
  exact congrArg (SlotTable.mk · state.shared.pool.freeHead state.shared.pool.length) preserved.toList

theorem stored [LawfulAllocator BufferedFile σ] (represents : state.Represents table)
    (live : table.get? id = some stream)
    (changed : BufferedFile × Disk) :
    (state.stored id changed).Represents (table.overwritten id changed.1) :=
  ⟨represents.pool.overwritten live changed.1, represents.valid.overwritten live changed.1⟩

theorem freed [LawfulAllocator BufferedFile σ] (represents : state.Represents table)
    (live : table.get? id = some stream) :
    (state.freed id stream).Represents (table.removed id) :=
  ⟨represents.pool.removed live, represents.valid.removed live⟩

/-- Once a stream is closed its slot is free and the next to be used, and every other stream has the
file it had. -/
theorem slot_freed [LawfulAllocator BufferedFile σ] (represents : state.Represents table)
    (live : state.file? id = some stream) :
    (state.freed id stream).isOpen id = false ∧
      (state.freed id stream).shared.pool.freeHead = some id.index ∧
      (state.freed id stream).shared.pool.length + 1 = state.shared.pool.length ∧
      ∀ other, other ≠ id → (state.freed id stream).file? other = state.file? other := by
  have alive := (represents.file?_eq id).symm.trans live
  have positive := represents.valid.length_pos alive
  have removed := represents.freed alive
  refine ⟨?_, rfl, ?_, ?_⟩
  · rw [isOpen, removed.file?_eq, SlotTable.get?_removed alive, if_pos rfl]
    rfl
  · rw [← represents.pool.length_eq] at positive
    exact Nat.sub_add_cancel positive
  · intro other distinct
    rw [removed.file?_eq, SlotTable.get?_removed alive, if_neg distinct, represents.file?_eq]

end Represents

/-- All that a call may do to the table and to the disk. -/
inductive Transition (state : StreamPool σ) (table : SlotTable BufferedFile) :
    {α : Type} → Call α → Answer α → StreamPool σ → Prop where
  | opened {α : Type} {call : Call α} {answer : Answer α} {file : OpenFile} {name : String}
      {id : ResourceId} {larger : SlotTable BufferedFile} {after : StreamPool σ}
      (issued : call.issued answer = [id]) (other : answer.saysClosed = false)
      (opens : call.opens? state.disk = some (file, name, after.disk))
      (inserted : table.Inserted (.ofFile file name) id larger)
      (represents : after.Represents larger) : Transition state table call answer after
  /-- A handle came or went, or nothing was opened; a file that was emptied for that stays empty. -/
  | kept {α : Type} {call : Call α} {answer : Answer α} {after : StreamPool σ}
      (through : call.stream? = none) (issued : call.issued answer = [])
      (other : answer.saysClosed = false)
      (disk : after.disk = state.disk ∨
        ∃ file name, call.opens? state.disk = some (file, name, after.disk))
      (represents : after.Represents table) : Transition state table call answer after
  | closed {α : Type} {call : Call α} {id : ResourceId} (through : call.stream? = some id)
      (dead : table.get? id = none) : Transition state table call (.ok (.error (.closed id))) state
  | used {α : Type} {id : ResourceId} {asked : Use α} {stream : BufferedFile}
      (live : table.get? id = some stream) :
      Transition state table (.use id asked)
        (.ok ((asked.operation (stream, state.disk)).1.mapError .disk))
        (state.stored id (asked.operation (stream, state.disk)).2)
  | freed {id : ResourceId} {stream : BufferedFile} (live : table.get? id = some stream) :
      Transition state table (.close id)
        (.ok ((BufferedFile.flush (stream, state.disk)).1.mapError .disk)) (state.freed id stream)

section Transitions
variable [LawfulAllocator BufferedFile σ] {state : StreamPool σ} {table : SlotTable BufferedFile}

/-- A file that was opened is put into the pool, or closed again. -/
theorem register_cases (represents : state.Represents table) (file : OpenFile) (name : String) :
    (∃ id larger after done, (register file name).run state = ⟨.ok (.ok id), after, done⟩ ∧
        table.Inserted (.ofFile file name) id larger ∧ after.Represents larger ∧
        after.disk = state.disk) ∨
      ∃ answer after done, (register file name).run state = ⟨answer, after, done⟩ ∧
        Answer.streams answer = [] ∧ Answer.saysClosed answer = false ∧
        after.Represents table ∧ after.disk = state.disk := by
  rcases represents.pool.insert represents.valid (.ofFile file name) with
    ⟨id, larger, pool, host, done, ran, inserted, placed⟩ | ⟨fault, host, done, ran, kept, _⟩
  · left
    have stored := Step.run_attempt_of_run (run_onPool_of_run ran)
    rw [register, Step.run_bind_of_ok stored]
    exact ⟨id, larger, _, _, rfl, inserted, ⟨placed, inserted.valid represents.valid⟩, rfl⟩
  · right
    have tried := Step.run_attempt_of_run (run_onPool_of_run ran)
    rw [register, Step.run_bind_of_ok tried]
    cases fault with
    | refused error => exact ⟨_, _, _, rfl, rfl, rfl, ⟨kept, represents.valid⟩, rfl⟩
    | aborted cause => exact ⟨_, _, _, rfl, rfl, rfl, ⟨kept, represents.valid⟩, rfl⟩

theorem transition_of_register {call : Call ResourceId} {file : OpenFile} {name : String}
    {disk : Disk} (represents : state.Represents table) (through : call.stream? = none)
    (issued : ∀ answer, call.issued answer = answer.streams)
    (opens : call.opens? state.disk = some (file, name, disk))
    (same : call.operation.run state = (register file name).run { state with disk := disk }) :
    Transition state table call (call.operation.run state).result
      (call.operation.run state).state := by
  have ready : ({ state with disk := disk } : StreamPool σ).Represents table :=
    ⟨represents.pool, represents.valid⟩
  rw [same]
  rcases register_cases ready file name with
    ⟨id, larger, after, done, ran, inserted, placed, rfl⟩ |
    ⟨answer, after, done, ran, none, other, kept, rfl⟩
  · rw [ran]
    exact .opened (issued _) rfl opens inserted placed
  · rw [ran]
    exact .kept through ((issued answer).trans none) other (.inr ⟨file, name, opens⟩) kept

/-- Whatever is called, one of these comes of it. The last handle on the pool is not dropped. -/
theorem transition (represents : state.Represents table) {call : Call α}
    {streams : List ResourceId} (permitted : call.Permitted state streams) :
    Transition state table call (call.operation.run state).result
      (call.operation.run state).state := by
  cases call with
  | openExisting name =>
    cases found : state.disk.openExisting name with
    | error error =>
      rw [Call.operation, run_openExisting_of_error found]
      exact .kept rfl rfl rfl (.inl rfl) represents
    | ok file =>
      exact transition_of_register represents rfl (fun _ => rfl) (by rw [Call.opens?, found])
        (run_openExisting_of_ok found)
  | openNew name =>
    cases found : state.disk.create name with
    | error error =>
      rw [Call.operation, run_openNew_of_error found]
      exact .kept rfl rfl rfl (.inl rfl) represents
    | ok made =>
      obtain ⟨file, disk⟩ := made
      exact transition_of_register represents rfl (fun _ => rfl) (by rw [Call.opens?, found])
        (run_openNew_of_ok found)
  | clone => exact .kept rfl rfl rfl (.inl rfl) ⟨represents.pool, represents.valid⟩
  | drop =>
    have several : state.shared.handles ≠ 1 := Nat.ne_of_gt permitted
    have ran : (onShared SharedPool.drop).run state =
        ⟨.ok (), { state with shared.handles := state.shared.handles - 1 }, []⟩ := by
      rw [onShared, Step.run_within, SharedPool.run_drop_of_several several]
      rfl
    rw [Call.operation, Step.run_map, ran]
    exact .kept rfl rfl rfl (.inl rfl) ⟨represents.pool, represents.valid⟩
  | use id asked =>
    have found := represents.file?_eq id
    cases live : table.get? id with
    | none =>
      rw [Call.operation, run_onFile_of_closed (found.trans live)]
      exact .closed rfl live
    | some stream =>
      rw [Call.operation, run_onFile_of_open (found.trans live)]
      exact .used live
  | close id =>
    have found := represents.file?_eq id
    cases live : table.get? id with
    | none =>
      rw [Call.operation, run_close_of_closed (found.trans live)]
      exact .closed rfl live
    | some stream =>
      obtain ⟨result, last⟩ := run_close_of_open (found.trans live)
      rw [Call.operation, result, last]
      exact .freed live

omit [LawfulAllocator BufferedFile σ] in
theorem Transition.of_issued {call : Call α} {answer : Answer α} {after : StreamPool σ}
    {id : ResourceId} (moved : Transition state table call answer after)
    (issued : call.issued answer = [id]) :
    ∃ file name larger, call.opens? state.disk = some (file, name, after.disk) ∧
      table.Inserted (.ofFile file name) id larger ∧ after.Represents larger := by
  cases moved with
  | opened issued' _ opens inserted represents =>
    rw [issued'] at issued
    cases issued
    exact ⟨_, _, _, opens, inserted, represents⟩
  | kept _ none =>
    rw [none] at issued
    cases issued
  | closed =>
    rw [Call.issued_of_error] at issued
    cases issued
  | used => cases issued
  | freed => cases issued

end Transitions

/-- A pool of streams, with the streams opened and the closes performed on it, the latest first. -/
structure Session (σ : Type) where
  state : StreamPool σ
  streams : List ResourceId
  closes : List (ResourceId × Answer Unit)

namespace Session

def answer (session : Session σ) (call : Call α) : Answer α := (call.operation.run session.state).result

/-- The session after a call, whatever it answered. -/
def perform (session : Session σ) (call : Call α) : Session σ :=
  ⟨(call.operation.run session.state).state, call.issued (session.answer call) ++ session.streams,
    call.closing (session.answer call) ++ session.closes⟩

/-- The sessions that begin with a new pool, on an allocator in any state it can come to and over any
disk. -/
inductive Reachable : Session σ → Prop where
  | standard {host : σ} (sound : Sound host) (disk : Disk) : Reachable ⟨.empty host disk, [], []⟩
  | created {host : σ} {disk : Disk} {config : PoolConfig} {state : StreamPool σ}
      {done : List (Effect BufferedFile)} (sound : Sound host)
      (built : (create config).run (.empty host disk) = ⟨.ok (), state, done⟩) :
      Reachable ⟨state, [], []⟩
  | performed {session : Session σ} {α : Type} (reached : Reachable session) (call : Call α)
      (permitted : call.Permitted session.state session.streams) :
      Reachable (session.perform call)
  | disturbed {session : Session σ} {host : σ} (reached : Reachable session)
      (spared : session.state.SparedBy host) :
      Reachable { session with state := { session.state with host := host } }

end Session

variable [LawfulAllocator BufferedFile σ]

omit [LawfulAllocator BufferedFile σ] in
theorem represents_of_standard {host : σ} (sound : Sound host) (disk : Disk) :
    (empty host disk).Represents ⟨[], none, 0⟩ :=
  ⟨⟨.empty Pool.slot_sized sound, rfl⟩, .empty⟩

theorem represents_of_create {host : σ} {disk : Disk} {config : PoolConfig} {state : StreamPool σ}
    {done : List (Effect BufferedFile)} (sound : Sound host)
    (built : (create config).run (.empty host disk) = ⟨.ok (), state, done⟩) :
    ∃ table, state.Represents table ∧ (Registry.blank BufferedFile).Describes table := by
  rcases ran : (Pool.create config).run ((empty host disk).shared.pool, host) with
    ⟨result, ⟨pool, last⟩, done'⟩
  rw [create, run_onPool_of_run ran] at built
  cases built
  exact ⟨_, ⟨.of_create sound ran, .empty⟩, .blank⟩

theorem Transition.represents {state after : StreamPool σ} {table : SlotTable BufferedFile}
    {call : Call α} {answer : Answer α} (transition : Transition state table call answer after)
    (represents : state.Represents table) : ∃ table', after.Represents table' := by
  cases transition with
  | opened _ _ _ _ placed => exact ⟨_, placed⟩
  | kept _ _ _ _ kept => exact ⟨_, kept⟩
  | closed => exact ⟨_, represents⟩
  | used live => exact ⟨_, represents.stored live _⟩
  | freed live => exact ⟨_, represents.freed live⟩

theorem Session.Reachable.represents {session : Session σ} (reached : session.Reachable) :
    ∃ table, session.state.Represents table := by
  induction reached with
  | standard sound disk => exact ⟨_, represents_of_standard sound disk⟩
  | created sound built =>
    obtain ⟨table, represents, _⟩ := represents_of_create sound built
    exact ⟨table, represents⟩
  | performed _ call permitted ih =>
    obtain ⟨table, represents⟩ := ih
    exact (transition represents permitted).represents represents
  | disturbed _ spared ih =>
    obtain ⟨table, represents⟩ := ih
    exact ⟨table, represents.disturbed spared⟩

end Allotment.StreamPool
