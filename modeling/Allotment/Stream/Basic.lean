import Allotment.Pool.Shared
import Allotment.Stream.BufferedFile

/-! Streams: handles on open files that live in a shared pool. A stream is an identifier and a
handle on the pool, so all copies of a stream share one file, and closing it through one copy closes
it for all; later operations are answered with the identifier of the closed stream. -/
namespace Allotment

inductive StreamError where
  | closed (id : ResourceId)
  | disk (error : DiskError)
  /-- The pool could not take the file. -/
  | memory (error : MemoryError)
  deriving DecidableEq

def StreamError.message : StreamError → String
  | closed id => "stream " ++ id.display ++ " is closed"
  | disk error => "I/O error: " ++ error.message
  | memory error => error.message

/-- A shared pool of open files, the allocator its slots come from, and the disk the files are on. -/
structure StreamPool (σ : Type) where
  shared : SharedPool BufferedFile
  host : σ
  disk : Disk

abbrev StreamStep (σ α : Type) := Step BufferedFile (StreamPool σ) α

namespace StreamPool
variable {σ α : Type}

/-- A pool without streams over a disk. -/
def empty (host : σ) (disk : Disk) : StreamPool σ :=
  ⟨.ofPool (.empty BufferedFile .standard), host, disk⟩

def onShared (operation : Step BufferedFile (SharedPool BufferedFile × σ) α) : StreamStep σ α :=
  Step.within (fun state => (state.shared, state.host))
    (fun state inner => { state with shared := inner.1, host := inner.2 }) operation

def onPool (operation : Step BufferedFile (Pool BufferedFile × σ) α) : StreamStep σ α :=
  onShared (SharedPool.onPool operation)

variable [Allocator BufferedFile σ]

/-- Builds a pool with a configuration. -/
def create (config : PoolConfig) : StreamStep σ Unit := onPool (Pool.create config)

def file? (state : StreamPool σ) (id : ResourceId) : Option BufferedFile :=
  state.shared.pool.get? (Allocator.memory state.host) id

def isOpen (state : StreamPool σ) (id : ResourceId) : Bool := (state.file? id).isSome

/-- Puts an open file into the pool and hands out a stream on it, which is one more handle on the
pool. A file that finds no slot is closed again. -/
def register (file : OpenFile) (path : String) : StreamStep σ (Except StreamError ResourceId) := do
  match ← Step.attempt (onPool (Pool.insert (.ofFile file path))) with
  | .ok id =>
    Step.log (.streamOpened id path)
    onShared SharedPool.clone
    pure (.ok id)
  | .error (.refused error) => pure (.error (.memory error))
  | .error (.aborted cause) => Step.abort cause

def openExisting (path : String) : StreamStep σ (Except StreamError ResourceId) := do
  let state ← Step.get
  match state.disk.openExisting path with
  | .error error => pure (.error (.disk error))
  | .ok file => register file path

/-- Opens an empty file for reading and writing. The file is emptied before the pool is asked for a
slot. -/
def openNew (path : String) : StreamStep σ (Except StreamError ResourceId) := do
  let state ← Step.get
  match state.disk.create path with
  | .error error => pure (.error (.disk error))
  | .ok (file, disk) =>
    Step.set { state with disk := disk }
    register file path

/-- Runs an operation on the open file of a stream. -/
def onFile (id : ResourceId) (operation : FileStep α) : StreamStep σ (Except StreamError α) := do
  let state ← Step.get
  match state.file? id with
  | none => pure (.error (.closed id))
  | some stream =>
    match operation (stream, state.disk) with
    | (result, after, disk) =>
      let _ ← onPool (Pool.replace id after)
      Step.modify fun state => { state with disk := disk }
      pure (result.mapError .disk)

/-- The name a stream was opened under. -/
def path (id : ResourceId) : StreamStep σ (Except StreamError String) :=
  onFile id fun state => (.ok state.1.path, state)

/-- What destroying an open file leaves behind. -/
def destroyFile (stream : BufferedFile) : StreamStep σ Unit := do
  Step.destroy [stream]
  Step.modify fun state => { state with disk := stream.closeOn state.disk }

/-- Frees the slot of a stream, flushes its file and closes it. The slot is freed even if the flush
fails. -/
def close (id : ResourceId) : StreamStep σ (Except StreamError Unit) := do
  match ← onPool (Pool.remove? id) with
  | none => pure (.error (.closed id))
  | some stream =>
    Step.log (.streamClosed id stream.path)
    let state ← Step.get
    match BufferedFile.flush (stream, state.disk) with
    | (result, after, disk) =>
      Step.set { state with disk := disk }
      destroyFile after
      pure (result.mapError .disk)

/-- Takes the file of a stream out of the pool and destroys it; answers whether there was one. -/
def evict (id : ResourceId) : StreamStep σ Bool := do
  match ← onPool (Pool.remove? id) with
  | none => pure false
  | some stream =>
    destroyFile stream
    pure true

/-- As `evict`, but for a closed stream it is a misuse. -/
def free (id : ResourceId) : StreamStep σ Unit := do
  let stream ← onPool (Pool.remove id)
  destroyFile stream

def streamText (state : StreamPool σ) (id : ResourceId) : String :=
  Text.record "FileStream" [("id", id.text), ("open", Text.truth (state.isOpen id))] false

end StreamPool
end Allotment
