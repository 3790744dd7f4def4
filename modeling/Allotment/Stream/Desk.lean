import Allotment.Heap
import Allotment.Stream.Basic

namespace Allotment

inductive StreamRequest where
  | openExisting (path : String)
  | openNew (path : String)
  | clone (target : String)
  | drop
  | id
  | isOpen
  | path
  | read (count : Nat)
  | readText
  | write (bytes : List UInt8)
  | writePieces (pieces : List (List UInt8))
  | flush
  | seek (whence : Whence) (distance : Int)
  | close
  | text
  | buffer
  | evict
  | free

inductive DeskRequest where
  | stream (name : String) (request : StreamRequest)
  | content (path : String)
  | poolInfo
  | destroyPool

inductive DeskAnswer where
  | done
  | id (id : ResourceId)
  | flag (value : Bool)
  | text (content : String)
  | bytes (content : List (Run UInt8))
  | position (position : Nat)
  | buffer (shown : Option (String × String))
  | content (content : Option FileContent)
  | pool (length slots free handles : Nat) (live : List ResourceId)
  | leaked (count : Nat)
  | stillShared
  | failed (error : StreamError)
  /-- The request makes no sense here. -/
  | meaningless

/-- A stream pool on the process heap, the streams by name, and whether the pool is gone. -/
structure StreamDesk where
  pool : StreamPool (Heap BufferedFile)
  streams : List (String × ResourceId)
  isDestroyed : Bool

namespace StreamDesk
variable {α : Type}

abbrev Work (α : Type) := Step BufferedFile StreamDesk α

def onPool (operation : StreamStep (Heap BufferedFile) α) : Work α :=
  Step.within pool (fun desk pool => { desk with pool := pool }) operation

/-- A desk over a disk, with a pool of that configuration. -/
def create (disk : Disk) (config : Option PoolConfig) : Step BufferedFile Unit StreamDesk :=
  match config with
  | none => pure ⟨.empty (.empty false) disk, [], false⟩
  | some config => do
    let ((), pool) ← Step.startingFrom (.empty (.empty false) disk) (StreamPool.create config)
    pure ⟨pool, [], false⟩

/-- Answers with the failure of a stream operation, or goes on. -/
def answered (result : Except StreamError α) (next : α → DeskAnswer) : DeskAnswer :=
  match result with
  | .ok value => next value
  | .error error => .failed error

/-- Lets a name stand for a stream; the handle it stood for before is dropped. -/
def nameStream (name : String) (id : ResourceId) : Work Unit := do
  let desk ← Step.get
  Step.set
    { desk with streams := (name, id) :: desk.streams.filter fun entry => entry.1 != name }
  if (desk.streams.lookup name).isSome then onPool (StreamPool.onShared SharedPool.drop)

/-- Keeps a stream that was just opened under a name. -/
def opened (name : String) (result : Except StreamError ResourceId) : Work DeskAnswer :=
  match result with
  | .error error => pure (.failed error)
  | .ok id => do
    nameStream name id
    pure (.id id)

/-- Handles a request about the stream of that name and identifier. -/
def onStream (name : String) (id : ResourceId) : StreamRequest → Work DeskAnswer
  | .openExisting path => do opened name (← onPool (StreamPool.openExisting path))
  | .openNew path => do opened name (← onPool (StreamPool.openNew path))
  | .clone target => do
    onPool (StreamPool.onShared SharedPool.clone)
    nameStream target id
    pure .done
  | .drop => do
    Step.modify fun desk =>
      { desk with streams := desk.streams.filter fun entry => entry.1 != name }
    onPool (StreamPool.onShared SharedPool.drop)
    pure .done
  | .id => pure (.id id)
  | .isOpen => do
    let desk ← Step.get
    pure (.flag (desk.pool.isOpen id))
  | .path => do
    let result ← onPool (StreamPool.path id)
    pure (answered result .text)
  | .read count => do
    let result ← onPool (StreamPool.onFile id (BufferedFile.read count))
    pure (answered result .bytes)
  | .readText => do
    let result ← onPool (StreamPool.onFile id BufferedFile.readText)
    pure (answered result .text)
  | .write bytes => do
    let result ← onPool (StreamPool.onFile id (BufferedFile.write bytes))
    pure (answered result fun _ => .done)
  | .writePieces pieces => do
    let result ← onPool (StreamPool.onFile id (BufferedFile.writePieces pieces))
    pure (answered result fun _ => .done)
  | .flush => do
    let result ← onPool (StreamPool.onFile id BufferedFile.flush)
    pure (answered result fun _ => .done)
  | .seek whence distance => do
    let result ← onPool (StreamPool.onFile id (BufferedFile.seek whence distance))
    pure (answered result .position)
  | .close => do
    let result ← onPool (StreamPool.close id)
    pure (answered result fun _ => .done)
  | .text => do
    let desk ← Step.get
    pure (.text (desk.pool.streamText id))
  | .buffer => do
    let desk ← Step.get
    pure (.buffer ((desk.pool.file? id).map fun stream => (stream.text, stream.path)))
  | .evict => do
    let evicted ← onPool (StreamPool.evict id)
    pure (.flag evicted)
  | .free => do
    onPool (StreamPool.free id)
    pure .done

def handle : DeskRequest → Work DeskAnswer
  | .content path => do
    let desk ← Step.get
    pure (.content (desk.pool.disk.contentOf? path))
  | .stream name request => do
    let desk ← Step.get
    if desk.isDestroyed then pure .meaningless
    else match desk.streams.lookup name, request with
      | some id, request => onStream name id request
      | none, .openExisting path => do opened name (← onPool (StreamPool.openExisting path))
      | none, .openNew path => do opened name (← onPool (StreamPool.openNew path))
      | none, _ => pure .meaningless
  | .poolInfo => do
    let desk ← Step.get
    if desk.isDestroyed then pure .meaningless
    else
      let pool := desk.pool.shared.pool
      pure (.pool pool.length pool.slots.length pool.freeCount desk.pool.shared.handles
        ((pool.toList desk.pool.host.memory).map Prod.fst))
  | .destroyPool => do
    let desk ← Step.get
    if desk.isDestroyed then pure .meaningless
    else match ← onPool (StreamPool.onShared SharedPool.destroy) with
      | none => pure .stillShared
      | some leaked => do
        Step.modify fun desk => { desk with isDestroyed := true }
        pure (.leaked leaked)

end StreamDesk
end Allotment
