import Allotment.Workbench.Blocks

namespace Allotment.Workbench
variable {α : Type}

/-- Values pushed one after another, up to the first that fails, and each capacity on the way. -/
def pushMany (kind : ElementKind) (count : Nat) (capacities : List Nat) :
    List kind.Carrier → Step Value (GrowArray kind.Carrier × Arena) Answer
  | [] => pure (.pushed count capacities.reverse none)
  | value :: rest => do
    match ← Step.attempt (GrowArray.push value) with
    | .error fault => pure (.pushed count capacities.reverse (some fault))
    | .ok () =>
      let (array, _) ← Step.get
      pushMany kind (count + 1)
        (if capacities.head? = some array.capacity then capacities
          else array.capacity :: capacities) rest

def onArray (entry : ArrayEntry) (name : String)
    (operation : Step Value (GrowArray entry.kind.Carrier × Arena) α) : Work α :=
  onContainer entry.site entry.array
    (fun bench array =>
      { bench with arrays := putNamed bench.arrays name { entry with array := array } })
    operation

/-- Builds an array. One of that name that exists is forgotten once the new one stands. -/
def createArray (name : String) (kind : ElementKind) (capacity : Option Nat) (site : Site) :
    Work Answer := do
  let fresh : ArrayEntry := ⟨kind, site, .empty kind.Carrier⟩
  let built ← onContainer site fresh.array (fun bench _ => bench) do
    match capacity with
    | none => pure ()
    | some capacity => GrowArray.createWithCapacity capacity
    let (array, _) ← Step.get
    pure array
  Step.modify fun bench =>
    { bench with arrays := putNamed bench.arrays name ⟨kind, site, built⟩ }
  pure .done

def onExistingArray (name : String) (entry : ArrayEntry) : ArrayRequest → Work Answer
  | .create kind capacity site => createArray name kind capacity site
  | .push literal =>
    match entry.kind.ofLiteral? literal with
    | none => pure .meaningless
    | some value => do
      onArray entry name (GrowArray.push value)
      pure .done
  | .pushMany literals =>
    match literals.mapM entry.kind.ofLiteral? with
    | none => pure .meaningless
    | some values => onArray entry name (pushMany entry.kind 0 [entry.array.capacity] values)
  | .pop => do
    let value ← onArray entry name GrowArray.pop
    shown entry.kind value
  | .get index => do
    let bench ← Step.get
    let memory := Allocator.memory (bench.arenaAt entry.site)
    pure (.value ((entry.array.get? memory index).map entry.kind.toValue))
  | .replace index literal =>
    match entry.kind.ofLiteral? literal with
    | none => pure .meaningless
    | some value => do
      let old ← onArray entry name (GrowArray.replace index value)
      shown entry.kind old
  | .reserve additional => do
    onArray entry name (GrowArray.reserve additional)
    pure .done
  | .clear => do
    onArray entry name GrowArray.clear
    pure .done
  | .reverse => do
    onArray entry name GrowArray.reverse
    pure .done
  | .elements => do
    let bench ← Step.get
    let memory := Allocator.memory (bench.arenaAt entry.site)
    pure (.values ((entry.array.toList memory).map entry.kind.toValue))
  | .info => do
    let bench ← Step.get
    let arena := bench.arenaAt entry.site
    let first := (entry.array.get? (Allocator.memory arena) 0).map entry.kind.toValue
    pure (.arrayInfo entry.array.length entry.array.capacity first (Allocator.alignment arena))
  | .text => do
    let bench ← Step.get
    let memory := Allocator.memory (bench.arenaAt entry.site)
    pure (.text (entry.array.text memory fun value => (entry.kind.toValue value).shown))
  | .dispose => do
    Step.modify fun bench => { bench with arrays := withoutNamed bench.arrays name }
    onContainer entry.site entry.array (fun bench _ => bench) GrowArray.dispose
    pure .done

def onArrays (name : String) (request : ArrayRequest) : Work Answer := do
  let bench ← Step.get
  match bench.arrays.lookup name, request with
  | some entry, request => onExistingArray name entry request
  | none, .create kind capacity site => createArray name kind capacity site
  | none, _ => pure .meaningless

/-- The entries of a pool as values of any kind. -/
def entriesOf (kind : ElementKind) (pool : Pool kind.Carrier) (arena : Arena) :
    List (ResourceId × Value) :=
  (pool.toList (Allocator.memory arena)).map fun entry => (entry.1, kind.toValue entry.2)

/-- Handles a request about the values of a pool, given how to run operations on it. -/
def onPoolWith (kind : ElementKind) (pool : Pool kind.Carrier) (arena : Arena)
    (run : {α : Type} → Step Value (Pool kind.Carrier × Arena) α → Work α) :
    PoolRequest → Work Answer
  | .insert literal =>
    match kind.ofLiteral? literal with
    | none => pure .meaningless
    | some value => do
      let id ← run (Pool.insert value)
      numbered id
  | .get reference => do
    let bench ← Step.get
    match bench.id? reference with
    | none => pure .meaningless
    | some id => pure (.value ((pool.get? (Allocator.memory arena) id).map kind.toValue))
  | .contains reference => do
    let bench ← Step.get
    match bench.id? reference with
    | none => pure .meaningless
    | some id => pure (.flag (pool.contains (Allocator.memory arena) id))
  | .remove reference => do
    let bench ← Step.get
    match bench.id? reference with
    | none => pure .meaningless
    | some id => do
      let value ← run (Pool.remove id)
      shown kind (some value)
  | .tryRemove reference => do
    let bench ← Step.get
    match bench.id? reference with
    | none => pure .meaningless
    | some id => do
      let value ← run (Pool.remove? id)
      shown kind value
  | .replace reference literal => do
    let bench ← Step.get
    match bench.id? reference, kind.ofLiteral? literal with
    | some id, some value => do
      let old ← run (Pool.replace id value)
      shown kind old
    | _, _ => pure .meaningless
  | .info => pure (.poolInfo pool.length pool.slots.length pool.freeCount)
  | .elements => pure (.entries (entriesOf kind pool arena))
  | .config => pure (.poolConfig pool.config)
  | .text => pure (.text pool.text)

def onPool (entry : PoolEntry) (name : String)
    (operation : Step Value (Pool entry.kind.Carrier × Arena) α) : Work α :=
  onContainer entry.site entry.pool
    (fun bench pool =>
      { bench with pools := putNamed bench.pools name { entry with pool := pool } })
    operation

def buildPool (kind : ElementKind) (config : Option PoolConfig) (site : Site) :
    Work (Pool kind.Carrier) :=
  let fresh : Pool kind.Carrier := .empty kind.Carrier .standard
  match config with
  | none => pure fresh
  | some config => onContainer site fresh (fun bench _ => bench) do
    Pool.create config
    let (pool, _) ← Step.get
    pure pool

/-- Runs an operation on the pool of that name, which is gone afterwards. -/
def lastOnPool (name : String)
    (operation : (kind : ElementKind) → Step Value (Pool kind.Carrier × Arena) Answer) :
    Work Answer := do
  let bench ← Step.get
  match bench.pools.lookup name with
  | none => pure .meaningless
  | some entry =>
    Step.set { bench with pools := withoutNamed bench.pools name }
    onContainer entry.site entry.pool (fun bench _ => bench) (operation entry.kind)

def onSharedPool (entry : SharedEntry) (number : Nat)
    (operation : Step Value (SharedPool entry.kind.Carrier × Arena) α) : Work α :=
  onContainer entry.site entry.shared
    (fun bench shared =>
      { bench with
        sharedPools := bench.sharedPools.setIfInBounds number { entry with shared := shared } })
    operation

/-- Goes on with the shared pool a handle leads to. -/
def withHandle (handle : String) (next : Nat → SharedEntry → Work Answer) : Work Answer := do
  let bench ← Step.get
  match bench.handles.lookup handle with
  | none => pure .meaningless
  | some number =>
    match bench.sharedPools[number]? with
    | none => pure .meaningless
    | some entry => next number entry

/-- Drops a handle on a shared pool. -/
def dropHandleOn (number : Nat) : Work Unit := do
  let bench ← Step.get
  match bench.sharedPools[number]? with
  | none => pure ()
  | some entry => onSharedPool entry number SharedPool.drop

/-- Handles a request about pools with one owner or several. -/
def onPools : Request → Work Answer
  | .createPool name kind config site => do
    let pool ← buildPool kind config site
    Step.modify fun bench => { bench with pools := putNamed bench.pools name ⟨kind, site, pool⟩ }
    pure .done
  | .pool name request => do
    let bench ← Step.get
    match bench.pools.lookup name with
    | none => pure .meaningless
    | some entry =>
      onPoolWith entry.kind entry.pool (bench.arenaAt entry.site) (onPool entry name) request
  | .dropPool name => lastOnPool name fun _ => do
    Pool.dispose
    pure .done
  | .destroyPool name => lastOnPool name fun _ => do
    let leaked ← Pool.destroy
    pure (.leaked leaked)
  | .createShared handle kind config site => do
    let pool ← buildPool kind config site
    Step.modify fun bench =>
      { bench with
        handles := putNamed bench.handles handle bench.sharedPools.size
        sharedPools := bench.sharedPools.push ⟨kind, site, .ofPool pool⟩ }
    pure .done
  | .shared handle request => withHandle handle fun number entry => do
    let bench ← Step.get
    onPoolWith entry.kind entry.shared.pool (bench.arenaAt entry.site)
      (fun operation => onSharedPool entry number (SharedPool.onPool operation)) request
  | .cloneHandle handle target => withHandle handle fun number entry => do
    onSharedPool entry number SharedPool.clone
    let bench ← Step.get
    Step.set { bench with handles := putNamed bench.handles target number }
    match bench.handles.lookup target with
    | none => pure .done
    | some old => do
      dropHandleOn old
      pure .done
  | .dropHandle handle => withHandle handle fun number _ => do
    Step.modify fun bench => { bench with handles := withoutNamed bench.handles handle }
    dropHandleOn number
    pure .done
  | .destroyShared handle => withHandle handle fun number entry => do
    Step.when (entry.shared.handles == 1)
      (Step.modify fun bench => { bench with handles := withoutNamed bench.handles handle })
    match ← onSharedPool entry number SharedPool.destroy with
    | some leaked => pure (.leaked leaked)
    | none => pure .stillShared
  | .sharedInfo handle => withHandle handle fun _ entry =>
    pure (.sharedInfo entry.shared.pool.length entry.shared.handles)
  | .sharedContent handle => withHandle handle fun _ entry => do
    let bench ← Step.get
    let pool := entry.shared.pool
    pure (.sharedContent pool.slots.length pool.freeCount
      (entriesOf entry.kind pool (bench.arenaAt entry.site)))
  | .sharedText handle => withHandle handle fun _ entry => pure (.text entry.shared.text)
  | _ => pure .meaningless

def handle : Request → Work Answer
  | .block request => onBlocks request
  | .allocator request => onAllocator request
  | .array name request => onArrays name request
  | request => onPools request

def create (plan : Arena.Plan) : Step Value Unit Workbench := ofArena <$> Arena.create plan

end Allotment.Workbench
