import Allotment.Pool.Shared
import Allotment.Workbench.Arena
import Allotment.Workbench.Request

/-! The state of a workbench: an allocator, the blocks it handed out, and containers by name. Values
that are handed out are destroyed once they were shown. -/
namespace Allotment

/-- A block that was handed out: where it is, its size on the heap, and whether it was released. -/
structure Block where
  address : Nat
  size : Nat
  isLive : Bool

/-- An array, the kind of its elements, and where it is built. -/
structure ArrayEntry where
  kind : ElementKind
  site : Site
  array : GrowArray kind.Carrier

/-- A pool, the kind of its values, and where it is built. -/
structure PoolEntry where
  kind : ElementKind
  site : Site
  pool : Pool kind.Carrier

/-- A shared pool, the kind of its values, and where it is built. -/
structure SharedEntry where
  kind : ElementKind
  site : Site
  shared : SharedPool kind.Carrier

/-- An allocator with blocks and containers. -/
structure Workbench where
  arena : Arena
  /-- The process heap, for the containers that are built there. -/
  process : Arena
  blocks : Array Block
  arrays : List (String × ArrayEntry)
  pools : List (String × PoolEntry)
  /-- The shared pool each handle leads to. -/
  handles : List (String × Nat)
  sharedPools : Array SharedEntry
  ids : Array ResourceId

abbrev Work (α : Type) := Step Value Workbench α

/-- The entries with another one under that name. -/
def putNamed {α : Type} (entries : List (String × α)) (name : String) (entry : α) :
    List (String × α) :=
  (name, entry) :: entries.filter fun other => other.1 != name

/-- The entries without the one under that name. -/
def withoutNamed {α : Type} (entries : List (String × α)) (name : String) : List (String × α) :=
  entries.filter fun other => other.1 != name

namespace Workbench
variable {α κ : Type}

def ofArena (arena : Arena) : Workbench :=
  ⟨arena, .heap (.empty false), #[], [], [], [], #[], #[]⟩

def arenaAt (bench : Workbench) : Site → Arena
  | .arena => bench.arena
  | .process => bench.process

/-- The workbench with another state of the allocator of a site. -/
def withArena (bench : Workbench) (site : Site) (arena : Arena) : Workbench :=
  match site with
  | .arena => { bench with arena := arena }
  | .process => { bench with process := arena }

/-- Runs an operation of the allocator of the workbench. -/
def onArena (operation : Step Value Arena α) : Work α :=
  Step.within arena (fun bench arena => { bench with arena := arena }) operation

/-- Runs an operation on a container over the allocator of its site; `keep` puts the container back.
-/
def onContainer (site : Site) (container : κ) (keep : Workbench → κ → Workbench)
    (operation : Step Value (κ × Arena) α) : Work α :=
  Step.within (fun bench => (container, bench.arenaAt site))
    (fun bench state => keep (bench.withArena site state.2) state.1) operation

/-- Destroys a value that was handed out, and shows it. -/
def shown (kind : ElementKind) (value : Option kind.Carrier) : Work Answer := do
  Step.destroy (value.toList.flatMap Element.destructors)
  pure (.value (value.map kind.toValue))

def id? (bench : Workbench) : IdRef → Option ResourceId
  | .issued number => bench.ids[number]?
  | .raw word => some (.ofRaw word)

/-- Numbers an identifier that was just issued. -/
def numbered (id : ResourceId) : Work Answer := do
  let bench ← Step.get
  Step.set { bench with ids := bench.ids.push id }
  pure (.issued id bench.ids.size)

end Workbench
end Allotment
