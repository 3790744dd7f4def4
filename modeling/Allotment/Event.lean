import Allotment.Error
import Allotment.Word
import Allotment.Stack.Config
import Allotment.Pool.Id

namespace Allotment

inductive Level where
  | error
  | warn
  | info
  | debug
  | trace
  deriving DecidableEq

namespace Level

/-- Errors rank first, traces last. -/
def rank : Level → Nat
  | error => 0
  | warn => 1
  | info => 2
  | debug => 3
  | trace => 4

def name : Level → String
  | error => "ERROR"
  | warn => "WARN"
  | info => "INFO"
  | debug => "DEBUG"
  | trace => "TRACE"

def ofName? (name : String) : Option Level :=
  [error, warn, info, debug, trace].find? (·.name == name)

end Level

/-- Something worth recording. -/
inductive Event where
  | allocationFailed (size align : Nat)
  | poolExhausted (pool : String) (capacity : Nat)
  | arenaExhausted (arena : String) (requested available : Nat)
  | usageViolation (component details : String)
  | fatalCapacity (error : MemoryError)
  | heapAllocated (size address : Nat)
  | heapResized (size source target : Nat)
  | stackCreated (capacity align : Nat) (config : StackConfig)
  | stackCleared (used : Nat)
  | stackPushed (size offset stop : Nat)
  | stackPopped (offset prev curr : Nat)
  | stackResized (offset oldStop stop : Nat)
  | vectorGrown (oldCapacity newCapacity : Nat)
  | poolCreated (initialCapacity : Nat) (maxSlots : Option UInt32)
  | poolGrown (slots : Nat)
  | slotAllocated (id : ResourceId) (live : Nat)
  | slotFreed (id : ResourceId) (live : Nat)
  | poolLeaked (leaked slots : Nat)
  | poolDestroyed (slots : Nat)
  | streamOpened (id : ResourceId) (path : String)
  | streamClosed (id : ResourceId) (path : String)

namespace Event

def level : Event → Level
  | usageViolation .. | fatalCapacity .. => .error
  | allocationFailed .. | poolExhausted .. | arenaExhausted .. | poolLeaked .. => .warn
  | stackCreated .. | poolCreated .. | poolGrown .. | poolDestroyed .. | streamOpened ..
  | streamClosed .. => .debug
  | heapAllocated .. | heapResized .. | stackCleared .. | stackPushed .. | stackPopped ..
  | stackResized .. | vectorGrown .. | slotAllocated .. | slotFreed .. => .trace

def message : Event → String
  | allocationFailed .. => "memory allocation failed"
  | poolExhausted .. => "memory pool exhausted"
  | arenaExhausted .. => "arena exhausted"
  | usageViolation .. => "usage violation"
  | fatalCapacity error => "fail-fast allocation failure: " ++ error.message
  | heapAllocated .. => "general alloc"
  | heapResized .. => "general realloc"
  | stackCreated .. => "stack allocator created"
  | stackCleared .. => "stack allocator reset"
  | stackPushed .. => "stack alloc"
  | stackPopped .. => "stack dealloc"
  | stackResized .. => "stack realloc in place"
  | vectorGrown .. => "AllocVec grow"
  | poolCreated .. => "resource pool created"
  | poolGrown .. => "resource pool grown"
  | slotAllocated .. => "resource slot allocated"
  | slotFreed .. => "resource slot freed"
  | poolLeaked .. => "resource pool destroyed with live resources; they are not released"
  | poolDestroyed .. => "resource pool destroyed"
  | streamOpened .. => "stream opened"
  | streamClosed .. => "stream closed"

/-- The fields of an event, in the order they are written. -/
def fields : Event → List (String × String)
  | allocationFailed size align => [("size", toString size), ("align", toString align)]
  | poolExhausted pool capacity => [("pool_id", pool), ("capacity", toString capacity)]
  | arenaExhausted arena requested available =>
    [("arena_id", arena), ("requested", toString requested), ("available", toString available)]
  | usageViolation component details => [("component", component), ("details", details)]
  | fatalCapacity error => [("code", error.code)]
  | heapAllocated size address => [("size", toString size), ("ptr", Word.hex address)]
  | heapResized size source target =>
    [("new_size", toString size), ("from", Word.hex source), ("to", Word.hex target)]
  | stackCreated capacity align config =>
    [("capacity", toString capacity), ("align", toString align), ("config", config.text)]
  | stackCleared used => [("used", toString used)]
  | stackPushed size offset stop =>
    [("size", toString size), ("offset", toString offset), ("end", toString stop)]
  | stackPopped offset prev curr =>
    [("offset", toString offset), ("prev", toString prev), ("curr", toString curr)]
  | stackResized offset oldStop stop =>
    [("offset", toString offset), ("old_end", toString oldStop), ("end", toString stop)]
  | vectorGrown oldCapacity newCapacity =>
    [("old_cap", toString oldCapacity), ("new_cap", toString newCapacity)]
  | poolCreated initialCapacity maxSlots =>
    [("initial_capacity", toString initialCapacity),
      ("max_slots", Text.optional (maxSlots.map fun count => toString count.toNat))]
  | poolGrown slots => [("slots", toString slots)]
  | slotAllocated id live | slotFreed id live => [("id", id.display), ("live", toString live)]
  | poolLeaked leaked slots => [("leaked", toString leaked), ("slots", toString slots)]
  | poolDestroyed slots => [("slots", toString slots)]
  | streamOpened id path | streamClosed id path => [("id", id.display), ("path", path)]

/-- The line that records an event: level, message, then each field as `name=value`. -/
def line (event : Event) : String :=
  event.fields.foldl (fun text field => text ++ " " ++ field.1 ++ "=" ++ field.2)
    (event.level.name ++ " " ++ event.message)

/-- The events that a reader of `level` sees. -/
def visibleAt (level : Level) (events : List Event) : List Event :=
  events.filter fun event => event.level.rank ≤ level.rank

end Event
end Allotment
