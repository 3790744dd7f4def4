namespace Allotment

/-- A request that could not be met. -/
inductive MemoryError where
  /-- The process heap refused `size` bytes. -/
  | allocationFailed (size align : Nat)
  /-- A length or byte size is not a word. -/
  | sizeOverflow (operation : String)
  /-- A type needs a stricter alignment than the allocator has. -/
  | invalidAlignment (alignment supported : Nat)
  /-- A bounded pool has no slot left. -/
  | poolExhausted (pool : String) (capacity : Nat)
  /-- A fixed buffer has too little room left. -/
  | arenaExhausted (arena : String) (requested available : Nat)
  | invalidConfig (reason : String)
  deriving DecidableEq

namespace MemoryError

def message : MemoryError → String
  | allocationFailed size align =>
    s!"Memory allocation failed: {size} bytes with {align} byte alignment"
  | sizeOverflow operation => "Size overflow during operation: " ++ operation
  | invalidAlignment alignment supported =>
    s!"Invalid alignment: {alignment} (allocator guarantees {supported})"
  | poolExhausted pool capacity =>
    "Memory pool '" ++ pool ++ s!"' exhausted (capacity: {capacity})"
  | arenaExhausted arena requested available =>
    "Arena '" ++ arena ++ s!"' exhausted: requested {requested} bytes, available {available}"
  | invalidConfig reason => "Invalid configuration: " ++ reason

def code : MemoryError → String
  | allocationFailed .. => "MEM:ALLOC:FAILED"
  | sizeOverflow .. => "MEM:ALLOC:OVERFLOW"
  | invalidAlignment .. => "MEM:ALLOC:ALIGN"
  | poolExhausted .. => "MEM:POOL:EXHAUSTED"
  | arenaExhausted .. => "MEM:ARENA:EXHAUSTED"
  | invalidConfig .. => "MEM:CONFIG:INVALID"

/-- Capacity may come back once memory is released; a wrong size, alignment or configuration stays
wrong. -/
def isRetryable : MemoryError → Bool
  | allocationFailed .. | poolExhausted .. | arenaExhausted .. => true
  | _ => false

def isInvalidAlignment : MemoryError → Bool
  | invalidAlignment .. => true
  | _ => false

end MemoryError
end Allotment
