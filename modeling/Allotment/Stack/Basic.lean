import Allotment.Stack.Shape
import Allotment.Memory
import Allotment.Statistics
import Allotment.Step
import Allotment.Usage

/-! A stack allocator: one buffer of fixed capacity, handed out from the front. In front of each
block stands a header with the two offsets as they were before the block, so releasing the block on
top restores them. -/
namespace Allotment

/-- A stack allocator. Addresses count from the start of its buffer, around the end of the word
range: an address before the buffer is a very large one. -/
structure Stack (Object : Type) where
  shape : StackShape
  config : StackConfig
  memory : Memory Object
  /-- Where the block on top starts; zero when there is none. -/
  top : Nat
  /-- The end of the used part. -/
  used : Nat
  counters : Counters

/-- The two offsets as they were before a block. -/
structure Header where
  top : Nat
  used : Nat
  deriving DecidableEq

namespace Header

def bytes (header : Header) : List UInt8 := littleEndian 4 header.top ++ littleEndian 4 header.used

def ofBytes (bytes : List UInt8) : Header :=
  ⟨ofLittleEndian (bytes.take 4), ofLittleEndian (bytes.drop 4)⟩

theorem ofBytes_bytes {header : Header} (top_lt : header.top < 2 ^ (32 : Nat))
    (used_lt : header.used < 2 ^ (32 : Nat)) : ofBytes header.bytes = header := by
  have first : (header.bytes.take 4) = littleEndian 4 header.top :=
    List.take_left' (length_littleEndian 4 header.top)
  have second : (header.bytes.drop 4) = littleEndian 4 header.used :=
    List.drop_left' (length_littleEndian 4 header.top)
  rw [ofBytes, first, second, ofLittleEndian_of_lt (show header.top < 2 ^ (8 * 4 : Nat) from top_lt),
    ofLittleEndian_of_lt (show header.used < 2 ^ (8 * 4 : Nat) from used_lt)]

/-- Eight bytes are those of the header they stand for. -/
theorem bytes_ofBytes {bytes : List UInt8} (length : bytes.length = headerSize) :
    (ofBytes bytes).bytes = bytes := by
  have first : (bytes.take 4).length = 4 := by rw [List.length_take, length]; rfl
  have second : (bytes.drop 4).length = 4 := by rw [List.length_drop, length]; rfl
  have top := littleEndian_ofLittleEndian (bytes.take 4)
  have used := littleEndian_ofLittleEndian (bytes.drop 4)
  rw [first] at top
  rw [second] at used
  rw [Header.bytes, ofBytes, top, used, List.take_append_drop]

end Header

namespace Stack
variable {Object : Type}

def component : String := "StackAllocator"

/-- A stack in which nothing is handed out, over a buffer of zeros. -/
def empty (shape : StackShape) (config : StackConfig) : Stack Object :=
  ⟨shape, config, .blank, 0, 0, .zero⟩

/-- Builds a stack, or refuses a capacity and an alignment that do not go together. -/
def create {σ : Type} (capacity align : Nat) (config : StackConfig) :
    Step Object σ (Stack Object) :=
  match StackShape.check capacity align with
  | .error defect => Step.refuse (.invalidConfig defect.reason)
  | .ok shape => do
    Step.log (.stackCreated capacity align config)
    pure (empty shape config)

/-- The two offsets, as the header of the next block will record them. -/
def offsets (stack : Stack Object) : Header := ⟨stack.top, stack.used⟩

def capacity (stack : Stack Object) : Nat := stack.shape.capacity

def align (stack : Stack Object) : Nat := stack.shape.align

/-- The room behind the used part. -/
def available (stack : Stack Object) : Nat := stack.capacity - stack.used

def isEmpty (stack : Stack Object) : Bool := stack.top == 0

/-- The offset of an address in the buffer, its end included. -/
def offsetOf? (stack : Stack Object) (address : Nat) : Option Nat :=
  if address ≤ stack.capacity then some address else none

def owns (stack : Stack Object) (address : Nat) : Bool := (stack.offsetOf? address).isSome

/-- Whether an address is the start of the block on top. -/
def isTop (stack : Stack Object) (address : Nat) : Bool :=
  !stack.isEmpty && stack.offsetOf? address == some stack.top

/-- The header in front of an offset. -/
def headerAt (stack : Stack Object) (offset : Nat) : Header :=
  Header.ofBytes (stack.memory.bytes (offset - headerSize) headerSize)

def usage (stack : Stack Object) : Usage :=
  ⟨stack.used, some stack.available, .ok (some stack.capacity)⟩

def statistics (stack : Stack Object) : Statistics := stack.counters.report stack.used

def resetStatistics (stack : Stack Object) : Stack Object := { stack with counters := .zero }

def text (stack : Stack Object) : String :=
  Text.record component
    [("capacity", toString stack.capacity), ("align", toString stack.align),
      ("prev_offset", toString stack.top), ("curr_offset", toString stack.used)] true

end Stack

/-- How a caller can misuse a stack. -/
inductive StackMisuse where
  | foreign (address : Nat)
  /-- A release while nothing is handed out. -/
  | releaseWhileEmpty (offset : Nat)
  /-- A release of something else than the block on top. -/
  | releaseOutOfOrder (offset top : Nat)
  /-- A resize of something behind the block on top. -/
  | resizeDead (offset top : Nat)
  /-- A block that is not on top would have to grow. -/
  | growBelowTop (offset oldSize newSize : Nat)
  deriving DecidableEq

def StackMisuse.details : StackMisuse → String
  | foreign address => Word.hex address ++ " was not allocated by this stack allocator"
  | releaseWhileEmpty offset => s!"dealloc of block at offset {offset} while no block is live"
  | releaseOutOfOrder offset top =>
    s!"out-of-order dealloc: block at offset {offset} is not the most recent allocation" ++
      s!" (top is at offset {top})"
  | resizeDead offset top =>
    s!"realloc of block at offset {offset} which is not live (top is at offset {top})"
  | growBelowTop offset oldSize newSize =>
    s!"cannot grow block at offset {offset} from {oldSize} to {newSize} bytes:" ++
      " not the most recent allocation"

end Allotment
