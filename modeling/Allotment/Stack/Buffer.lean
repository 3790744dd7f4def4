import Allotment.Stack.Basic

namespace Allotment.Stack
variable {Object : Type}

/-- The offsets of a stack as a header. They have to be ordered and fit 32 bits. -/
def captureHeader : Step Object (Stack Object) Header := do
  let stack ← Step.get
  Step.assert .headerOrdered (stack.top ≤ stack.used)
  Step.assert .headerFits (stack.used < 2 ^ (32 : Nat))
  pure ⟨stack.top, stack.used⟩

theorem run_captureHeader {stack : Stack Object} (ordered : stack.top ≤ stack.used)
    (fits : stack.used < 2 ^ (32 : Nat)) :
    captureHeader.run stack = ⟨.ok ⟨stack.top, stack.used⟩, stack, []⟩ := by
  rw [captureHeader, Step.run_bind_of_quiet (Step.run_get stack), decide_eq_true ordered,
    decide_eq_true fits]
  rfl

/-- The stack with a header in front of an offset. -/
def withHeader (stack : Stack Object) (offset : Nat) (header : Header) : Stack Object :=
  { stack with memory := stack.memory.writeBytes (offset - headerSize) header.bytes }

@[simp] theorem capacity_withHeader (stack : Stack Object) (offset : Nat) (header : Header) :
    (stack.withHeader offset header).capacity = stack.capacity := by
  simp only [withHeader, capacity]

@[simp] theorem shape_withHeader (stack : Stack Object) (offset : Nat) (header : Header) :
    (stack.withHeader offset header).shape = stack.shape := rfl

@[simp] theorem config_withHeader (stack : Stack Object) (offset : Nat) (header : Header) :
    (stack.withHeader offset header).config = stack.config := rfl

@[simp] theorem counters_withHeader (stack : Stack Object) (offset : Nat) (header : Header) :
    (stack.withHeader offset header).counters = stack.counters := rfl

theorem length_bytes (header : Header) : header.bytes.length = headerSize := by
  simp [Header.bytes, headerSize]

/-- A header changes only the eight bytes in front of its offset. -/
theorem load_withHeader_of_outside (stack : Stack Object) {offset other : Nat} (header : Header)
    (room : headerSize ≤ offset) (outside : other + headerSize < offset ∨ offset ≤ other) :
    (stack.withHeader offset header).memory.load other = stack.memory.load other :=
  Memory.load_writeBytes_of_outside _ (by rw [length_bytes]; omega)

/-- Two stacks read the same header where their memories agree on its eight bytes. -/
theorem headerAt_congr {stack other : Stack Object} {offset : Nat} (room : headerSize ≤ offset)
    (agree : ∀ address, offset ≤ address + headerSize → address < offset →
      stack.memory.load address = other.memory.load address) :
    stack.headerAt offset = other.headerAt offset := by
  rw [headerAt, headerAt, Memory.bytes, Memory.bytes,
    Memory.loadRange_congr fun address first last => agree address (by omega) (by omega)]

/-- A header of two words of 32 bits is read back as it was written. -/
theorem headerAt_withHeader (stack : Stack Object) (offset : Nat) {header : Header}
    (top_lt : header.top < 2 ^ (32 : Nat)) (used_lt : header.used < 2 ^ (32 : Nat)) :
    (stack.withHeader offset header).headerAt offset = header := by
  have read := Memory.bytes_writeBytes stack.memory (offset - headerSize) header.bytes
  rw [length_bytes] at read
  rw [headerAt, withHeader, read, Header.ofBytes_bytes top_lt used_lt]

/-- A header stands for the bytes it was read from. -/
theorem bytes_headerAt (stack : Stack Object) (offset : Nat) :
    (stack.headerAt offset).bytes = stack.memory.bytes (offset - headerSize) headerSize :=
  Header.bytes_ofBytes (by rw [Memory.bytes, Cell.bytes, List.length_map, Memory.length_loadRange])

/-- Whether the header of a block at an offset lies in the buffer. -/
def holdsHeader (stack : Stack Object) (offset : Nat) : Bool :=
  headerSize ≤ offset && offset ≤ stack.capacity

def writeHeader (offset : Nat) (header : Header) : Step Object (Stack Object) Unit := do
  let stack ← Step.get
  Step.assert .headerInBuffer (stack.holdsHeader offset)
  Step.set (stack.withHeader offset header)

theorem run_writeHeader {stack : Stack Object} {offset : Nat}
    (inside : stack.holdsHeader offset = true) (header : Header) :
    (writeHeader offset header).run stack = ⟨.ok (), stack.withHeader offset header, []⟩ := by
  rw [writeHeader, Step.run_bind_of_quiet (Step.run_get stack), inside]
  rfl

def readHeader (offset : Nat) : Step Object (Stack Object) Header := do
  let stack ← Step.get
  Step.assert .headerInBuffer (stack.holdsHeader offset)
  pure (stack.headerAt offset)

theorem run_readHeader {stack : Stack Object} {offset : Nat}
    (inside : stack.holdsHeader offset = true) :
    (readHeader offset).run stack = ⟨.ok (stack.headerAt offset), stack, []⟩ := by
  rw [readHeader, Step.run_bind_of_quiet (Step.run_get stack), inside]
  rfl

/-- The stack with the bytes from `start` to `stop` filled, if there is a pattern. -/
def withFilled (stack : Stack Object) (start stop : Nat) : Option UInt8 → Stack Object
  | none => stack
  | some pattern =>
    { stack with memory := stack.memory.fill start (stop - start) (.byte pattern) }

@[simp] theorem shape_withFilled (stack : Stack Object) (start stop : Nat)
    (pattern : Option UInt8) : (stack.withFilled start stop pattern).shape = stack.shape := by
  cases pattern <;> rfl

@[simp] theorem config_withFilled (stack : Stack Object) (start stop : Nat)
    (pattern : Option UInt8) : (stack.withFilled start stop pattern).config = stack.config := by
  cases pattern <;> rfl

@[simp] theorem counters_withFilled (stack : Stack Object) (start stop : Nat)
    (pattern : Option UInt8) :
    (stack.withFilled start stop pattern).counters = stack.counters := by
  cases pattern <;> rfl

/-- Filling changes only the bytes of its range. -/
theorem load_withFilled_of_outside (stack : Stack Object) {start stop other : Nat}
    (pattern : Option UInt8) (outside : other < start ∨ stop ≤ other) :
    (stack.withFilled start stop pattern).memory.load other = stack.memory.load other := by
  cases pattern with
  | none => rfl
  | some byte => exact Memory.load_fill_of_outside _ _ (by omega)

/-- Fills the bytes from `start` to `stop`, if there is a pattern. -/
def fill (start stop : Nat) (pattern : Option UInt8) : Step Object (Stack Object) Unit := do
  let stack ← Step.get
  Step.assert .fillInBuffer (pattern.isNone || (start ≤ stop && stop ≤ stack.capacity))
  Step.set (stack.withFilled start stop pattern)

theorem run_fill {stack : Stack Object} {start stop : Nat} (ordered : start ≤ stop)
    (inside : stop ≤ stack.capacity) (pattern : Option UInt8) :
    (fill start stop pattern).run stack = ⟨.ok (), stack.withFilled start stop pattern, []⟩ := by
  rw [fill, Step.run_bind_of_quiet (Step.run_get stack), decide_eq_true ordered,
    decide_eq_true inside, Bool.and_self, Bool.or_true]
  rfl

def withOffsets (stack : Stack Object) (top used : Nat) : Stack Object :=
  { stack with top := top, used := used }

@[simp] theorem shape_withOffsets (stack : Stack Object) (top used : Nat) :
    (stack.withOffsets top used).shape = stack.shape := rfl

@[simp] theorem config_withOffsets (stack : Stack Object) (top used : Nat) :
    (stack.withOffsets top used).config = stack.config := rfl

@[simp] theorem counters_withOffsets (stack : Stack Object) (top used : Nat) :
    (stack.withOffsets top used).counters = stack.counters := rfl

@[simp] theorem memory_withOffsets (stack : Stack Object) (top used : Nat) :
    (stack.withOffsets top used).memory = stack.memory := rfl

@[simp] theorem offsets_withOffsets (stack : Stack Object) (top used : Nat) :
    (stack.withOffsets top used).offsets = ⟨top, used⟩ := rfl

/-- The stack with its counts changed, where operations are counted. -/
def counted (stack : Stack Object) (record : Counters → Counters) : Stack Object :=
  if stack.config.trackStats then { stack with counters := record stack.counters } else stack

/-- Counts something, where operations are counted. -/
def count (record : Counters → Counters) : Step Object (Stack Object) Unit :=
  Step.modify fun stack => stack.counted record

@[simp] theorem shape_counted (stack : Stack Object) (record : Counters → Counters) :
    (stack.counted record).shape = stack.shape := by
  unfold counted
  split <;> rfl

@[simp] theorem config_counted (stack : Stack Object) (record : Counters → Counters) :
    (stack.counted record).config = stack.config := by
  unfold counted
  split <;> rfl

@[simp] theorem memory_counted (stack : Stack Object) (record : Counters → Counters) :
    (stack.counted record).memory = stack.memory := by
  unfold counted
  split <;> rfl

@[simp] theorem offsets_counted (stack : Stack Object) (record : Counters → Counters) :
    (stack.counted record).offsets = stack.offsets := by
  unfold counted
  split <;> rfl

theorem counters_counted {stack : Stack Object} (tracks : stack.config.trackStats = true)
    (record : Counters → Counters) : (stack.counted record).counters = record stack.counters := by
  rw [counted, if_pos tracks]

theorem run_count (record : Counters → Counters) (stack : Stack Object) :
    (count record).run stack = ⟨.ok (), stack.counted record, []⟩ := rfl

end Allotment.Stack
