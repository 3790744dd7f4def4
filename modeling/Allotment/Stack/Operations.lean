import Allotment.Allocator
import Allotment.Stack.Buffer

/-! Acquiring, resizing and releasing blocks of a stack. Only the block on top can be released or
grown; any other live block may keep its size or shrink, which changes nothing. Misuse and want of
room are found out before anything is written. The `run_` lemmas say what each change of the stack
comes to when its offsets are in order. -/
namespace Allotment.Stack
variable {Object α : Type}

def misused (misuse : StackMisuse) : Step Object (Stack Object) α :=
  Step.usageViolation component misuse.details

/-- Refuses a request for want of room. -/
def exhausted (requested : Nat) : Step Object (Stack Object) α := do
  count Counters.recordFailure
  let stack ← Step.get
  Step.refuseCapacity (.arenaExhausted component requested stack.available) stack.config.failFast

/-- Where a new block would start and end, if it fits: behind a header, aligned. -/
def placement? (stack : Stack Object) (size : Nat) : Option (Nat × Nat) := do
  let start ← Word.checkedAdd? stack.used headerSize
  let offset ← Alignment.roundUp? start stack.align
  let stop ← Word.checkedAdd? offset size
  if stop ≤ stack.capacity then some (offset, stop) else none

/-- A placement leaves room for the header, is aligned, stays in the buffer, and wastes less than the
alignment. -/
theorem placement?_some {stack : Stack Object} {size offset stop : Nat}
    (placed : stack.placement? size = some (offset, stop)) :
    stack.used + headerSize ≤ offset ∧ stack.align ∣ offset ∧ stop = offset + size ∧
      stop ≤ stack.capacity ∧ offset < stack.used + headerSize + stack.align := by
  obtain ⟨start, sum, placed⟩ := Option.bind_eq_some_iff.mp placed
  obtain ⟨rounded, found, placed⟩ := Option.bind_eq_some_iff.mp placed
  obtain ⟨last, total, placed⟩ := Option.bind_eq_some_iff.mp placed
  obtain ⟨rfl, _⟩ := Word.checkedAdd?_eq_some_iff.mp sum
  obtain ⟨rfl, _⟩ := Word.checkedAdd?_eq_some_iff.mp total
  have bounds := Alignment.roundUp?_some stack.shape.align_power found
  split at placed
  · next fits =>
    cases placed
    exact ⟨bounds.2.1, bounds.1, rfl, fits, bounds.2.2⟩
  · cases placed

/-- The stack with a block from `offset` to `stop` on top. -/
def pushed (stack : Stack Object) (offset stop : Nat) : Stack Object :=
  (((stack.withHeader offset ⟨stack.top, stack.used⟩).withFilled offset stop
    stack.config.allocPattern).withOffsets offset stop).counted fun counters =>
      counters.recordAllocation stop

@[simp] theorem shape_pushed (stack : Stack Object) (offset stop : Nat) :
    (stack.pushed offset stop).shape = stack.shape := by simp [pushed]

@[simp] theorem config_pushed (stack : Stack Object) (offset stop : Nat) :
    (stack.pushed offset stop).config = stack.config := by simp [pushed]

@[simp] theorem offsets_pushed (stack : Stack Object) (offset stop : Nat) :
    (stack.pushed offset stop).offsets = ⟨offset, stop⟩ := by simp [pushed]

/-- A new block leaves what is in front of its header alone. -/
theorem load_pushed_of_lt {stack : Stack Object} {offset stop address : Nat}
    (below : address + headerSize < offset) :
    (stack.pushed offset stop).memory.load address = stack.memory.load address := by
  rw [pushed, memory_counted, memory_withOffsets, load_withFilled_of_outside _ _ (by omega),
    load_withHeader_of_outside _ _ (by omega) (by omega)]

/-- The header of a new block holds the offsets as they were. -/
theorem headerAt_pushed {stack : Stack Object} {offset stop : Nat} (room : headerSize ≤ offset)
    (top_lt : stack.top < 2 ^ (32 : Nat)) (used_lt : stack.used < 2 ^ (32 : Nat)) :
    (stack.pushed offset stop).headerAt offset = stack.offsets := by
  have read : (stack.withHeader offset stack.offsets).headerAt offset = stack.offsets :=
    headerAt_withHeader stack offset top_lt used_lt
  refine (headerAt_congr room fun address _ last => ?_).trans read
  rw [pushed, memory_counted, memory_withOffsets, load_withFilled_of_outside _ _ (by omega)]
  rfl

/-- Puts a block of `size` bytes on top, from `offset` to `stop`. -/
def pushAt (size offset stop : Nat) : Step Object (Stack Object) Nat := do
  let stack ← Step.get
  Step.assert .blockAligned (Alignment.divides stack.align offset)
  let header ← captureHeader
  writeHeader offset header
  fill offset stop stack.config.allocPattern
  Step.modify (·.withOffsets offset stop)
  count fun counters => counters.recordAllocation stop
  Step.log (.stackPushed size offset stop)
  pure offset

/-- Puts a block of `size` bytes on top, if there is a place for it. -/
def push (size : Nat) : Step Object (Stack Object) Nat := do
  let stack ← Step.get
  match stack.placement? size with
  | none => exhausted size
  | some (offset, stop) => pushAt size offset stop

/-- On a stack whose offsets are in order, a block that has a place is put there. -/
theorem run_push_of_placed {stack : Stack Object} {size offset stop : Nat}
    (ordered : stack.top ≤ stack.used)
    (placed : stack.placement? size = some (offset, stop)) :
    (push size).run stack =
      ⟨.ok offset, stack.pushed offset stop, [.logged (.stackPushed size offset stop)]⟩ := by
  obtain ⟨room, aligned, rfl, inside, _⟩ := placement?_some placed
  have small : stack.capacity < 2 ^ (32 : Nat) := stack.shape.capacity_lt
  have divides : Alignment.divides stack.align offset = true :=
    (Alignment.divides_iff stack.shape.align_power).mpr aligned
  have holds : stack.holdsHeader offset = true := by
    simp only [holdsHeader, Bool.and_eq_true, decide_eq_true_eq]
    omega
  have headed : offset + size ≤
      (stack.withHeader offset ⟨stack.top, stack.used⟩).capacity := by rwa [capacity_withHeader]
  rw [push, Step.run_bind_of_quiet (Step.run_get stack), placed]
  dsimp only
  rw [pushAt, Step.run_bind_of_quiet (Step.run_get stack), divides,
    Step.run_bind_of_quiet (Step.run_assert_true _ _),
    Step.run_bind_of_quiet (run_captureHeader ordered (by omega)),
    Step.run_bind_of_quiet (run_writeHeader holds _),
    Step.run_bind_of_quiet (run_fill (Nat.le_add_right offset size) headed _),
    Step.run_bind_of_quiet (Step.run_modify _ _), Step.run_bind_of_quiet (run_count _ _),
    Step.run_bind_of_ok (Step.run_log _ _), Step.run_pure, pushed]
  rfl

/-- The offset of an address, which has to lie in the buffer. -/
def offsetOf (address : Nat) : Step Object (Stack Object) Nat := do
  let stack ← Step.get
  match stack.offsetOf? address with
  | some offset => pure offset
  | none => misused (.foreign address)

/-- The stack without the block at `offset`, which is on top. -/
def popped (stack : Stack Object) (offset : Nat) : Stack Object :=
  ((stack.withFilled offset stack.used stack.config.deallocPattern).withOffsets
    (stack.headerAt offset).top (stack.headerAt offset).used).counted Counters.recordDeallocation

@[simp] theorem shape_popped (stack : Stack Object) (offset : Nat) :
    (stack.popped offset).shape = stack.shape := by simp [popped]

@[simp] theorem config_popped (stack : Stack Object) (offset : Nat) :
    (stack.popped offset).config = stack.config := by simp [popped]

@[simp] theorem offsets_popped (stack : Stack Object) (offset : Nat) :
    (stack.popped offset).offsets = stack.headerAt offset := by simp [popped]

/-- Taking a block off leaves what is in front of it alone, its header included. -/
theorem load_popped_of_lt {stack : Stack Object} {offset address : Nat} (below : address < offset) :
    (stack.popped offset).memory.load address = stack.memory.load address := by
  rw [popped, memory_counted, memory_withOffsets, load_withFilled_of_outside _ _ (.inl below)]

/-- Takes the block on top off and restores the offsets in its header. -/
def popTop (offset : Nat) : Step Object (Stack Object) Unit := do
  let stack ← Step.get
  let header ← readHeader offset
  Step.assert .headerBelowBlock (header.used ≤ offset - headerSize)
  fill offset stack.used stack.config.deallocPattern
  Step.modify (·.withOffsets header.top header.used)
  count Counters.recordDeallocation
  Step.log (.stackPopped offset header.top header.used)

/-- A block whose header lies in the buffer and records a smaller used part is taken off. -/
theorem run_popTop {stack : Stack Object} {offset : Nat}
    (holds : stack.holdsHeader offset = true)
    (below : (stack.headerAt offset).used ≤ offset - headerSize)
    (ordered : offset ≤ stack.used) (inside : stack.used ≤ stack.capacity) :
    (popTop offset).run stack =
      ⟨.ok (), stack.popped offset,
        [.logged
          (.stackPopped offset (stack.headerAt offset).top (stack.headerAt offset).used)]⟩ := by
  rw [popTop, Step.run_bind_of_quiet (Step.run_get stack),
    Step.run_bind_of_quiet (run_readHeader holds), decide_eq_true below,
    Step.run_bind_of_quiet (Step.run_assert_true _ _),
    Step.run_bind_of_quiet (run_fill ordered inside _),
    Step.run_bind_of_quiet (Step.run_modify _ _), Step.run_bind_of_quiet (run_count _ _),
    Step.run_log, popped]

/-- Takes a block off; the address has to be the start of the block on top. -/
def pop (address : Nat) : Step Object (Stack Object) Unit := do
  let offset ← offsetOf address
  let stack ← Step.get
  if stack.top = 0 then misused (.releaseWhileEmpty offset)
  else if offset ≠ stack.top then misused (.releaseOutOfOrder offset stack.top)
  else popTop offset

/-- Fills what joins or leaves the used part when its end moves to `stop`: bytes that join take the
pattern of new bytes, bytes that leave the pattern of released ones. -/
def fillMoved (stop : Nat) : Step Object (Stack Object) Unit := do
  let stack ← Step.get
  if stack.used < stop then fill stack.used stop stack.config.allocPattern
  else if stop < stack.used then fill stop stack.used stack.config.deallocPattern

/-- The stack with what joins or leaves its used part filled, when the end moves to `stop`. -/
def refilled (stack : Stack Object) (stop : Nat) : Stack Object :=
  if stack.used < stop then stack.withFilled stack.used stop stack.config.allocPattern
  else if stop < stack.used then stack.withFilled stop stack.used stack.config.deallocPattern
  else stack

theorem run_fillMoved {stack : Stack Object} {stop : Nat} (fits : stop ≤ stack.capacity)
    (inside : stack.used ≤ stack.capacity) :
    (fillMoved stop).run stack = ⟨.ok (), stack.refilled stop, []⟩ := by
  rw [fillMoved, Step.run_bind_of_quiet (Step.run_get stack), refilled]
  split
  · next grows => exact run_fill (Nat.le_of_lt grows) fits _
  · split
    · next shrinks => exact run_fill (Nat.le_of_lt shrinks) inside _
    · rfl

/-- The stack with the end of the block on top moved to `stop`. -/
def resized (stack : Stack Object) (stop : Nat) : Stack Object :=
  ((stack.refilled stop).withOffsets stack.top stop).counted fun counters =>
    counters.recordReallocation stop

@[simp] theorem shape_refilled (stack : Stack Object) (stop : Nat) :
    (stack.refilled stop).shape = stack.shape := by
  unfold refilled
  split <;> (try split) <;> simp

@[simp] theorem config_refilled (stack : Stack Object) (stop : Nat) :
    (stack.refilled stop).config = stack.config := by
  unfold refilled
  split <;> (try split) <;> simp

@[simp] theorem counters_refilled (stack : Stack Object) (stop : Nat) :
    (stack.refilled stop).counters = stack.counters := by
  unfold refilled
  split <;> (try split) <;> simp

@[simp] theorem shape_resized (stack : Stack Object) (stop : Nat) :
    (stack.resized stop).shape = stack.shape := by simp [resized]

@[simp] theorem config_resized (stack : Stack Object) (stop : Nat) :
    (stack.resized stop).config = stack.config := by simp [resized]

@[simp] theorem offsets_resized (stack : Stack Object) (stop : Nat) :
    (stack.resized stop).offsets = ⟨stack.top, stop⟩ := by simp [resized]

/-- Moving the end of the used part leaves alone what is below both ends. -/
theorem load_resized_of_lt {stack : Stack Object} {stop address : Nat}
    (kept : address < min stack.used stop) :
    (stack.resized stop).memory.load address = stack.memory.load address := by
  rw [resized, memory_counted, memory_withOffsets, refilled]
  split
  · exact load_withFilled_of_outside _ _ (by omega)
  · split
    · exact load_withFilled_of_outside _ _ (by omega)
    · rfl

/-- Gives the block on top another size where it stands. -/
def resizeTop (offset newSize : Nat) : Step Object (Stack Object) Unit := do
  let stack ← Step.get
  match (Word.checkedAdd? offset newSize).filter (· ≤ stack.capacity) with
  | none => exhausted newSize
  | some stop =>
    fillMoved stop
    Step.modify (·.withOffsets stack.top stop)
    count fun counters => counters.recordReallocation stop
    Step.log (.stackResized offset stack.used stop)

/-- The block on top takes any size that keeps it in the buffer. -/
theorem run_resizeTop {stack : Stack Object} {offset newSize : Nat}
    (fits : offset + newSize ≤ stack.capacity) (inside : stack.used ≤ stack.capacity) :
    (resizeTop offset newSize).run stack =
      ⟨.ok (), stack.resized (offset + newSize),
        [.logged (.stackResized offset stack.used (offset + newSize))]⟩ := by
  have small : stack.capacity < 2 ^ (32 : Nat) := stack.shape.capacity_lt
  have sum : (Word.checkedAdd? offset newSize).filter (· ≤ stack.capacity) =
      some (offset + newSize) := by
    rw [Word.checkedAdd?_eq_some_iff.mpr ⟨rfl, by rw [wordLimit]; omega⟩, Option.filter_some,
      decide_eq_true fits, if_pos rfl]
  rw [resizeTop, Step.run_bind_of_quiet (Step.run_get stack), sum]
  dsimp only
  rw [Step.run_bind_of_quiet (run_fillMoved fits inside),
    Step.run_bind_of_quiet (Step.run_modify _ _), Step.run_bind_of_quiet (run_count _ _),
    Step.run_log, resized]

/-- Gives a block another size: the block on top changes its size where it stands, any other live
block may only keep its size or shrink, and keeps its place. The size zero takes the block off. -/
def resize (block : Option Nat) (newSize oldSize : Nat) :
    Step Object (Stack Object) (Option Nat) :=
  match block with
  | none => some <$> push newSize
  | some address =>
    if newSize = 0 then do
      pop address
      pure none
    else do
      let offset ← offsetOf address
      let stack ← Step.get
      if stack.top ≠ 0 ∧ offset = stack.top then
        resizeTop offset newSize
        pure (some address)
      else if stack.top = 0 ∨ stack.top < offset then
        misused (.resizeDead offset stack.top)
      else if oldSize < newSize then
        misused (.growBelowTop offset oldSize newSize)
      else pure (some address)

/-- Takes a block off; the absent block needs nothing. -/
def release : Option Nat → Step Object (Stack Object) Unit
  | none => pure ()
  | some address => pop address

instance : Allocator Object (Stack Object) where
  alignment := align
  failsFast stack := stack.config.failFast
  memory := memory
  withMemory stack memory := { stack with memory := memory }
  allocate := push
  release := release
  resize := resize

/-- The stack with nothing handed out; the bytes that were in use are filled, if there is a pattern.
-/
def cleared (stack : Stack Object) : Stack Object :=
  (stack.withFilled 0 stack.used stack.config.deallocPattern).withOffsets 0 0

@[simp] theorem shape_cleared (stack : Stack Object) : stack.cleared.shape = stack.shape := by
  simp [cleared]

@[simp] theorem config_cleared (stack : Stack Object) : stack.cleared.config = stack.config := by
  simp [cleared]

@[simp] theorem counters_cleared (stack : Stack Object) :
    stack.cleared.counters = stack.counters := by
  simp [cleared]

@[simp] theorem offsets_cleared (stack : Stack Object) : stack.cleared.offsets = ⟨0, 0⟩ := by
  simp [cleared]

/-- Takes all blocks off at once. -/
def releaseAll : Step Object (Stack Object) Unit := do
  let stack ← Step.get
  Step.log (.stackCleared stack.used)
  fill 0 stack.used stack.config.deallocPattern
  Step.modify (·.withOffsets 0 0)

theorem run_releaseAll {stack : Stack Object} (inside : stack.used ≤ stack.capacity) :
    releaseAll.run stack = ⟨.ok (), stack.cleared, [.logged (.stackCleared stack.used)]⟩ := by
  rw [releaseAll, Step.run_bind_of_quiet (Step.run_get stack),
    Step.run_bind_of_ok (Step.run_log _ _),
    Step.run_bind_of_quiet (run_fill (Nat.zero_le _) inside _), Step.run_modify, cleared,
    List.append_nil]

/-- Takes all blocks off and, where operations are counted, forgets the counts. -/
def reset : Step Object (Stack Object) Unit := do
  releaseAll
  count fun _ => .zero

theorem run_reset {stack : Stack Object} (inside : stack.used ≤ stack.capacity) :
    reset.run stack =
      ⟨.ok (), stack.cleared.counted fun _ => .zero, [.logged (.stackCleared stack.used)]⟩ := by
  rw [reset, Step.run_bind_of_ok (run_releaseAll inside), run_count]
  rfl

end Allotment.Stack
