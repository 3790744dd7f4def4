import Allotment.Typed
import Allotment.Workbench.Basic

namespace Allotment.Workbench
variable {α : Type}

/-- The address outside every buffer. -/
def foreignAddress : Nat := 2 ^ (63 : Nat)

/-- The allocator of the workbench is a stack. -/
def isStack (bench : Workbench) : Bool := bench.arena.stack?.isSome

/-- The address a target stands for. Released blocks can be named on a stack only, where only the
address counts. -/
def address? (bench : Workbench) : Target → Option Nat
  | .absent => none
  | .block number distance => do
    let block ← bench.blocks[number]?
    if bench.isStack || block.isLive then some (Word.displace block.address distance) else none
  | .offset distance => if bench.isStack then some (Word.displace 0 distance) else none
  | .foreign => some foreignAddress

/-- The address of a block that is to be released or resized: the start of a block, or no block. -/
def blockAt? (bench : Workbench) (target : Target) : Option (Option Nat) :=
  match target with
  | .absent => some none
  | .block _ distance =>
    if bench.isStack || distance == 0 then (bench.address? target).map some else none
  | _ => if bench.isStack then (bench.address? target).map some else none

/-- A range of memory that may be read and written: inside the buffer, or inside a live block. -/
def rangeAt? (bench : Workbench) (target : Target) (count : Nat) : Option Nat := do
  let address ← bench.address? target
  match bench.arena.stack?, target with
  | some stack, _ => if address + count ≤ stack.capacity then some address else none
  | none, .block number _ =>
    let block ← bench.blocks[number]?
    if block.address ≤ address ∧ address + count ≤ block.address + block.size then some address
    else none
  | none, _ => none

/-- Numbers a block that was just handed out. -/
def newBlock (address size : Nat) : Work Answer := do
  let bench ← Step.get
  Step.set { bench with blocks := bench.blocks.push ⟨address, size, true⟩ }
  pure (.block bench.blocks.size (if bench.isStack then some address else none))

/-- Writes the fill byte to bytes of a fresh block on the heap, which hold zeros. -/
def fillFresh (start count : Nat) (fill : UInt8) : Work Unit := do
  let bench ← Step.get
  if !bench.isStack && fill != 0 then
    onArena (Allocator.modifyMemory fun memory => memory.fill start count (.byte fill))

/-- Changes what is noted about the block a target names. -/
def noteBlock (target : Target) (change : Block → Block) : Work Unit :=
  match target with
  | .block number _ => Step.modify fun bench =>
    { bench with blocks := bench.blocks.modify number change }
  | _ => pure ()

/-- Goes on where a lookup found something. -/
def found (result : Option α) (next : α → Work Answer) : Work Answer :=
  match result with
  | none => pure .meaningless
  | some value => next value

/-- Notes what became of a block that was resized to `size` bytes, of which the first `kept` are old
ones. -/
def resized (target : Target) (result : Option Nat) (size kept : Nat) (fill : UInt8) :
    Work Answer := do
  let bench ← Step.get
  match result with
  | none =>
    noteBlock target fun block => { block with isLive := false }
    pure .freed
  | some address =>
    match target with
    | .absent =>
      fillFresh address size fill
      newBlock address size
    | .block number 0 =>
      fillFresh (address + min kept size) (size - min kept size) fill
      noteBlock target fun _ => ⟨address, size, true⟩
      pure (.block number (if bench.isStack then some address else none))
    | _ => pure (.offset address)

/-- How many bytes of a block survive a resize: on the heap all it has, otherwise those the caller
named. -/
def keptBytes (bench : Workbench) (target : Target) (oldSize : Nat) : Nat :=
  match bench.arena, target with
  | .heap _, .block number _ => (bench.blocks[number]?.map Block.size).getD 0
  | _, _ => oldSize

def onBlocks : BlockRequest → Work Answer
  | .allocate size fill => do
    let address ← onArena (Allocator.allocate size)
    fillFresh address size fill
    newBlock address size
  | .allocateZeroed size => do
    let address ← onArena (Allocator.allocateZeroed size)
    newBlock address size
  | .resize target newSize oldSize fill => do
    let bench ← Step.get
    found (bench.blockAt? target) fun block => do
      let result ← onArena (Allocator.resize block newSize oldSize)
      resized target result newSize (bench.keptBytes target oldSize) fill
  | .release target => do
    let bench ← Step.get
    found (bench.blockAt? target) fun block => do
      onArena (Allocator.release block)
      noteBlock target fun block => { block with isLive := false }
      pure .done
  | .read target count => do
    let bench ← Step.get
    found (bench.rangeAt? target count) fun address =>
      pure (.bytes ((Allocator.memory bench.arena).byteRuns address count))
  | .write target bytes => do
    let bench ← Step.get
    found (bench.rangeAt? target bytes.length) fun address => do
      onArena (Allocator.modifyMemory fun memory => memory.writeBytes address bytes)
      pure .done
  | .checkAlignment kind => do
    onArena (Allocator.checkAlignment kind.Carrier)
    pure .done
  | .allocateValue kind literal =>
    found (kind.ofLiteral? literal) fun value => do
      let address ← onArena (Allocator.allocateValue value)
      newBlock address (Element.size kind.Carrier)
  | .allocateArray kind count fill => do
    let address ← onArena (Allocator.allocateArray kind.Carrier count)
    let size := Element.size kind.Carrier * count
    fillFresh address size fill
    newBlock address size
  | .allocateArrayZeroed kind count => do
    let address ← onArena (Allocator.allocateArrayZeroed kind.Carrier count)
    newBlock address (Element.size kind.Carrier * count)
  | .resizeArray kind target oldCount newCount fill => do
    let bench ← Step.get
    found (bench.blockAt? target) fun block => do
      let result ← onArena (Allocator.resizeArray kind.Carrier block oldCount newCount)
      resized target result (Element.size kind.Carrier * newCount)
        (bench.keptBytes target (Element.size kind.Carrier * oldCount)) fill
  | .releaseValue kind target => do
    let bench ← Step.get
    found (bench.blockAt? target).join fun address => do
      onArena (Allocator.releaseValue kind.Carrier address)
      noteBlock target fun block => { block with isLive := false }
      pure .done
  | .releaseArray _ target => do
    let bench ← Step.get
    found (bench.blockAt? target).join fun address => do
      onArena (Allocator.releaseArray address)
      noteBlock target fun block => { block with isLive := false }
      pure .done

def stackOnly (operation : Step Value (Stack Value) Answer) : Work Answer := do
  let answer ← onArena (Arena.onStack operation)
  pure (answer.getD .meaningless)

def onAllocator : AllocatorRequest → Work Answer
  | .describe => do
    let bench ← Step.get
    pure (.allocator (Allocator.alignment bench.arena) (Allocator.failsFast bench.arena))
  | .usage => do
    let bench ← Step.get
    pure (.usage bench.arena.usage)
  | .text => do
    let bench ← Step.get
    pure (.text bench.arena.text)
  | .info => stackOnly do
    let stack ← Step.get
    pure (.stackInfo stack.capacity stack.used stack.available stack.isEmpty stack.config)
  | .ownership target => do
    let bench ← Step.get
    found (bench.address? target) fun address => stackOnly do
      let stack ← Step.get
      pure (.ownership (stack.owns address) (stack.isTop address))
  | .releaseAll => stackOnly do
    Stack.releaseAll
    pure .done
  | .reset => stackOnly do
    Stack.reset
    pure .done
  | .resetStatistics => stackOnly do
    Step.modify Stack.resetStatistics
    pure .done
  | .statistics => stackOnly do
    let stack ← Step.get
    pure (.statistics stack.config.trackStats stack.statistics)

end Allotment.Workbench
