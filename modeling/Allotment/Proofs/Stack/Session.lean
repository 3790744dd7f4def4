import Allotment.Proofs.Stack.Chain

/-! Sessions on a stack: calls in any order, faults caught, with a ledger of the blocks that are live.
The ledger knows only what was called and what was answered. -/
namespace Allotment.Stack
variable {Object : Type} {stack : Stack Object}

/-- What a caller does with a stack. -/
inductive Call (Object : Type) where
  | allocate (size : Nat)
  | allocateZeroed (size : Nat)
  | resize (block : Option Nat) (newSize oldSize : Nat)
  | release (block : Option Nat)
  | releaseAll
  | reset
  | resetStatistics
  /-- The caller writes cells to an address. -/
  | write (address : Nat) (cells : List (Cell Object))

namespace Call

/-- The operation behind a call, with the address it answers. -/
def operation : Call Object → Step Object (Stack Object) (Option Nat)
  | allocate size => some <$> Allocator.allocate size
  | allocateZeroed size => some <$> Allocator.allocateZeroed size
  | resize block newSize oldSize => Allocator.resize block newSize oldSize
  | release block => (fun _ => none) <$> Allocator.release block
  | releaseAll => (fun _ => none) <$> Stack.releaseAll
  | reset => (fun _ => none) <$> Stack.reset
  | resetStatistics => (fun _ => none) <$> Step.modify Stack.resetStatistics
  | write address cells =>
    (fun _ => none) <$> Allocator.modifyMemory fun memory => memory.storeRange address cells

/-- The blocks with the end of the last one moved, if that one starts at `start`. A block below keeps
its place whatever size its caller gives it. -/
def moveEnd (start stop : Nat) : List Extent → List Extent
  | [] => []
  | top :: rest => if top.start = start then ⟨start, stop⟩ :: rest else top :: rest

/-- The live blocks, last acquired first, after a call that was answered. -/
def ledger (call : Call Object) (answer : Option Nat) (blocks : List Extent) : List Extent :=
  match call, answer with
  | allocate size, some start => ⟨start, start + size⟩ :: blocks
  | allocateZeroed size, some start => ⟨start, start + size⟩ :: blocks
  | resize none size _, some start => ⟨start, start + size⟩ :: blocks
  | resize (some start) size _, some _ => moveEnd start (start + size) blocks
  | resize (some start) _ _, none => blocks.filter fun block => block.start != start
  | release (some start), _ => blocks.filter fun block => block.start != start
  | releaseAll, _ => []
  | reset, _ => []
  | _, _ => blocks

/-- The caller writes to the address itself. -/
def Targets : Call Object → Nat → Prop
  | write start cells, address => start ≤ address ∧ address < start + cells.length
  | _, _ => False

/-- The caller writes to live blocks only. -/
def Confined (call : Call Object) (blocks : List Extent) : Prop :=
  ∀ address, call.Targets address → ∃ block ∈ blocks, block.Covers address

/-- The bytes asked for, where a new block is. -/
def request? : Call Object → Option Nat
  | allocate size => some size
  | allocateZeroed size => some size
  | resize none size _ => some size
  | _ => none

/-- The address to be given back, where one is. -/
def released? : Call Object → Option Nat
  | resize (some start) 0 _ => some start
  | release (some start) => some start
  | _ => none

/-- All blocks are given back at once. -/
def IsBulk : Call Object → Prop
  | releaseAll | reset => True
  | _ => False

/-- The stack once a request found its place. -/
def acquired (call : Call Object) (stack : Stack Object) (block : Extent) : Stack Object :=
  match call with
  | allocateZeroed size => (stack.pushed block.start block.stop).zeroed block.start size
  | _ => stack.pushed block.start block.stop

section Runs
variable {call : Call Object}

theorem load_write_of_missed {start address : Nat} {cells : List (Cell Object)}
    (missed : ¬ (write start cells).Targets address) (memory : Memory Object) :
    (memory.storeRange start cells).load address = memory.load address := by
  refine memory.load_storeRange_of_outside ?_
  by_cases low : address < start
  · exact .inl low
  · exact .inr (Nat.le_of_not_lt fun high => missed ⟨Nat.le_of_not_lt low, high⟩)

theorem acquired_eq (call : Call Object) (stack : Stack Object) (block : Extent) :
    ∃ memory, call.acquired stack block =
        { stack.pushed block.start block.stop with memory := memory } ∧
      ∀ address, address < block.start →
        memory.load address = (stack.pushed block.start block.stop).memory.load address := by
  cases call with
  | allocateZeroed size =>
    exact ⟨_, rfl, fun address below => Memory.load_fill_of_outside _ _ (.inl below)⟩
  | _ => exact ⟨_, rfl, fun address below => rfl⟩

theorem request_cases {size : Nat} (requested : call.request? = some size) :
    call = allocate size ∨ call = allocateZeroed size ∨ ∃ oldSize, call = resize none size oldSize := by
  cases call with
  | allocate _ => cases requested; exact .inl rfl
  | allocateZeroed _ => cases requested; exact .inr (.inl rfl)
  | resize target _ oldSize =>
    cases target with
    | none => cases requested; exact .inr (.inr ⟨oldSize, rfl⟩)
    | some _ => cases requested
  | _ => cases requested

theorem release_cases {address : Nat} (released : call.released? = some address) :
    call = release (some address) ∨ ∃ oldSize, call = resize (some address) 0 oldSize := by
  cases call with
  | resize target newSize oldSize =>
    match target, newSize with
    | some _, 0 => cases released; exact .inr ⟨oldSize, rfl⟩
    | none, 0 => cases released
    | none, _ + 1 => cases released
    | some _, _ + 1 => cases released
  | release target =>
    cases target with
    | none => cases released
    | some _ => cases released; exact .inl rfl
  | _ => cases released

theorem ledger_of_request {size : Nat} (requested : call.request? = some size) (start : Nat)
    (blocks : List Extent) :
    call.ledger (some start) blocks = ⟨start, start + size⟩ :: blocks := by
  rcases request_cases requested with rfl | rfl | ⟨_, rfl⟩ <;> rfl

theorem ledger_of_released {address : Nat} (released : call.released? = some address)
    (blocks : List Extent) :
    call.ledger none blocks = blocks.filter fun block => block.start != address := by
  rcases release_cases released with rfl | ⟨_, rfl⟩ <;> rfl

theorem run_of_unplaced {size : Nat} (requested : call.request? = some size)
    (unplaced : stack.placement? size = none) :
    call.operation.run stack = stack.exhaustedOutcome size := by
  have pushed : (some <$> push size).run stack = stack.exhaustedOutcome size := by
    rw [Step.run_map, run_push_of_unplaced unplaced]
    rfl
  rcases request_cases requested with rfl | rfl | ⟨_, rfl⟩
  · exact pushed
  · rw [operation, Step.run_map, run_allocateZeroed_of_unplaced unplaced]
    rfl
  · exact pushed

theorem run_of_placed {size : Nat} (block : Extent) (ordered : stack.Ordered)
    (requested : call.request? = some size)
    (placed : stack.placement? size = some (block.start, block.stop)) :
    call.operation.run stack =
      ⟨.ok (some block.start), call.acquired stack block,
        [.logged (.stackPushed size block.start block.stop)]⟩ := by
  have pushed : (some <$> push size).run stack = ⟨.ok (some block.start),
      stack.pushed block.start block.stop, [.logged (.stackPushed size block.start block.stop)]⟩ := by
    rw [Step.run_map, run_push_of_placed ordered.top_le_used placed]
    rfl
  rcases request_cases requested with rfl | rfl | ⟨_, rfl⟩
  · exact pushed
  · rw [operation, Step.run_map, run_allocateZeroed_of_placed ordered placed]
    rfl
  · exact pushed

private theorem operation_of_released {address : Nat} (released : call.released? = some address) :
    call.operation = (fun _ => none) <$> pop address := by
  rcases release_cases released with rfl | ⟨_, rfl⟩ <;> rfl

theorem run_of_release_misuse {address : Nat} {misuse : StackMisuse}
    (released : call.released? = some address)
    (found : stack.releaseMisuse? address = some misuse) :
    call.operation.run stack = stack.misuseOutcome misuse := by
  rw [operation_of_released released, Step.run_map, run_pop_of_misuse found]
  rfl

theorem run_of_release (ordered : stack.Ordered) (backed : stack.Backed) (live : stack.top ≠ 0)
    (released : call.released? = some stack.top) :
    call.operation.run stack =
      ⟨.ok none, stack.popped stack.top,
        [.logged (.stackPopped stack.top (stack.headerAt stack.top).top
          (stack.headerAt stack.top).used)]⟩ := by
  rw [operation_of_released released, Step.run_map, run_pop ordered backed live]
  rfl

end Runs
end Call

/-- A stack and the blocks that are live, last acquired first. -/
structure Session (Object : Type) where
  stack : Stack Object
  blocks : List Extent

namespace Session
variable {session : Session Object} {call : Call Object}

/-- What a call answers. -/
def answer (session : Session Object) (call : Call Object) : Except Fault (Option Nat) :=
  (call.operation.run session.stack).result

/-- What a call makes of blocks that are held. A fault is caught, and they stay as they were. -/
def hold (session : Session Object) (call : Call Object) (held : List Extent) : List Extent :=
  match session.answer call with
  | .ok answer => call.ledger answer held
  | .error _ => held

/-- The session after a call. -/
def perform (session : Session Object) (call : Call Object) : Session Object :=
  ⟨(call.operation.run session.stack).state, session.hold call session.blocks⟩

/-- The session after calls. -/
def after (session : Session Object) (calls : List (Call Object)) : Session Object :=
  calls.foldl perform session

/-- Each call keeps a rule at its turn. -/
def Follows (rule : Session Object → Call Object → Prop) :
    Session Object → List (Call Object) → Prop
  | _, [] => True
  | session, call :: rest => rule session call ∧ (session.perform call).Follows rule rest

/-- Each call writes to blocks that are live by then. -/
def Permits : Session Object → List (Call Object) → Prop :=
  Follows fun session call => call.Confined session.blocks

/-- The sessions that begin with a new stack. -/
inductive Reachable : Session Object → Prop where
  | created {capacity align : Nat} {config : StackConfig} {stack : Stack Object}
      {done : List (Effect Object)}
      (built : (Stack.create capacity align config).run () = ⟨.ok stack, (), done⟩) :
      Reachable ⟨stack, []⟩
  | performed {session : Session Object} {call : Call Object} (reached : Reachable session)
      (confined : call.Confined session.blocks) : Reachable (session.perform call)

theorem Reachable.after (reached : Reachable session) (calls : List (Call Object))
    (permitted : session.Permits calls) : Reachable (session.after calls) := by
  induction calls generalizing session with
  | nil => exact reached
  | cons call rest ih => exact ih (reached.performed permitted.1) permitted.2

theorem perform_of_ok {answer : Option Nat} {last : Stack Object} {done : List (Effect Object)}
    (ran : call.operation.run session.stack = ⟨.ok answer, last, done⟩) :
    session.perform call = ⟨last, call.ledger answer session.blocks⟩ := by
  rw [perform, hold, Session.answer, ran]

theorem perform_of_error {fault : Fault} {last : Stack Object} {done : List (Effect Object)}
    (ran : call.operation.run session.stack = ⟨.error fault, last, done⟩) :
    session.perform call = ⟨last, session.blocks⟩ := by
  rw [perform, hold, Session.answer, ran]

end Session
end Allotment.Stack
