import Allotment.Heap
import Allotment.Stack.Operations
import Allotment.Workbench.Kind

namespace Allotment

/-- An allocator of one of the four forms. -/
inductive Arena where
  | stack (stack : Stack Value)
  | heap (heap : Heap Value)
  | wrappedStack (wrapper : Forwarding (Stack Value))
  | wrappedHeap (wrapper : Forwarding (Heap Value))

namespace Arena
variable {α : Type}

/-- Runs an operation that every allocator has. -/
def run (operation : {σ : Type} → [Allocator Value σ] → Step Value σ α) : Step Value Arena α :=
  ⟨fun
    | stack inner => (operation.run inner).mapState stack
    | heap inner => (operation.run inner).mapState heap
    | wrappedStack inner => (operation.run inner).mapState wrappedStack
    | wrappedHeap inner => (operation.run inner).mapState wrappedHeap⟩

/-- Looks at an allocator of any form. -/
def look (view : {σ : Type} → [Allocator Value σ] → σ → α) : Arena → α
  | stack inner => view inner
  | heap inner => view inner
  | wrappedStack inner => view inner
  | wrappedHeap inner => view inner

instance : Allocator Value Arena where
  alignment := look Allocator.alignment
  failsFast := look Allocator.failsFast
  memory := look Allocator.memory
  withMemory
    | stack inner, memory => stack (Allocator.withMemory inner memory)
    | heap inner, memory => heap (Allocator.withMemory inner memory)
    | wrappedStack inner, memory => wrappedStack (Allocator.withMemory inner memory)
    | wrappedHeap inner, memory => wrappedHeap (Allocator.withMemory inner memory)
  allocate size := run (Allocator.allocate size)
  release block := run (Allocator.release block)
  allocateZeroed size := run (Allocator.allocateZeroed size)
  resize block newSize oldSize := run (Allocator.resize block newSize oldSize)

def stack? : Arena → Option (Stack Value)
  | stack inner => some inner
  | wrappedStack wrapper => some wrapper.inner
  | heap _ | wrappedHeap _ => none

/-- Runs an operation that only stacks have; other arenas answer nothing. -/
def onStack (operation : Step Value (Stack Value) α) : Step Value Arena (Option α) :=
  ⟨fun
    | stack inner => ((some <$> operation).run inner).mapState stack
    | wrappedStack wrapper =>
      ((some <$> operation).run wrapper.inner).mapState fun inner => wrappedStack ⟨inner⟩
    | heap inner => ⟨.ok none, heap inner, []⟩
    | wrappedHeap inner => ⟨.ok none, wrappedHeap inner, []⟩⟩

/-- What is in use and what is left, as far as the allocator behind the arena knows. -/
def usage : Arena → Usage
  | stack inner => inner.usage
  | heap inner => inner.usage
  | wrappedStack wrapper => wrapper.inner.usage
  | wrappedHeap wrapper => wrapper.inner.usage

def text : Arena → String
  | stack inner => inner.text
  | heap inner => inner.text
  | wrappedStack wrapper => wrapper.inner.text
  | wrappedHeap wrapper => wrapper.inner.text

/-- How an arena is to be built. -/
inductive Plan where
  | stack (capacity align : Nat) (config : StackConfig) (wrapped : Bool)
  | heap (failFast wrapped : Bool)

def create {σ : Type} : Plan → Step Value σ Arena
  | .stack capacity align config wrapped => do
    let inner ← Stack.create capacity align config
    pure (if wrapped then .wrappedStack ⟨inner⟩ else .stack inner)
  | .heap failFast wrapped =>
    pure (if wrapped then .wrappedHeap ⟨.empty failFast⟩ else .heap (.empty failFast))

end Arena
end Allotment
