import Allotment.Alignment
import Allotment.General
import Allotment.Stream.Desk
import Allotment.Workbench.Containers
import Allotment.Proofs.Rounding
import Allotment.Proofs.Stack.Outcome
import Allotment.Proofs.Stack.Chain
import Allotment.Proofs.Stack.Session
import Allotment.Proofs.Stack.Transition
import Allotment.Proofs.Stack.Representation
import Allotment.Proofs.Stack.Isolation
import Allotment.Proofs.Stack.Restoration
import Allotment.Proofs.Stack.Decision
import Allotment.Proofs.Allocator.Contract
import Allotment.Proofs.Allocator.Forwarding
import Allotment.Proofs.Allocator.Heap
import Allotment.Proofs.Allocator.SystemHeap
import Allotment.Proofs.Allocator.General
import Allotment.Proofs.Allocator.ProcessHeap
import Allotment.Proofs.Allocator.Stack
import Allotment.Proofs.Allocator.Bounded
import Allotment.Proofs.Allocator.Rationed
import Allotment.Proofs.Allocator.Recorded
import Allotment.Proofs.GrowArray.Contents
import Allotment.Proofs.GrowArray.Growth
import Allotment.Proofs.GrowArray.Calls
import Allotment.Proofs.GrowArray.Unsized
import Allotment.Proofs.GrowArray.Refinement
import Allotment.Proofs.Pool.SlotTable
import Allotment.Proofs.Pool.Identifiers
import Allotment.Proofs.Pool.Operations
import Allotment.Proofs.Pool.Registry
import Allotment.Proofs.Pool.Refinement
import Allotment.Proofs.Pool.Calls
import Allotment.Proofs.Allocator.Effects
import Allotment.Proofs.Allocator.Steady
import Allotment.Proofs.Pool.History
import Allotment.Proofs.Pool.Timeline
import Allotment.Proofs.Pool.Reuse
import Allotment.Proofs.Pool.Teardown
import Allotment.Proofs.Pool.Atomicity
import Allotment.Proofs.Pool.Prepaid
import Allotment.Proofs.Stream.Session
import Allotment.Proofs.SharedPool.Session
import Allotment.Proofs.SharedPool.Streams
import Allotment.Proofs.SharedPool.Ownership
import Allotment.Proofs.Stream.Closing
import Allotment.Proofs.Stream.Frame
import Allotment.Proofs.Stream.PlainFile
import Allotment.Proofs.Stream.Unbuffered
import Allotment.Proofs.Stream.Refusal
import Allotment.Proofs.SharedStack.Turn
import Allotment.Proofs.SharedStack.Arrays
import Allotment.Proofs.SharedStack.Pools
import Allotment.Proofs.SharedStack.Containers
import Allotment.Proofs.SharedStack.Session
import Allotment.Proofs.SharedStack.Independence
import Allotment.Proofs.Stack.Rejection
import Allotment.Proofs.Stack.Lockstep
import Allotment.Proofs.Stack.Scrubbing
import Allotment.Proofs.Stack.Transparency
import Allotment.Proofs.Stack.Placement
import Allotment.Proofs.Stack.Replacement
import Allotment.Proofs.Stack.Counting
import Allotment.Proofs.Stack.HighWater
import Allotment.Proofs.Stack.Values
import Allotment.Proofs.Stack.Destruction
import Allotment.Proofs.FailFast.Mirrored
import Allotment.Proofs.FailFast.Allocators
import Allotment.Proofs.FailFast.Containers
import Allotment.Proofs.FailFast.Program
import Allotment.Proofs.Accounting.Deed
import Allotment.Proofs.Accounting.Rules
import Allotment.Proofs.Accounting.Stack
import Allotment.Proofs.Accounting.Containers
import Allotment.Proofs.Accounting.Program
import Allotment.Proofs.Stream.ReadOnly
import Allotment.Proofs.GrowArray.Conservation
import Allotment.Proofs.Pool.Conservation
import Allotment.Proofs.GrowArray.InPlace
import Allotment.Proofs.Stack.Renewal
import Allotment.Proofs.Stack.ArrayRequests
import Allotment.Proofs.GrowArray.Doubling
import Allotment.Proofs.Rationed.Turn
import Allotment.Proofs.Rationed.Blocks
import Allotment.Proofs.Rationed.Arrays
import Allotment.Proofs.Rationed.Pools
import Allotment.Proofs.Rationed.Containers
import Allotment.Proofs.Rationed.Shared
import Allotment.Proofs.Rationed.Program
import Allotment.Proofs.Rationed.General
import Allotment.Proofs.Rationed.ProcessHeap
import Allotment.Proofs.Rationed.Equivalence
