import Allotment.Pool.Config
import Allotment.Statistics
import Allotment.Usage
import Allotment.Workbench.Kind

namespace Allotment

inductive Target where
  | absent
  /-- So many bytes behind the start of a block. -/
  | block (number : Nat) (distance : Int)
  /-- So many bytes behind the start of the buffer. -/
  | offset (distance : Int)
  | foreign

/-- Requests about blocks. New bytes whose content is not defined take the `fill` byte. -/
inductive BlockRequest where
  | allocate (size : Nat) (fill : UInt8)
  | allocateZeroed (size : Nat)
  | resize (target : Target) (newSize oldSize : Nat) (fill : UInt8)
  | release (target : Target)
  | read (target : Target) (count : Nat)
  | write (target : Target) (bytes : List UInt8)
  | checkAlignment (kind : ElementKind)
  | allocateValue (kind : ElementKind) (value : Literal)
  | allocateArray (kind : ElementKind) (count : Nat) (fill : UInt8)
  | allocateArrayZeroed (kind : ElementKind) (count : Nat)
  | resizeArray (kind : ElementKind) (target : Target) (oldCount newCount : Nat) (fill : UInt8)
  | releaseValue (kind : ElementKind) (target : Target)
  | releaseArray (kind : ElementKind) (target : Target)

inductive AllocatorRequest where
  | describe
  | usage
  | text
  | info
  | ownership (target : Target)
  | releaseAll
  | reset
  | resetStatistics
  | statistics

inductive Site where
  | arena
  | process
  deriving DecidableEq

inductive ArrayRequest where
  | create (kind : ElementKind) (capacity : Option Nat) (site : Site)
  | push (value : Literal)
  | pushMany (values : List Literal)
  | pop
  | get (index : Nat)
  | replace (index : Nat) (value : Literal)
  | reserve (additional : Nat)
  | clear
  | reverse
  | elements
  | info
  | text
  | dispose

/-- An identifier: one that was issued, or one made from a word. -/
inductive IdRef where
  | issued (number : Nat)
  | raw (word : UInt64)

inductive PoolRequest where
  | insert (value : Literal)
  | get (id : IdRef)
  | contains (id : IdRef)
  | remove (id : IdRef)
  | tryRemove (id : IdRef)
  | replace (id : IdRef) (value : Literal)
  | info
  | elements
  | config
  | text

inductive Request where
  | block (request : BlockRequest)
  | allocator (request : AllocatorRequest)
  | array (name : String) (request : ArrayRequest)
  | createPool (name : String) (kind : ElementKind) (config : Option PoolConfig) (site : Site)
  | pool (name : String) (request : PoolRequest)
  | dropPool (name : String)
  | destroyPool (name : String)
  | createShared (handle : String) (kind : ElementKind) (config : Option PoolConfig) (site : Site)
  | shared (handle : String) (request : PoolRequest)
  | cloneHandle (handle target : String)
  | dropHandle (handle : String)
  | destroyShared (handle : String)
  | sharedInfo (handle : String)
  | sharedContent (handle : String)
  | sharedText (handle : String)

inductive Answer where
  | done
  | freed
  /-- A block by number, with its offset on a stack. -/
  | block (number : Nat) (offset : Option Nat)
  | offset (offset : Nat)
  | bytes (content : List (Run UInt8))
  | allocator (alignment : Nat) (failsFast : Bool)
  | usage (report : Usage)
  | text (content : String)
  | stackInfo (capacity used available : Nat) (isEmpty : Bool) (config : StackConfig)
  | ownership (owned isTop : Bool)
  | statistics (enabled : Bool) (report : Statistics)
  | flag (value : Bool)
  | value (value : Option Value)
  | values (values : List Value)
  | pushed (count : Nat) (capacities : List Nat) (failure : Option Fault)
  | arrayInfo (length capacity : Nat) (first : Option Value) (alignment : Nat)
  | issued (id : ResourceId) (number : Nat)
  | poolInfo (length slots free : Nat)
  | entries (entries : List (ResourceId × Value))
  | poolConfig (config : PoolConfig)
  | leaked (count : Nat)
  | stillShared
  | sharedInfo (length handles : Nat)
  | sharedContent (slots free : Nat) (entries : List (ResourceId × Value))
  /-- The request makes no sense here. -/
  | meaningless

/-- What the library says of itself. -/
def version : String := "0.1.0"

end Allotment
