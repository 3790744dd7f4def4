import Allotment.Fault
import Allotment.Word

namespace Allotment

structure Counters where
  allocations : Nat
  deallocations : Nat
  reallocations : Nat
  failures : Nat
  /-- The largest use seen when memory was acquired. -/
  peak : Nat
  deriving DecidableEq

namespace Counters

def zero : Counters := ⟨0, 0, 0, 0, 0⟩

/-- A block was acquired; `used` bytes are in use afterwards. -/
def recordAllocation (counters : Counters) (used : Nat) : Counters :=
  { counters with allocations := counters.allocations + 1, peak := max counters.peak used }

def recordDeallocation (counters : Counters) : Counters :=
  { counters with deallocations := counters.deallocations + 1 }

/-- A block was resized in place; `used` bytes are in use afterwards. -/
def recordReallocation (counters : Counters) (used : Nat) : Counters :=
  { counters with reallocations := counters.reallocations + 1, peak := max counters.peak used }

def recordFailure (counters : Counters) : Counters :=
  { counters with failures := counters.failures + 1 }

end Counters

structure Statistics where
  allocatedBytes : Nat
  peakBytes : Nat
  allocations : Nat
  deallocations : Nat
  reallocations : Nat
  failures : Nat
  deriving DecidableEq

/-- The report on the counts while `allocated` bytes are in use. -/
def Counters.report (counters : Counters) (allocated : Nat) : Statistics :=
  ⟨allocated, max counters.peak allocated, counters.allocations, counters.deallocations,
    counters.reallocations, counters.failures⟩

namespace Statistics

/-- Blocks acquired and not released; never below zero. -/
def live (statistics : Statistics) : Nat := statistics.allocations - statistics.deallocations

/-- The share of requests that were met, one when there was none. The number of requests has to be a
word. -/
def efficiency (statistics : Statistics) : Except Abort Float :=
  match Word.checkedAdd? statistics.allocations statistics.failures with
  | none => .error .additionOverflow
  | some attempts =>
    if attempts > 0 then
      .ok (statistics.allocations.toUInt64.toFloat / attempts.toUInt64.toFloat)
    else .ok 1

end Statistics
end Allotment
