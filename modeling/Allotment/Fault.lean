import Allotment.Error

namespace Allotment

/-- An internal condition that an operation checks before it goes on. -/
inductive Assertion where
  | alignmentIsPowerOfTwo
  | blockAligned
  /-- A new header records a block that starts before the end of the used part. -/
  | headerOrdered
  /-- A new header records offsets of 32 bits. -/
  | headerFits
  /-- The eight bytes in front of a block lie in the buffer. -/
  | headerInBuffer
  /-- The used part that a header restores ends before that header. -/
  | headerBelowBlock
  /-- A pattern is written to an ordered range of the buffer. -/
  | fillInBuffer
  /-- An array that grows has elements that take room, and gains some. -/
  | arrayGrows
  deriving DecidableEq

/-- The condition as it is written in diagnostics. -/
def Assertion.text : Assertion → String
  | .alignmentIsPowerOfTwo => "alignment.is_power_of_two()"
  | .blockAligned => "is_aligned(offset, ALIGN)"
  | .headerOrdered => "prev_offset <= curr_offset"
  | .headerFits => "u32::try_from(curr_offset).is_ok()"
  | .headerInBuffer => "offset >= HEADER_SIZE && offset <= self.len()"
  | .headerBelowBlock => "header.curr_offset() <= offset - HEADER_SIZE"
  | .fillInBuffer => "start <= end && end <= self.len()"
  | .arrayGrows => "!Self::IS_ZST && new_cap > self.cap"

/-- Why an operation was ended. -/
inductive Abort where
  /-- The caller broke a rule of `component`. -/
  | violation (component details : String)
  /-- A capacity failure where such failures are fatal. -/
  | failFast (error : MemoryError)
  | additionOverflow
  | assertionFailed (condition : Assertion)
  | outOfBounds (length index : Nat)
  deriving DecidableEq

def Abort.message : Abort → String
  | .violation component details => component ++ ": usage violation: " ++ details
  | .failFast error => "fail-fast: " ++ error.message
  | .additionOverflow => "attempt to add with overflow"
  | .assertionFailed condition => "assertion failed: " ++ condition.text
  | .outOfBounds length index =>
    s!"index out of bounds: the len is {length} but the index is {index}"

/-- An operation that did not finish was refused or ended. -/
inductive Fault where
  | refused (error : MemoryError)
  | aborted (cause : Abort)
  deriving DecidableEq

end Allotment
