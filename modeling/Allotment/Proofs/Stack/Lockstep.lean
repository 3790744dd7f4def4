import Mathlib.Data.List.Forall2
import Allotment.Proofs.Stack.Decision

/-! Two sessions side by side. Where their stacks have one shape, treat want of room alike, and have the
same blocks live, calls that differ only in what the caller writes get the same answers and leave the same
blocks live. What the buffers hold, what they are filled with, and what was counted plays no part. -/
namespace Allotment.Stack
variable {Object : Type}

/-- The calls are the same, but for what a caller writes. -/
inductive Call.Alike : Call Object → Call Object → Prop where
  | same (call : Call Object) : Alike call call
  | written (address : Nat) {cells others : List (Cell Object)} (length : cells.length = others.length) :
      Alike (write address cells) (write address others)

namespace Call.Alike
variable {call other : Call Object}

theorem ledger (alike : Alike call other) : call.ledger = other.ledger := by
  cases alike with
  | same => rfl
  | written => rfl

theorem targets_iff (alike : Alike call other) (address : Nat) :
    call.Targets address ↔ other.Targets address := by
  cases alike with
  | same => rfl
  | written start length =>
    change start ≤ address ∧ address < start + _ ↔ start ≤ address ∧ address < start + _
    rw [length]

theorem confined (alike : Alike call other) {blocks : List Extent} (confined : call.Confined blocks) :
    other.Confined blocks := fun address target => confined address ((alike.targets_iff address).mpr target)

theorem decided (alike : Alike call other) (stack : Stack Object) :
    (call.decision stack).answer stack = (other.decision stack).answer stack := by
  cases alike with
  | same => rfl
  | written => rfl

end Call.Alike

namespace Session

/-- The address belongs to a live block. -/
def Occupies (session : Session Object) (address : Nat) : Prop :=
  ∃ block ∈ session.blocks, block.Covers address

/-- The answers that calls get, in order. -/
def answers : Session Object → List (Call Object) → List (Except Fault (Option Nat))
  | _, [] => []
  | session, call :: rest => session.answer call :: (session.perform call).answers rest

/-- Two valid sessions with the same blocks live, on stacks of one shape to which want of room is fatal
in both or in neither. -/
structure Lockstep (one other : Session Object) : Prop where
  valid : one.Valid
  valid' : other.Valid
  shape : one.stack.shape = other.stack.shape
  failFast : one.stack.config.failFast = other.stack.config.failFast
  blocks : one.blocks = other.blocks

namespace Lockstep
variable {one other : Session Object} {call call' : Call Object}

theorem offsets (lockstep : Lockstep one other) : one.stack.offsets = other.stack.offsets := by
  have chain := lockstep.valid.chain
  rw [lockstep.blocks] at chain
  exact chain.unique lockstep.valid'.chain

theorem occupies_iff (lockstep : Lockstep one other) (address : Nat) :
    one.Occupies address ↔ other.Occupies address := by
  rw [Occupies, Occupies, lockstep.blocks]

theorem decision (lockstep : Lockstep one other) (call : Call Object) :
    call.decision one.stack = call.decision other.stack :=
  call.decision_congr lockstep.shape lockstep.offsets

theorem answer (lockstep : Lockstep one other) (alike : Call.Alike call call') :
    one.answer call = other.answer call' := by
  have decided := (call.decision one.stack).answer_congr lockstep.shape lockstep.offsets
    lockstep.failFast
  calc one.answer call
      = (call.decision one.stack).answer one.stack := (lockstep.valid.carriesOut call).answer
    _ = (call.decision one.stack).answer other.stack := decided
    _ = (call.decision other.stack).answer other.stack := by rw [lockstep.decision call]
    _ = (call'.decision other.stack).answer other.stack := alike.decided other.stack
    _ = other.answer call' := (lockstep.valid'.carriesOut call').answer.symm

theorem perform (lockstep : Lockstep one other) (alike : Call.Alike call call')
    (confined : call.Confined one.blocks) : Lockstep (one.perform call) (other.perform call') := by
  have kept := lockstep.valid.transition call
  have kept' := lockstep.valid'.transition call'
  have confined' : call'.Confined other.blocks := lockstep.blocks ▸ alike.confined confined
  constructor
  case valid => exact lockstep.valid.perform confined
  case valid' => exact lockstep.valid'.perform confined'
  case shape => rw [kept.shape, kept'.shape, lockstep.shape]
  case failFast => rw [kept.config, kept'.config, lockstep.failFast]
  case blocks =>
    change one.hold call one.blocks = other.hold call' other.blocks
    rw [hold, hold, lockstep.answer alike, lockstep.blocks, alike.ledger]

end Lockstep
end Session
end Allotment.Stack
