import Allotment.Proofs.Stack.Representation

/-! What a call on a stack comes to is decided before anything is written, and by the shape of the stack
and its offsets alone. What is in the buffer, what was counted, and which bytes blocks are filled with
have no part in it. -/
namespace Allotment.Stack
variable {Object : Type} {stack other : Stack Object}

/-- What a stack makes of a call. -/
inductive Decision (Object : Type) where
  /-- There is too little room. -/
  | refuse (requested : Nat)
  | reject (misuse : StackMisuse)
  /-- Nothing has to be done. -/
  | keep (answer : Option Nat)
  /-- A new block is put on top, with its bytes cleared or not. -/
  | push (start size : Nat) (clears : Bool)
  | pop
  /-- The block on top gets another size. -/
  | resize (newSize : Nat)
  | clear
  | reset
  | forget
  | write (address : Nat) (cells : List (Cell Object))

namespace Decision

/-- The stack once a decision was carried out. -/
def next : Decision Object → Stack Object → Stack Object
  | refuse _, stack => stack.failed
  | reject _, stack => stack
  | keep _, stack => stack
  | push start size false, stack => stack.pushed start (start + size)
  | push start size true, stack => (stack.pushed start (start + size)).zeroed start size
  | pop, stack => stack.popped stack.top
  | resize newSize, stack => stack.resized (stack.top + newSize)
  | clear, stack => stack.cleared
  | reset, stack => stack.cleared.counted fun _ => .zero
  | forget, stack => stack.resetStatistics
  | write address cells, stack => { stack with memory := stack.memory.storeRange address cells }

/-- What the caller is told. -/
def answer : Decision Object → Stack Object → Except Fault (Option Nat)
  | refuse requested, stack => .error ((stack.roomError requested).fault stack.config.failFast)
  | reject misuse, _ => .error (.aborted (.violation component misuse.details))
  | keep answer, _ => .ok answer
  | push start _ _, _ => .ok (some start)
  | resize _, stack => .ok (some stack.top)
  | _, _ => .ok none

/-- Stacks of one shape with the same offsets answer alike, if want of room is fatal in both or in
neither. -/
theorem answer_congr (decision : Decision Object) (shape : stack.shape = other.shape)
    (offsets : stack.offsets = other.offsets)
    (failFast : stack.config.failFast = other.config.failFast) :
    decision.answer stack = decision.answer other := by
  have top : stack.top = other.top := congrArg Header.top offsets
  have used : stack.used = other.used := congrArg Header.used offsets
  have room : ∀ requested, stack.roomError requested = other.roomError requested := by
    intro requested
    rw [roomError, roomError, available, available, capacity, capacity, shape, used]
  cases decision with
  | refuse requested => rw [answer, answer, room, failFast]
  | resize newSize => rw [answer, answer, top]
  | _ => rfl

end Decision

/-- What is decided about a request for a block. -/
def onRequest (stack : Stack Object) (size : Nat) (clears : Bool) : Decision Object :=
  match stack.placement? size with
  | none => .refuse size
  | some (start, _) => .push start size clears

/-- What is decided about giving back what starts at an address. -/
def onRelease (stack : Stack Object) (address : Nat) : Decision Object :=
  match stack.releaseMisuse? address with
  | some misuse => .reject misuse
  | none => .pop

/-- What is decided about another size for what starts at an address, where that size is not zero. -/
def onResize (stack : Stack Object) (address newSize oldSize : Nat) : Decision Object :=
  match stack.resizeMisuse? address newSize oldSize with
  | some misuse => .reject misuse
  | none =>
    if address ≠ stack.top then .keep (some address)
    else if stack.top + newSize ≤ stack.capacity then .resize newSize
    else .refuse newSize

/-- What is decided about a call. -/
def Call.decision : Call Object → Stack Object → Decision Object
  | allocate size, stack => stack.onRequest size false
  | allocateZeroed size, stack => stack.onRequest size true
  | resize none newSize _, stack => stack.onRequest newSize false
  | resize (some address) newSize oldSize, stack =>
    if newSize = 0 then stack.onRelease address else stack.onResize address newSize oldSize
  | release none, _ => .keep none
  | release (some address), stack => stack.onRelease address
  | releaseAll, _ => .clear
  | reset, _ => .reset
  | resetStatistics, _ => .forget
  | write address cells, _ => .write address cells

/-- The shape and the offsets decide. -/
theorem Call.decision_congr (call : Call Object) (shape : stack.shape = other.shape)
    (offsets : stack.offsets = other.offsets) : call.decision stack = call.decision other := by
  obtain ⟨_, _, _, top, used, _⟩ := stack
  obtain ⟨_, _, _, top', used', _⟩ := other
  obtain rfl : top = top' := congrArg Header.top offsets
  obtain rfl : used = used' := congrArg Header.used offsets
  cases shape
  cases call with
  | resize target _ _ => cases target <;> rfl
  | release target => cases target <;> rfl
  | _ => rfl

namespace Session
variable {session : Session Object} {call : Call Object}

/-- A call does what was decided about it. -/
structure CarriesOut (session : Session Object) (call : Call Object) (decision : Decision Object) :
    Prop where
  answer : session.answer call = decision.answer session.stack
  stack : (session.perform call).stack = decision.next session.stack

theorem CarriesOut.of_run {decision : Decision Object} {done : List (Effect Object)}
    (ran : call.operation.run session.stack =
      ⟨decision.answer session.stack, decision.next session.stack, done⟩) :
    session.CarriesOut call decision :=
  ⟨congrArg Outcome.result ran, congrArg Outcome.state ran⟩

namespace Valid
variable (valid : session.Valid)
include valid

theorem carriesOut_request {size : Nat} {clears : Bool} (requested : call.request? = some size)
    (acquired : ∀ start, call.acquired session.stack ⟨start, start + size⟩ =
      (Decision.push start size clears).next session.stack) :
    session.CarriesOut call (session.stack.onRequest size clears) := by
  rw [onRequest]
  cases place : session.stack.placement? size with
  | none => exact .of_run (Call.run_of_unplaced requested place)
  | some pair =>
    obtain ⟨start, stop⟩ := pair
    obtain ⟨_, _, rfl, _, _⟩ := placement?_some place
    have ran := Call.run_of_placed ⟨start, start + size⟩ valid.ordered requested place
    rw [acquired] at ran
    exact .of_run ran

theorem carriesOut_release {address : Nat} (released : call.released? = some address) :
    session.CarriesOut call (session.stack.onRelease address) := by
  rw [onRelease]
  cases found : session.stack.releaseMisuse? address with
  | some misuse => exact .of_run (Call.run_of_release_misuse released found)
  | none =>
    obtain ⟨live, rfl⟩ := (releaseMisuse?_eq_none_iff valid.ordered).mp found
    exact .of_run (Call.run_of_release valid.ordered valid.backed live released)

theorem carriesOut_resize {address newSize : Nat} (oldSize : Nat) (asked : newSize ≠ 0) :
    session.CarriesOut (.resize (some address) newSize oldSize)
      (session.stack.onResize address newSize oldSize) := by
  rw [onResize]
  cases found : session.stack.resizeMisuse? address newSize oldSize with
  | some misuse => exact .of_run (run_resize_of_misuse asked found)
  | none =>
    obtain ⟨live, place⟩ := (resizeMisuse?_eq_none_iff valid.ordered).mp found
    dsimp only
    split
    · next lower =>
      obtain ⟨below, shrinks⟩ := place.resolve_left lower
      exact .of_run (run_resize_of_lower valid.ordered asked below shrinks)
    · next top =>
      obtain rfl : address = session.stack.top := not_not.mp top
      split
      · next fits => exact .of_run (run_resize_of_top valid.ordered oldSize asked live fits)
      · next full =>
        exact .of_run (run_resize_of_full valid.ordered oldSize asked live (Nat.lt_of_not_le full))

/-- On a valid session every call does what is decided about it. -/
theorem carriesOut (call : Call Object) : session.CarriesOut call (call.decision session.stack) := by
  cases call with
  | allocate size => exact valid.carriesOut_request rfl fun _ => rfl
  | allocateZeroed size => exact valid.carriesOut_request rfl fun _ => rfl
  | resize target newSize oldSize =>
    cases target with
    | none => exact valid.carriesOut_request rfl fun _ => rfl
    | some address =>
      cases newSize with
      | zero => exact valid.carriesOut_release rfl
      | succ size => exact valid.carriesOut_resize oldSize (Nat.succ_ne_zero size)
  | release target =>
    cases target with
    | none => exact ⟨rfl, rfl⟩
    | some address => exact valid.carriesOut_release rfl
  | releaseAll =>
    apply CarriesOut.of_run
    rw [Call.operation, Step.run_map, run_releaseAll valid.inside]
    rfl
  | reset =>
    apply CarriesOut.of_run
    rw [Call.operation, Step.run_map, run_reset valid.inside]
    rfl
  | resetStatistics => exact ⟨rfl, rfl⟩
  | write address cells => exact ⟨rfl, rfl⟩

/-- A bulk release is always answered, and leaves no block live. -/
theorem answer_of_bulk (bulk : call.IsBulk) : session.answer call = .ok none := by
  cases call with
  | releaseAll => exact (valid.carriesOut .releaseAll).answer
  | reset => exact (valid.carriesOut .reset).answer
  | _ => exact bulk.elim

theorem blocks_of_bulk (bulk : call.IsBulk) : (session.perform call).blocks = [] := by
  change session.hold call session.blocks = []
  rw [hold, valid.answer_of_bulk bulk]
  cases call with
  | releaseAll => rfl
  | reset => rfl
  | _ => exact bulk.elim

end Valid
end Session
end Allotment.Stack
