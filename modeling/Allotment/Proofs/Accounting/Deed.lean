import Allotment.Proofs.Stack.Outcome

/-! What an operation does to the books of a stack: its offsets and its counts. An operation pushes one
block, pops one, resizes the one on top, ends for want of room, or leaves the offsets alone, and it logs
and counts accordingly. -/
namespace Allotment
variable {Object α β : Type}

namespace Event

/-- A block was put on top of a stack. -/
def isPush : Event → Bool
  | stackPushed .. => true
  | _ => false

/-- The block on top of a stack was taken off. -/
def isPop : Event → Bool
  | stackPopped .. => true
  | _ => false

/-- The block on top of a stack was resized where it stands. -/
def isResize : Event → Bool
  | stackResized .. => true
  | _ => false

/-- A stack had too little room. -/
def isShortage : Event → Bool
  | arenaExhausted .. => true
  | _ => false

def isCounted (event : Event) : Bool :=
  event.isPush || event.isPop || event.isResize || event.isShortage

end Event

/-- The counted events of a trace, in order. -/
def Effect.counted (effects : List (Effect Object)) : List Event :=
  (events effects).filter Event.isCounted

@[simp] theorem Effect.counted_append (first second : List (Effect Object)) :
    counted (first ++ second) = counted first ++ counted second := by
  simp [counted]

@[simp] theorem Effect.counted_destroyed (objects : List Object) :
    counted (objects.map Effect.destroyed) = [] := by
  have none : events (objects.map Effect.destroyed) = [] := by
    simp [events]
  rw [counted, none]
  rfl

namespace Counters

/-- The counts with one more event. -/
def note (counters : Counters) : Event → Counters
  | .stackPushed _ _ stop => counters.recordAllocation stop
  | .stackPopped .. => counters.recordDeallocation
  | .stackResized _ _ stop => counters.recordReallocation stop
  | .arenaExhausted .. => counters.recordFailure
  | _ => counters

def noteAll (counters : Counters) (events : List Event) : Counters := events.foldl note counters

theorem noteAll_counts (events : List Event) (counters : Counters) :
    (counters.noteAll events).allocations = counters.allocations + events.countP Event.isPush ∧
      (counters.noteAll events).deallocations = counters.deallocations + events.countP Event.isPop ∧
      (counters.noteAll events).reallocations =
        counters.reallocations + events.countP Event.isResize ∧
      (counters.noteAll events).failures = counters.failures + events.countP Event.isShortage := by
  induction events generalizing counters with
  | nil => exact ⟨rfl, rfl, rfl, rfl⟩
  | cons event rest ih =>
    obtain ⟨allocations, deallocations, reallocations, failures⟩ := ih (counters.note event)
    have step : counters.noteAll (event :: rest) = (counters.note event).noteAll rest := rfl
    rw [step, allocations, deallocations, reallocations, failures]
    cases event <;>
      simp only [note, recordAllocation, recordDeallocation, recordReallocation, recordFailure,
        List.countP_cons, Event.isPush, Event.isPop, Event.isResize, Event.isShortage] <;>
      simp +arith

end Counters

/-- The fault says that a stack had too little room, whether that was fatal or not. -/
def Fault.isShortage : Fault → Bool
  | refused (.arenaExhausted ..) | aborted (.failFast (.arenaExhausted ..)) => true
  | _ => false

/-- An operation ended in some other way than for want of room in a stack. -/
def FoundRoom (result : Except Fault α) : Prop :=
  ∀ fault, result = .error fault → fault.isShortage = false

theorem FoundRoom.of_ok (answer : α) : FoundRoom (.ok answer) := fun _ failed => nomatch failed

theorem FoundRoom.of_error {fault : Fault} (other : fault.isShortage = false) :
    FoundRoom (.error fault : Except Fault α) := by
  rintro _ ⟨⟩
  exact other

namespace Stack
variable {before middle after : Stack Object}

/-- The two stacks differ at most in what lies in their memory. -/
structure Unmoved (before after : Stack Object) : Prop where
  shape : after.shape = before.shape
  config : after.config = before.config
  offsets : after.offsets = before.offsets
  counters : after.counters = before.counters

namespace Unmoved

theorem refl (stack : Stack Object) : Unmoved stack stack := ⟨rfl, rfl, rfl, rfl⟩

theorem trans (first : Unmoved before middle) (second : Unmoved middle after) :
    Unmoved before after where
  shape := second.shape.trans first.shape
  config := second.config.trans first.config
  offsets := second.offsets.trans first.offsets
  counters := second.counters.trans first.counters

theorem top (unmoved : Unmoved before after) : after.top = before.top :=
  congrArg Header.top unmoved.offsets

theorem used (unmoved : Unmoved before after) : after.used = before.used :=
  congrArg Header.used unmoved.offsets

theorem capacity (unmoved : Unmoved before after) : after.capacity = before.capacity :=
  congrArg StackShape.capacity unmoved.shape

end Unmoved

/-- What became of the offsets, with the result of the operation and the counted events. -/
inductive Deed (before after : Stack Object) : Except Fault α → List Event → Prop where
  | idle {result : Except Fault α} (offsets : after.offsets = before.offsets)
      (roomy : FoundRoom result) : Deed before after result []
  | pushed {answer : α} {size offset stop : Nat} (room : before.used + headerSize ≤ offset)
      (sum : stop = offset + size) (fits : stop ≤ before.capacity)
      (offsets : after.offsets = ⟨offset, stop⟩) :
      Deed before after (.ok answer) [.stackPushed size offset stop]
  | popped {answer : α} {top used : Nat} (live : before.top ≠ 0)
      (below : used + headerSize ≤ before.top) (offsets : after.offsets = ⟨top, used⟩) :
      Deed before after (.ok answer) [.stackPopped before.top top used]
  | resized {answer : α} {stop : Nat} (live : before.top ≠ 0) (fits : stop ≤ before.capacity)
      (offsets : after.offsets = ⟨before.top, stop⟩) :
      Deed before after (.ok answer) [.stackResized before.top before.used stop]
  /-- There was too little room, which is fatal where such failures are. -/
  | failed {requested : Nat} (offsets : after.offsets = before.offsets) :
      Deed before after (.error ((before.roomError requested).fault before.config.failFast))
        [.arenaExhausted component requested before.available]

private theorem isShortage_roomError (stack : Stack Object) (requested : Nat) (failFast : Bool) :
    ((stack.roomError requested).fault failFast).isShortage = true := by
  cases failFast <;> rfl

/-- What was done goes with the events, and the events with the counts, where operations are counted. -/
structure Account (before after : Stack Object) (result : Except Fault α) (events : List Event) :
    Prop where
  shape : after.shape = before.shape
  config : after.config = before.config
  counters : after.counters = (before.counted fun counters => counters.noteAll events).counters
  deed : Deed before after result events

theorem counters_counted_eq (stack : Stack Object) (record : Counters → Counters) :
    (stack.counted record).counters =
      if stack.config.trackStats then record stack.counters else stack.counters := by
  unfold counted
  split <;> rfl

theorem counters_counted_congr {stack other : Stack Object} (config : other.config = stack.config)
    (counters : other.counters = stack.counters) (record : Counters → Counters) :
    (other.counted record).counters = (stack.counted record).counters := by
  rw [counters_counted_eq, counters_counted_eq, config, counters]

theorem Unmoved.account {result : Except Fault α} (unmoved : Unmoved before after)
    (roomy : FoundRoom result) : Account before after result [] where
  shape := unmoved.shape
  config := unmoved.config
  counters := by
    rw [counters_counted_eq, unmoved.counters]
    exact (ite_self _).symm
  deed := .idle unmoved.offsets roomy

namespace Account
variable {result : Except Fault α} {events : List Event}

theorem after_unmoved (first : Unmoved before middle) (account : Account middle after result events) :
    Account before after result events := by
  obtain ⟨shape, config, counters, deed⟩ := account
  refine ⟨shape.trans first.shape, config.trans first.config, ?_, ?_⟩
  · rw [counters, counters_counted_eq, counters_counted_eq, first.config, first.counters]
  · cases deed with
    | idle offsets roomy => exact .idle (offsets.trans first.offsets) roomy
    | pushed room sum fits offsets =>
      rw [first.used] at room
      rw [first.capacity] at fits
      exact .pushed room sum fits offsets
    | popped live below offsets =>
      rw [first.top] at live below ⊢
      exact .popped live below offsets
    | resized live fits offsets =>
      rw [first.top] at live offsets ⊢
      rw [first.capacity] at fits
      rw [first.used]
      exact .resized live fits offsets
    | @failed requested offsets =>
      have room : middle.available = before.available := by
        rw [available, available, first.capacity, first.used]
      rw [roomError, room, first.config]
      exact .failed (offsets.trans first.offsets)

theorem then_unmoved {answer : α} (account : Account before middle (.ok answer) events)
    (last : Unmoved middle after) (next : β) : Account before after (.ok next) events := by
  obtain ⟨shape, config, counters, deed⟩ := account
  refine ⟨last.shape.trans shape, last.config.trans config, last.counters.trans counters, ?_⟩
  cases deed with
  | idle offsets roomy => exact .idle (last.offsets.trans offsets) (.of_ok next)
  | pushed room sum fits offsets => exact .pushed room sum fits (last.offsets.trans offsets)
  | popped live below offsets => exact .popped live below (last.offsets.trans offsets)
  | resized live fits offsets => exact .resized live fits (last.offsets.trans offsets)

theorem of_error {fault : Fault} (account : Account before after (.error fault : Except Fault α) events) :
    Account before after (.error fault : Except Fault β) events := by
  obtain ⟨shape, config, counters, deed⟩ := account
  refine ⟨shape, config, counters, ?_⟩
  cases deed with
  | idle offsets roomy => exact .idle offsets (.of_error (roomy fault rfl))
  | failed offsets => exact .failed offsets

theorem length_le (account : Account before after result events) : events.length ≤ 1 := by
  cases account.deed with
  | idle => exact Nat.zero_le 1
  | _ => exact Nat.le_refl 1

private theorem counters_of_idle (account : Account before after result []) :
    after.counters = before.counters := by
  rw [account.counters, counters_counted_eq]
  exact ite_self _

/-- An operation that ends in a fault, and not for want of room, counts nothing. -/
theorem counters_of_fault {fault : Fault}
    (account : Account before after (.error fault : Except Fault α) events)
    (other : fault.isShortage = false) : after.counters = before.counters := by
  cases account.deed with
  | idle => exact account.counters_of_idle
  | failed => rw [isShortage_roomError] at other; cases other

theorem shortage_iff (account : Account before after result events) :
    events.countP Event.isShortage = 1 ↔ ∃ fault, result = .error fault ∧ fault.isShortage = true := by
  cases account.deed with
  | idle _ roomy =>
    refine ⟨fun none => absurd none Nat.zero_ne_one, ?_⟩
    rintro ⟨fault, failed, short⟩
    rw [roomy fault failed] at short
    cases short
  | pushed | popped | resized => simp [Event.isShortage]
  | failed => simp [Event.isShortage, isShortage_roomError]

end Account
end Stack

end Allotment
