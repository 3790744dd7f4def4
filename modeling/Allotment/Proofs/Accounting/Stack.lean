import Allotment.Proofs.Accounting.Rules
import Allotment.Proofs.FailFast.Allocators

namespace Allotment.Stack
open Step
variable {Object α : Type} {stack : Stack Object}

/-- The outcome of a check that failed before anything was changed. -/
def checkedOutcome (stack : Stack Object) (condition : Assertion) : Outcome Object (Stack Object) α :=
  ⟨.error (.aborted (.assertionFailed condition)), stack, []⟩

theorem run_fill_cases (stack : Stack Object) (start stop : Nat) (pattern : Option UInt8) :
    (fill start stop pattern).run stack = stack.checkedOutcome .fillInBuffer ∨
      (fill start stop pattern).run stack = ⟨.ok (), stack.withFilled start stop pattern, []⟩ := by
  rw [fill, run_bind_of_quiet (run_get stack)]
  cases pattern.isNone || (start ≤ stop && stop ≤ stack.capacity) with
  | false => exact .inl rfl
  | true => exact .inr rfl

/-- A request finds too little room, is stopped by a check, or is met. -/
private theorem run_push_cases (stack : Stack Object) (size : Nat) :
    (push size).run stack = stack.exhaustedOutcome size ∨
      (∃ condition, (push size).run stack = stack.checkedOutcome condition) ∨
      ∃ offset stop, stack.placement? size = some (offset, stop) ∧ (push size).run stack =
        ⟨.ok offset, stack.pushed offset stop, [.logged (.stackPushed size offset stop)]⟩ := by
  cases placed : stack.placement? size with
  | none => exact .inl (run_push_of_unplaced placed)
  | some place =>
    obtain ⟨offset, stop⟩ := place
    by_cases ordered : stack.top ≤ stack.used
    · exact .inr (.inr ⟨offset, stop, rfl, run_push_of_placed ordered placed⟩)
    · have divides : Alignment.divides stack.align offset = true :=
        (Alignment.divides_iff stack.shape.align_power).mpr (placement?_some placed).2.1
      have stopped : captureHeader.run stack = stack.checkedOutcome .headerOrdered := by
        rw [captureHeader, run_bind_of_quiet (run_get stack), decide_eq_false ordered]
        rfl
      refine .inr (.inl ⟨.headerOrdered, ?_⟩)
      rw [push, run_bind_of_quiet (run_get stack), placed]
      dsimp only
      rw [pushAt, run_bind_of_quiet (run_get stack), divides,
        run_bind_of_quiet (run_assert_true _ _), run_bind_of_error stopped]
      rfl

private theorem run_popTop_cases (stack : Stack Object) (offset : Nat) :
    (∃ condition, (popTop offset).run stack = stack.checkedOutcome condition) ∨
      (headerSize ≤ offset ∧ (stack.headerAt offset).used ≤ offset - headerSize ∧
        (popTop offset).run stack = ⟨.ok (), stack.popped offset, [.logged (.stackPopped offset
          (stack.headerAt offset).top (stack.headerAt offset).used)]⟩) := by
  rw [popTop, run_bind_of_quiet (run_get stack)]
  cases holds : stack.holdsHeader offset with
  | false =>
    have stopped : (readHeader offset).run stack = stack.checkedOutcome .headerInBuffer := by
      rw [readHeader, run_bind_of_quiet (run_get stack), holds]
      rfl
    rw [run_bind_of_error stopped]
    exact .inl ⟨_, rfl⟩
  | true =>
    have room : headerSize ≤ offset := by
      simp only [holdsHeader, Bool.and_eq_true, decide_eq_true_eq] at holds
      exact holds.1
    rw [run_bind_of_quiet (run_readHeader holds)]
    by_cases below : (stack.headerAt offset).used ≤ offset - headerSize
    · rw [decide_eq_true below, run_bind_of_quiet (run_assert_true _ _)]
      rcases run_fill_cases stack offset stack.used stack.config.deallocPattern with stopped | filled
      · rw [run_bind_of_error stopped]
        exact .inl ⟨_, rfl⟩
      · rw [run_bind_of_quiet filled]
        exact .inr ⟨room, below, rfl⟩
    · rw [decide_eq_false below]
      exact .inl ⟨_, rfl⟩

/-- To resize the block on top finds too little room, is stopped by a check, or succeeds. -/
private theorem run_resizeTop_cases (stack : Stack Object) (offset newSize : Nat) :
    (resizeTop offset newSize).run stack = stack.exhaustedOutcome newSize ∨
      (∃ condition, (resizeTop offset newSize).run stack = stack.checkedOutcome condition) ∨
      (offset + newSize ≤ stack.capacity ∧ (resizeTop offset newSize).run stack =
        ⟨.ok (), stack.resized (offset + newSize),
          [.logged (.stackResized offset stack.used (offset + newSize))]⟩) := by
  rw [resizeTop, run_bind_of_quiet (run_get stack)]
  cases found : (Word.checkedAdd? offset newSize).filter (· ≤ stack.capacity) with
  | none => exact .inl (run_exhausted stack newSize)
  | some stop =>
    obtain ⟨sum, fits⟩ := Option.filter_eq_some_iff.mp found
    obtain ⟨rfl, _⟩ := Word.checkedAdd?_eq_some_iff.mp sum
    have moved : (fillMoved (offset + newSize)).run stack = stack.checkedOutcome .fillInBuffer ∨
        (fillMoved (offset + newSize)).run stack =
          ⟨.ok (), stack.refilled (offset + newSize), []⟩ := by
      rw [fillMoved, run_bind_of_quiet (run_get stack), refilled]
      split
      · exact run_fill_cases ..
      · split
        · exact run_fill_cases ..
        · exact .inr rfl
    dsimp only
    rcases moved with stopped | filled
    · rw [run_bind_of_error stopped]
      exact .inr (.inl ⟨_, rfl⟩)
    · rw [run_bind_of_quiet filled]
      exact .inr (.inr ⟨of_decide_eq_true fits, rfl⟩)

theorem accounted_checkedOutcome (stack : Stack Object) (condition : Assertion) :
    (stack.checkedOutcome condition : Outcome Object (Stack Object) α).Accounted id stack :=
  Outcome.Aloof.accounted ⟨.refl stack, rfl, .of_error rfl⟩

/-- Want of room is counted once, whether it is fatal or not. -/
theorem accounted_exhaustedOutcome (stack : Stack Object) (requested : Nat) :
    (stack.exhaustedOutcome requested : Outcome Object (Stack Object) α).Accounted id stack := by
  have logged : Effect.counted
      ((stack.roomError requested).announcement stack.config.failFast : List (Effect Object)) =
        [.arenaExhausted component requested stack.available] := by
    cases stack.config.failFast <;> rfl
  rw [Outcome.Accounted, exhaustedOutcome, logged]
  exact ⟨shape_counted .., config_counted .., rfl, .failed (offsets_counted ..)⟩

private theorem counters_pushed_eq (stack : Stack Object) (offset stop : Nat) :
    (stack.pushed offset stop).counters =
      (stack.counted fun counters => counters.recordAllocation stop).counters :=
  counters_counted_congr (by simp) (by simp) _

private theorem counters_popped_eq (stack : Stack Object) (offset : Nat) :
    (stack.popped offset).counters = (stack.counted Counters.recordDeallocation).counters :=
  counters_counted_congr (by simp) (by simp) _

private theorem counters_resized_eq (stack : Stack Object) (stop : Nat) :
    (stack.resized stop).counters =
      (stack.counted fun counters => counters.recordReallocation stop).counters :=
  counters_counted_congr (by simp) (by simp) _

theorem accounted_push (size : Nat) : (push size : Step Object (Stack Object) Nat).Accounted id := by
  intro stack
  rcases run_push_cases stack size with full | ⟨condition, stopped⟩ | ⟨offset, stop, placed, pushed⟩
  · rw [full]
    exact accounted_exhaustedOutcome stack size
  · rw [stopped]
    exact accounted_checkedOutcome stack condition
  · obtain ⟨room, _, sum, fits, _⟩ := placement?_some placed
    rw [pushed]
    exact ⟨shape_pushed .., config_pushed .., counters_pushed_eq stack offset stop,
      .pushed room sum fits (offsets_pushed ..)⟩

theorem accounted_popTop (live : stack.top ≠ 0) :
    ((popTop stack.top).run stack).Accounted id stack := by
  rcases run_popTop_cases stack stack.top with ⟨condition, stopped⟩ | ⟨room, below, popped⟩
  · rw [stopped]
    exact accounted_checkedOutcome stack condition
  · have lower : (stack.headerAt stack.top).used + headerSize ≤ stack.top := by omega
    rw [popped]
    exact ⟨shape_popped .., config_popped .., counters_popped_eq stack stack.top,
      .popped live lower (offsets_popped ..)⟩

theorem accounted_resizeTop (live : stack.top ≠ 0) (newSize : Nat) :
    ((resizeTop stack.top newSize).run stack).Accounted id stack := by
  rcases run_resizeTop_cases stack stack.top newSize with
    full | ⟨condition, stopped⟩ | ⟨fits, resized⟩
  · rw [full]
    exact accounted_exhaustedOutcome stack newSize
  · rw [stopped]
    exact accounted_checkedOutcome stack condition
  · rw [resized]
    exact ⟨shape_resized .., config_resized .., counters_resized_eq stack (stack.top + newSize),
      .resized live fits (offsets_resized ..)⟩

theorem aloof_offsetOf (address : Nat) : (offsetOf address : Step Object (Stack Object) Nat).Aloof id := by
  apply Aloof.get_bind
  intro stack
  cases stack.offsetOf? address with
  | none => exact Aloof.of_usageViolation _ _ stack
  | some offset => exact Aloof.of_pure offset stack

/-- Of a block that is not on top, nothing is released. -/
theorem accounted_pop (address : Nat) : (pop address : Step Object (Stack Object) Unit).Accounted id := by
  refine (aloof_offsetOf address).next fun offset => ?_
  apply Accounted.get_bind
  intro stack
  split
  · exact (Aloof.of_usageViolation _ _).accounted stack
  · next live =>
    split
    · exact (Aloof.of_usageViolation _ _).accounted stack
    · next same =>
      obtain rfl := Decidable.of_not_not same
      exact accounted_popTop live

theorem accounted_release (block : Option Nat) :
    (release block : Step Object (Stack Object) Unit).Accounted id := by
  cases block with
  | none => exact (Aloof.of_pure ()).accounted
  | some address => exact accounted_pop address

/-- Of a block that is not on top, no resize is counted. -/
theorem accounted_resize (block : Option Nat) (newSize oldSize : Nat) :
    (resize block newSize oldSize : Step Object (Stack Object) (Option Nat)).Accounted id := by
  cases block with
  | none => exact (accounted_push newSize).map some
  | some address =>
    simp only [resize]
    split
    · refine (accounted_pop address).settled fun _ state => ?_
      exact ⟨none, rfl, Aloof.of_pure none state⟩
    · refine (aloof_offsetOf address).next fun offset => ?_
      apply Accounted.get_bind
      intro stack
      split
      · next onTop =>
        obtain ⟨live, rfl⟩ := onTop
        refine accounted_of_settled (accounted_resizeTop live newSize) fun _ middle _ _ => ?_
        exact ⟨some address, rfl, Aloof.of_pure _ middle⟩
      · split
        · exact (Aloof.of_usageViolation _ _).accounted stack
        · split
          · exact (Aloof.of_usageViolation _ _).accounted stack
          · exact (Aloof.of_pure _).accounted stack

/-- A resize of anything but the block on top is a misuse, or changes nothing. -/
theorem state_resize_of_other {address newSize : Nat} (other : address ≠ stack.top)
    (asked : newSize ≠ 0) (oldSize : Nat) :
    ((resize (some address) newSize oldSize).run stack).state = stack := by
  rw [resize, if_neg asked]
  cases place : stack.offsetOf? address with
  | none =>
    rw [run_bind_of_error (run_offsetOf_of_foreign place)]
  | some offset =>
    obtain ⟨rfl, _⟩ := offsetOf?_eq_some_iff.mp place
    rw [run_bind_of_quiet (run_offsetOf place), run_bind_of_quiet (run_get stack),
      if_neg fun onTop => other onTop.2]
    split
    · rfl
    · split <;> rfl

theorem accounted_allocateZeroed (size : Nat) :
    (Allocator.allocateZeroed size : Step Object (Stack Object) Nat).Accounted id :=
  (accounted_push size).settled fun address _ =>
    ⟨address, rfl, ⟨rfl, rfl, rfl, rfl⟩, rfl, .of_ok address⟩

/-- The event of taking off the block at an address. -/
def popEvent (stack : Stack Object) (address : Nat) : Event :=
  .stackPopped address (stack.headerAt address).top (stack.headerAt address).used

/-- The counted events of a resize that was answered. A new end of the block on top is one of them, even
where it is the old end. -/
def resizeEvents (stack : Stack Object) (block : Option Nat) (newSize : Nat) :
    Option Nat → List Event
  | some place =>
    match block with
    | none => [.stackPushed newSize place (place + newSize)]
    | some address =>
      if address = stack.top then [.stackResized address stack.used (address + newSize)] else []
  | none => block.toList.map stack.popEvent

theorem counted_push {size place : Nat} (answered : ((push size).run stack).result = .ok place) :
    Effect.counted ((push size).run stack).effects = [.stackPushed size place (place + size)] := by
  rcases run_push_cases stack size with full | ⟨condition, stopped⟩ | ⟨offset, stop, placed, pushed⟩
  · rw [full] at answered; cases answered
  · rw [stopped] at answered; cases answered
  · obtain ⟨_, _, rfl, _⟩ := placement?_some placed
    rw [pushed] at answered ⊢
    cases answered
    rfl

/-- To take off the block at an address is answered only where that block is on top. -/
theorem counted_pop {address : Nat} (answered : ((pop address).run stack).result = .ok ()) :
    Effect.counted ((pop address).run stack).effects = [stack.popEvent address] := by
  cases place : stack.offsetOf? address with
  | none =>
    rw [pop, run_bind_of_error (run_offsetOf_of_foreign place)] at answered
    cases answered
  | some offset =>
    obtain ⟨rfl, _⟩ := offsetOf?_eq_some_iff.mp place
    rw [pop, run_bind_of_quiet (run_offsetOf place), run_bind_of_quiet (run_get stack)] at answered ⊢
    split at answered
    · cases answered
    · next live =>
      rw [if_neg live]
      split at answered
      · cases answered
      · next same =>
        rw [if_neg same]
        rcases run_popTop_cases stack address with ⟨condition, stopped⟩ | ⟨_, _, popped⟩
        · rw [stopped] at answered; cases answered
        · rw [popped]; rfl

theorem counted_allocateZeroed {size place : Nat}
    (answered : ((Allocator.allocateZeroed size).run stack).result = .ok place) :
    Effect.counted ((Allocator.allocateZeroed size).run stack).effects =
      [.stackPushed size place (place + size)] := by
  obtain ⟨value, found, same, counted⟩ := counted_of_silent (fun _ _ => rfl) answered
  cases same
  exact counted.trans (counted_push found)

/-- A resize to some size is answered where the block is on top, or may shrink. -/
private theorem counted_resize_of_size {address newSize oldSize : Nat} {answer : Option Nat}
    (asked : newSize ≠ 0)
    (answered : ((resize (some address) newSize oldSize).run stack).result = .ok answer) :
    Effect.counted ((resize (some address) newSize oldSize).run stack).effects =
      stack.resizeEvents (some address) newSize answer := by
  rw [resize, if_neg asked] at answered ⊢
  cases place : stack.offsetOf? address with
  | none =>
    rw [run_bind_of_error (run_offsetOf_of_foreign place)] at answered
    cases answered
  | some offset =>
    obtain ⟨rfl, _⟩ := offsetOf?_eq_some_iff.mp place
    rw [run_bind_of_quiet (run_offsetOf place), run_bind_of_quiet (run_get stack)] at answered ⊢
    by_cases onTop : stack.top ≠ 0 ∧ address = stack.top
    · rw [if_pos onTop] at answered ⊢
      obtain ⟨_, done, same, counted⟩ := counted_of_silent (fun _ _ => rfl) answered
      cases same
      rw [counted, resizeEvents, if_pos onTop.2]
      rcases run_resizeTop_cases stack address newSize with full | ⟨condition, stopped⟩ | ⟨_, resized⟩
      · rw [full] at done; cases done
      · rw [stopped] at done; cases done
      · rw [resized]; rfl
    · rw [if_neg onTop] at answered ⊢
      split at answered
      · cases answered
      · next alive =>
        have other : address ≠ stack.top := fun same => onTop ⟨fun empty => alive (.inl empty), same⟩
        rw [if_neg alive]
        split at answered
        · cases answered
        · next shrinks =>
          cases answered
          rw [if_neg shrinks, resizeEvents, if_neg other]
          rfl

theorem counted_resize {block : Option Nat} {newSize oldSize : Nat} {answer : Option Nat}
    (answered : ((resize block newSize oldSize).run stack).result = .ok answer) :
    Effect.counted ((resize block newSize oldSize).run stack).effects =
      stack.resizeEvents block newSize answer := by
  cases block with
  | none =>
    obtain ⟨place, found, same, counted⟩ := counted_of_silent (fun _ _ => rfl) answered
    cases same
    exact counted.trans (counted_push found)
  | some address =>
    by_cases given : newSize = 0
    · rw [resize, if_pos given] at answered ⊢
      obtain ⟨_, done, same, counted⟩ := counted_of_silent (fun _ _ => rfl) answered
      cases same
      exact counted.trans (counted_pop done)
    · exact counted_resize_of_size given answered

private theorem run_releaseAll_cases (stack : Stack Object) :
    (∃ condition, releaseAll.run stack = ⟨.error (.aborted (.assertionFailed condition)), stack,
        [.logged (.stackCleared stack.used)]⟩) ∨
      releaseAll.run stack = ⟨.ok (), stack.cleared, [.logged (.stackCleared stack.used)]⟩ := by
  rw [releaseAll, run_bind_of_quiet (run_get stack), run_bind_of_ok (run_log _ _)]
  rcases run_fill_cases stack 0 stack.used stack.config.deallocPattern with stopped | filled
  · rw [run_bind_of_error stopped]
    exact .inl ⟨_, rfl⟩
  · rw [run_bind_of_quiet filled]
    exact .inr rfl

namespace OwnCall

/-- The call makes the stack forget what it counted. -/
def forgets : OwnCall → Bool
  | releaseAll => false
  | reset | resetStatistics => true

/-- What a call of this kind does to the books, from whatever state: blocks that are given back all at once
are not counted. -/
structure Books (call : OwnCall) (before after : Stack Object) (result : Except Fault α)
    (events : List Event) : Prop where
  config : after.config = before.config
  uncounted : events = []
  kept : call.forgets = false ∨ result.isOk = false → after.counters = before.counters
  forgotten : call.forgets = true → result.isOk = true → before.config.trackStats = true →
    after.counters = .zero
  untracked : before.config.trackStats = false →
    after.counters = before.counters ∨ after.counters = .zero

theorem books (call : OwnCall) (stack : Stack Object) :
    call.Books stack (call.operation.run stack).state (call.operation.run stack).result
      (Effect.counted (call.operation.run stack).effects) := by
  have stops : ∀ fault, call.Books stack stack (.error fault : Except Fault Unit) [] := by
    intro fault
    refine ⟨rfl, rfl, fun _ => rfl, ?_, fun _ => .inl rfl⟩
    rintro _ ⟨⟩
  cases call with
  | releaseAll =>
    rcases run_releaseAll_cases stack with ⟨condition, stopped⟩ | cleared
    · rw [operation, stopped]
      exact stops _
    · rw [operation, cleared]
      refine ⟨config_cleared stack, rfl, fun _ => counters_cleared stack, ?_, ?_⟩
      · rintro ⟨⟩
      · exact fun _ => .inl (counters_cleared stack)
  | reset =>
    rcases run_releaseAll_cases stack with ⟨condition, stopped⟩ | cleared
    · rw [operation, Stack.reset, run_bind_of_error stopped]
      exact stops _
    · have config : (stack.cleared.counted fun _ => .zero).config = stack.config := by simp
      have counters : (stack.cleared.counted fun _ => .zero).counters =
          if stack.config.trackStats then .zero else stack.counters := by
        rw [counters_counted_eq, config_cleared, counters_cleared]
      rw [operation, Stack.reset, run_bind_of_ok cleared]
      refine ⟨config, rfl, ?_, ?_, ?_⟩
      · rintro (lasting | failed)
        · cases lasting
        · cases failed
      · exact fun _ _ tracks => counters.trans (if_pos tracks)
      · exact fun untracked => .inl (counters.trans (if_neg (by simp [untracked])))
  | resetStatistics =>
    refine ⟨rfl, rfl, ?_, fun _ _ _ => rfl, fun _ => .inr rfl⟩
    rintro (lasting | failed)
    · cases lasting
    · cases failed

end OwnCall

end Allotment.Stack
