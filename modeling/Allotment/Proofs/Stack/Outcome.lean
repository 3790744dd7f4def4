import Allotment.Stack.Operations

namespace Allotment.Stack
variable {Object α : Type} {stack : Stack Object}

/-- The offsets are in order and lie in the buffer. -/
structure Ordered (stack : Stack Object) : Prop where
  top_le_used : stack.top ≤ stack.used
  used_le_capacity : stack.used ≤ stack.capacity

/-- The block on top has its header behind whatever was in use before it. -/
def Backed (stack : Stack Object) : Prop :=
  stack.top ≠ 0 → (stack.headerAt stack.top).used + headerSize ≤ stack.top

/-- The error of a request that finds too little room. -/
def roomError (stack : Stack Object) (requested : Nat) : MemoryError :=
  .arenaExhausted component requested stack.available

/-- The stack after a request that found too little room. -/
def failed (stack : Stack Object) : Stack Object := stack.counted Counters.recordFailure

/-- The outcome of a request that finds too little room. -/
def exhaustedOutcome (stack : Stack Object) (requested : Nat) : Outcome Object (Stack Object) α :=
  ⟨.error ((stack.roomError requested).fault stack.config.failFast), stack.failed,
    (stack.roomError requested).announcement stack.config.failFast⟩

theorem run_exhausted (stack : Stack Object) (requested : Nat) :
    (exhausted requested : Step Object (Stack Object) α).run stack =
      stack.exhaustedOutcome requested := by
  have used : stack.failed.used = stack.used :=
    congrArg Header.used (offsets_counted stack Counters.recordFailure)
  have room : stack.failed.available = stack.available := by
    rw [available, available, used, capacity, failed, shape_counted, capacity]
  rw [exhausted, Step.run_bind_of_quiet (run_count _ stack),
    Step.run_bind_of_quiet (Step.run_get _), Step.run_refuseCapacity, config_counted,
    exhaustedOutcome, roomError, ← room, failed]

theorem run_push_of_unplaced {size : Nat} (unplaced : stack.placement? size = none) :
    (push size).run stack = stack.exhaustedOutcome size := by
  rw [push, Step.run_bind_of_quiet (Step.run_get stack), unplaced]
  exact run_exhausted stack size

/-- The stack with `size` bytes from `start` on cleared. -/
def zeroed (stack : Stack Object) (start size : Nat) : Stack Object :=
  { stack with memory := stack.memory.fill start size Cell.zero }

theorem run_allocateZeroed_of_placed {size offset stop : Nat} (ordered : stack.Ordered)
    (placed : stack.placement? size = some (offset, stop)) :
    (Allocator.allocateZeroed size : Step Object (Stack Object) Nat).run stack =
      ⟨.ok offset, (stack.pushed offset stop).zeroed offset size,
        [.logged (.stackPushed size offset stop)]⟩ := by
  change (push size >>= _).run stack = _
  rw [Step.run_bind_of_ok (run_push_of_placed ordered.top_le_used placed)]
  rfl

theorem run_allocateZeroed_of_unplaced {size : Nat} (unplaced : stack.placement? size = none) :
    (Allocator.allocateZeroed size : Step Object (Stack Object) Nat).run stack =
      stack.exhaustedOutcome size := by
  change (push size >>= _).run stack = _
  rw [Step.run_bind_of_error (run_push_of_unplaced unplaced)]
  rfl

/-- What is wrong with a release of an address. -/
def releaseMisuse? (stack : Stack Object) (address : Nat) : Option StackMisuse :=
  match stack.offsetOf? address with
  | none => some (.foreign address)
  | some offset =>
    if stack.top = 0 then some (.releaseWhileEmpty offset)
    else if offset ≠ stack.top then some (.releaseOutOfOrder offset stack.top)
    else none

/-- What is wrong with a resize of an address to a size that is not zero. -/
def resizeMisuse? (stack : Stack Object) (address newSize oldSize : Nat) : Option StackMisuse :=
  match stack.offsetOf? address with
  | none => some (.foreign address)
  | some offset =>
    if stack.top ≠ 0 ∧ offset = stack.top then none
    else if stack.top = 0 ∨ stack.top < offset then some (.resizeDead offset stack.top)
    else if oldSize < newSize then some (.growBelowTop offset oldSize newSize)
    else none

theorem offsetOf?_eq_some_iff {address offset : Nat} :
    stack.offsetOf? address = some offset ↔ address = offset ∧ address ≤ stack.capacity := by
  unfold offsetOf?
  split
  · next inside => simp [inside]
  · next outside => simp [outside]

/-- The block on top, and nothing else, can be released. -/
theorem releaseMisuse?_eq_none_iff (ordered : stack.Ordered) {address : Nat} :
    stack.releaseMisuse? address = none ↔ stack.top ≠ 0 ∧ address = stack.top := by
  have inside := Nat.le_trans ordered.top_le_used ordered.used_le_capacity
  unfold releaseMisuse?
  cases found : stack.offsetOf? address with
  | none =>
    simp only [reduceCtorEq, false_iff]
    rintro ⟨_, rfl⟩
    rw [offsetOf?_eq_some_iff.mpr ⟨rfl, inside⟩] at found
    cases found
  | some offset =>
    obtain ⟨rfl, _⟩ := offsetOf?_eq_some_iff.mp found
    by_cases empty : stack.top = 0 <;> by_cases same : address = stack.top <;> simp [empty, same]

/-- A resize is no misuse if it is of the block on top, or lets something below it shrink. -/
theorem resizeMisuse?_eq_none_iff (ordered : stack.Ordered) {address newSize oldSize : Nat} :
    stack.resizeMisuse? address newSize oldSize = none ↔
      stack.top ≠ 0 ∧ (address = stack.top ∨ address < stack.top ∧ newSize ≤ oldSize) := by
  have inside := Nat.le_trans ordered.top_le_used ordered.used_le_capacity
  unfold resizeMisuse?
  cases found : stack.offsetOf? address with
  | none =>
    simp only [reduceCtorEq, false_iff]
    rintro ⟨_, place⟩
    rw [offsetOf?_eq_some_iff.mpr ⟨rfl, by omega⟩] at found
    cases found
  | some offset =>
    obtain ⟨rfl, _⟩ := offsetOf?_eq_some_iff.mp found
    dsimp only
    split
    · next onTop => simp [onTop]
    · next notTop =>
      split
      · next dead => simp only [reduceCtorEq, false_iff]; omega
      · next live =>
        split
        · next grows => simp only [reduceCtorEq, false_iff]; omega
        · next shrinks => simp only [true_iff]; omega

/-- The outcome of a misuse. -/
def misuseOutcome (stack : Stack Object) (misuse : StackMisuse) : Outcome Object (Stack Object) α :=
  ⟨.error (.aborted (.violation component misuse.details)), stack,
    [.logged (.usageViolation component misuse.details)]⟩

theorem run_offsetOf_of_foreign {address : Nat} (outside : stack.offsetOf? address = none) :
    (offsetOf address).run stack = stack.misuseOutcome (.foreign address) := by
  rw [offsetOf, Step.run_bind_of_quiet (Step.run_get stack), outside]
  rfl

theorem run_offsetOf {address offset : Nat} (inside : stack.offsetOf? address = some offset) :
    (offsetOf address).run stack = ⟨.ok offset, stack, []⟩ := by
  rw [offsetOf, Step.run_bind_of_quiet (Step.run_get stack), inside]
  rfl

theorem run_pop_of_misuse {address : Nat} {misuse : StackMisuse}
    (found : stack.releaseMisuse? address = some misuse) :
    (pop address).run stack = stack.misuseOutcome misuse := by
  unfold releaseMisuse? at found
  cases place : stack.offsetOf? address with
  | none =>
    rw [place] at found
    cases found
    rw [pop, Step.run_bind_of_error (run_offsetOf_of_foreign place)]
    rfl
  | some offset =>
    rw [place] at found
    dsimp only at found
    rw [pop, Step.run_bind_of_quiet (run_offsetOf place),
      Step.run_bind_of_quiet (Step.run_get stack)]
    split at found
    · next empty => cases found; rw [if_pos empty]; rfl
    · next live =>
      split at found
      · next other => cases found; rw [if_neg live, if_pos other]; rfl
      · cases found

theorem run_pop (ordered : stack.Ordered) (backed : stack.Backed) (live : stack.top ≠ 0) :
    (pop stack.top).run stack =
      ⟨.ok (), stack.popped stack.top,
        [.logged (.stackPopped stack.top (stack.headerAt stack.top).top
          (stack.headerAt stack.top).used)]⟩ := by
  have inside := Nat.le_trans ordered.top_le_used ordered.used_le_capacity
  have room := backed live
  have holds : stack.holdsHeader stack.top = true := by
    simp only [holdsHeader, Bool.and_eq_true, decide_eq_true_eq]
    omega
  rw [pop, Step.run_bind_of_quiet (run_offsetOf (offsetOf?_eq_some_iff.mpr ⟨rfl, inside⟩)),
    Step.run_bind_of_quiet (Step.run_get stack), if_neg live, if_neg (not_not_intro rfl)]
  exact run_popTop holds (by omega) ordered.top_le_used ordered.used_le_capacity

theorem run_resize_of_misuse {address newSize oldSize : Nat} {misuse : StackMisuse}
    (asked : newSize ≠ 0) (found : stack.resizeMisuse? address newSize oldSize = some misuse) :
    (resize (some address) newSize oldSize).run stack = stack.misuseOutcome misuse := by
  unfold resizeMisuse? at found
  cases place : stack.offsetOf? address with
  | none =>
    rw [place] at found
    cases found
    rw [resize, if_neg asked, Step.run_bind_of_error (run_offsetOf_of_foreign place)]
    rfl
  | some offset =>
    rw [place] at found
    dsimp only at found
    rw [resize, if_neg asked, Step.run_bind_of_quiet (run_offsetOf place),
      Step.run_bind_of_quiet (Step.run_get stack)]
    split at found
    · cases found
    · next notTop =>
      rw [if_neg notTop]
      split at found
      · next dead => cases found; rw [if_pos dead]; rfl
      · next live =>
        rw [if_neg live]
        split at found
        · next grows => cases found; rw [if_pos grows]; rfl
        · cases found

theorem run_resize_of_lower (ordered : stack.Ordered) {address newSize oldSize : Nat}
    (asked : newSize ≠ 0) (lower : address < stack.top) (shrinks : newSize ≤ oldSize) :
    (resize (some address) newSize oldSize).run stack = ⟨.ok (some address), stack, []⟩ := by
  have inside := Nat.le_trans ordered.top_le_used ordered.used_le_capacity
  rw [resize, if_neg asked,
    Step.run_bind_of_quiet (run_offsetOf (offsetOf?_eq_some_iff.mpr ⟨rfl, by omega⟩)),
    Step.run_bind_of_quiet (Step.run_get stack), if_neg (by omega), if_neg (by omega),
    if_neg (by omega), Step.run_pure]

theorem run_resize_of_top (ordered : stack.Ordered) {newSize : Nat} (oldSize : Nat)
    (asked : newSize ≠ 0) (live : stack.top ≠ 0) (fits : stack.top + newSize ≤ stack.capacity) :
    (resize (some stack.top) newSize oldSize).run stack =
      ⟨.ok (some stack.top), stack.resized (stack.top + newSize),
        [.logged (.stackResized stack.top stack.used (stack.top + newSize))]⟩ := by
  have inside := Nat.le_trans ordered.top_le_used ordered.used_le_capacity
  rw [resize, if_neg asked,
    Step.run_bind_of_quiet (run_offsetOf (offsetOf?_eq_some_iff.mpr ⟨rfl, inside⟩)),
    Step.run_bind_of_quiet (Step.run_get stack), if_pos ⟨live, rfl⟩,
    Step.run_bind_of_ok (run_resizeTop fits ordered.used_le_capacity), Step.run_pure]
  rfl

theorem run_resize_of_full (ordered : stack.Ordered) {newSize : Nat} (oldSize : Nat)
    (asked : newSize ≠ 0) (live : stack.top ≠ 0) (full : stack.capacity < stack.top + newSize) :
    (resize (some stack.top) newSize oldSize).run stack = stack.exhaustedOutcome newSize := by
  have inside := Nat.le_trans ordered.top_le_used ordered.used_le_capacity
  have none : (Word.checkedAdd? stack.top newSize).filter (· ≤ stack.capacity) = none := by
    apply Option.filter_eq_none_iff.mpr
    intro total sum
    obtain ⟨rfl, _⟩ := Word.checkedAdd?_eq_some_iff.mp sum
    simpa using full
  have refused : (resizeTop stack.top newSize).run stack = stack.exhaustedOutcome newSize := by
    rw [resizeTop, Step.run_bind_of_quiet (Step.run_get stack), none]
    exact run_exhausted stack newSize
  rw [resize, if_neg asked,
    Step.run_bind_of_quiet (run_offsetOf (offsetOf?_eq_some_iff.mpr ⟨rfl, inside⟩)),
    Step.run_bind_of_quiet (Step.run_get stack), if_pos ⟨live, rfl⟩,
    Step.run_bind_of_error refused]
  rfl

end Allotment.Stack
