import Allotment.Proofs.Stack.Decision
import Allotment.Proofs.Stack.Restoration

namespace Allotment.Stack
variable {Object : Type} {stack : Stack Object}

private theorem releaseMisuse?_eq_none_iff_isTop (ordered : stack.Ordered) (address : Nat) :
    stack.releaseMisuse? address = none ↔ stack.isTop address = true := by
  have inside := Nat.le_trans ordered.top_le_used ordered.used_le_capacity
  rw [releaseMisuse?_eq_none_iff ordered, isTop, isEmpty, Bool.and_eq_true, beq_iff_eq,
    offsetOf?_eq_some_iff, Bool.not_eq_true', beq_eq_false_iff_ne]
  constructor
  · rintro ⟨live, rfl⟩
    exact ⟨live, rfl, inside⟩
  · rintro ⟨live, same, _⟩
    exact ⟨live, same⟩

namespace Session
variable {session : Session Object} {call : Call Object}

/-- The call breaks a rule of the stack, which ends it. -/
def Misused (session : Session Object) (call : Call Object) : Prop :=
  ∃ details, session.answer call = .error (.aborted (.violation component details))

/-- The call finds too little room for the bytes it asks for: that is refused, or fatal where such
failures are. -/
def Exhausted (session : Session Object) (call : Call Object) (requested : Nat) : Prop :=
  session.answer call =
    .error ((session.stack.roomError requested).fault session.stack.config.failFast)

theorem Exhausted.not_misused {requested : Nat} (exhausted : session.Exhausted call requested) :
    ¬ session.Misused call := by
  rintro ⟨details, misused⟩
  have same := Except.error.inj (exhausted.symm.trans misused)
  rw [MemoryError.fault] at same
  split at same <;> cases same

/-- What a call that failed leaves: where there was too little room the failure was counted, if anything
is, and a misuse left the stack as it was. -/
theorem Rejection.stack_eq {before after : Stack Object} {fault : Fault}
    (rejection : Rejection before fault after) :
    (∃ requested, fault = (before.roomError requested).fault before.config.failFast ∧
      after = { before with counters :=
        if before.config.trackStats then before.counters.recordFailure else before.counters }) ∨
    (∃ details, fault = .aborted (.violation component details)) ∧ after = before := by
  cases rejection with
  | full requested =>
    refine .inl ⟨requested, rfl, ?_⟩
    rw [failed, counted]
    split <;> rfl
  | misused misuse => exact .inr ⟨⟨_, rfl⟩, rfl⟩

theorem confined_of_error {fault : Fault} (failed : session.answer call = .error fault) :
    call.Confined session.blocks := by
  intro address target
  cases call with
  | write start cells => cases failed
  | _ => exact target.elim

theorem confined_of_released {address : Nat} (released : call.released? = some address) :
    call.Confined session.blocks := by
  intro target targeted
  rcases Call.release_cases released with rfl | ⟨_, rfl⟩
  · exact targeted.elim
  · exact targeted.elim

theorem not_misused_of_ok {answer : Option Nat} (answered : session.answer call = .ok answer) :
    ¬ session.Misused call := by
  rintro ⟨details, misused⟩
  cases answered.symm.trans misused

theorem not_exhausted_of_ok {answer : Option Nat} (requested : Nat)
    (answered : session.answer call = .ok answer) : ¬ session.Exhausted call requested := by
  intro exhausted
  cases answered.symm.trans exhausted

namespace Valid
variable (valid : session.Valid)
include valid

/-- The block on top, and nothing else, can be given back; anything else is misuse. -/
theorem release_iff {address : Nat} (released : call.released? = some address) :
    ((∃ answer, session.answer call = .ok answer) ↔ session.stack.isTop address = true) ∧
      (session.Misused call ↔ session.stack.isTop address = false) := by
  have answered := (valid.carriesOut_release released).answer
  have top := releaseMisuse?_eq_none_iff_isTop valid.ordered address
  rw [onRelease] at answered
  cases found : session.stack.releaseMisuse? address with
  | none =>
    rw [found] at answered
    have isTop := top.mp found
    have proper := not_misused_of_ok answered
    simp only [isTop, iff_true, Bool.true_eq_false, iff_false]
    exact ⟨⟨none, answered⟩, proper⟩
  | some misuse =>
    rw [found] at answered
    have other : session.stack.isTop address = false := by
      rw [← Bool.not_eq_true, ← top, found]
      simp
    have misused : session.Misused call := ⟨_, answered⟩
    simp only [other, Bool.false_eq_true, iff_false, iff_true]
    refine ⟨?_, misused⟩
    rintro ⟨answer, succeeded⟩
    exact not_misused_of_ok succeeded misused

/-- A resize to another size than zero is a misuse, or finds too little room on top, or answers the
address it was asked about. -/
theorem resize_cases (address : Nat) {newSize : Nat} (oldSize : Nat) (asked : newSize ≠ 0) :
    (session.Misused (.resize (some address) newSize oldSize) ∧
        (session.stack.top = 0 ∨ session.stack.top < address ∨
          address < session.stack.top ∧ oldSize < newSize)) ∨
      (session.Exhausted (.resize (some address) newSize oldSize) newSize ∧
        session.stack.top ≠ 0 ∧ address = session.stack.top ∧
          session.stack.capacity < session.stack.top + newSize) ∨
      (session.answer (.resize (some address) newSize oldSize) = .ok (some address) ∧
        session.stack.top ≠ 0 ∧ (address = session.stack.top ∧
            session.stack.top + newSize ≤ session.stack.capacity ∨
          address < session.stack.top ∧ newSize ≤ oldSize)) := by
  have answered : session.answer (.resize (some address) newSize oldSize) =
      (session.stack.onResize address newSize oldSize).answer session.stack :=
    (valid.carriesOut_resize oldSize asked).answer
  have proper : session.stack.resizeMisuse? address newSize oldSize = none ↔ _ :=
    resizeMisuse?_eq_none_iff valid.ordered
  rw [onResize] at answered
  cases found : session.stack.resizeMisuse? address newSize oldSize with
  | some misuse =>
    rw [found] at answered proper
    have broken := mt proper.mpr (Option.some_ne_none misuse)
    refine .inl ⟨⟨_, answered⟩, ?_⟩
    omega
  | none =>
    rw [found] at answered
    obtain ⟨live, place⟩ := proper.mp found
    dsimp only at answered
    split at answered
    · next lower => exact .inr (.inr ⟨answered, live, .inr (place.resolve_left lower)⟩)
    · next onTop =>
      have top := not_not.mp onTop
      split at answered
      · next fits => exact .inr (.inr ⟨top ▸ answered, live, .inl ⟨top, fits⟩⟩)
      · next full => exact .inr (.inl ⟨answered, live, top, Nat.lt_of_not_le full⟩)

/-- Which resizes are misuse, and which find too little room, is said by the offsets. -/
theorem resize_iff (address : Nat) {newSize : Nat} (oldSize : Nat) (asked : newSize ≠ 0) :
    (session.Misused (.resize (some address) newSize oldSize) ↔
        session.stack.offsetOf? address = none ∨ session.blocks = [] ∨
          session.stack.top < address ∨ address < session.stack.top ∧ oldSize < newSize) ∧
      (session.Exhausted (.resize (some address) newSize oldSize) newSize ↔
        session.blocks ≠ [] ∧ address = session.stack.top ∧
          session.stack.capacity < session.stack.top + newSize) ∧
      (¬ session.Misused (.resize (some address) newSize oldSize) →
        ¬ session.Exhausted (.resize (some address) newSize oldSize) newSize →
          session.answer (.resize (some address) newSize oldSize) = .ok (some address)) := by
  have inside := Nat.le_trans valid.ordered.top_le_used valid.ordered.used_le_capacity
  have outside : session.stack.offsetOf? address = none ↔ session.stack.capacity < address := by
    simp [offsetOf?]
  have bare : session.blocks = [] ↔ session.stack.top = 0 := valid.chain.top_eq_zero_iff.symm
  rw [outside, ne_eq, bare]
  rcases valid.resize_cases address oldSize asked with
    ⟨misused, wrong⟩ | ⟨exhausted, live, top, full⟩ | ⟨answered, live, place⟩
  · have roomy : ¬ session.Exhausted (.resize (some address) newSize oldSize) newSize :=
      fun exhausted => exhausted.not_misused misused
    refine ⟨iff_of_true misused (.inr wrong), iff_of_false roomy ?_,
      fun proper => (proper misused).elim⟩
    omega
  · refine ⟨iff_of_false exhausted.not_misused ?_, iff_of_true exhausted ⟨live, top, full⟩,
      fun _ roomy => (roomy exhausted).elim⟩
    omega
  · have proper := not_misused_of_ok answered
    have roomy := not_exhausted_of_ok newSize answered
    refine ⟨iff_of_false proper ?_, iff_of_false roomy ?_, fun _ _ => answered⟩
    · omega
    · omega

/-- Releases of all live blocks, last acquired first, are all answered. -/
theorem releases {calls : List (Call Object)}
    (released : calls.map Call.released? = session.blocks.map fun block => some block.start) :
    session.Follows (fun now call => now.answer call = .ok none) calls ∧
      (session.after calls).blocks = [] ∧ (session.after calls).stack.offsets = ⟨0, 0⟩ := by
  induction calls generalizing session with
  | nil =>
    have none : session.blocks = [] := List.map_eq_nil_iff.mp released.symm
    have chain := valid.chain
    rw [none] at chain
    have empty : Chain session.stack [] ⟨0, 0⟩ := .nil
    exact ⟨trivial, none, chain.unique empty⟩
  | cons call rest ih =>
    cases live : session.blocks with
    | nil =>
      rw [live] at released
      cases released
    | cons block below =>
      rw [live] at released
      obtain ⟨first, others⟩ := List.cons.inj released
      have answered : session.answer call = .ok none :=
        valid.release_top (by rw [live]; rfl) first
      have left : (session.perform call).blocks = below := by
        change session.hold call session.blocks = below
        rw [hold, answered]
        exact (Call.ledger_of_released first _).trans (valid.filter_top live)
      rw [← left] at others
      obtain ⟨follows, gone, offsets⟩ := ih (valid.perform (confined_of_released first)) others
      exact ⟨⟨answered, follows⟩, gone, offsets⟩

end Valid

/-- The offsets decide which calls fail, and what for: exactly the block on top can be given back, and
a resize is misuse or finds too little room in the cases listed. A call that fails changes nothing but the
count of failures, and all live blocks can be given back afterwards. -/
theorem Reachable.rejection (reached : session.Reachable) :
    (∀ address, ∀ call : Call Object, call.released? = some address →
      ((∃ answer, session.answer call = .ok answer) ↔ session.stack.isTop address = true) ∧
        (session.Misused call ↔ session.stack.isTop address = false)) ∧
    (∀ address newSize oldSize, newSize ≠ 0 →
      (session.Misused (.resize (some address) newSize oldSize) ↔
        session.stack.offsetOf? address = none ∨ session.blocks = [] ∨
          session.stack.top < address ∨ address < session.stack.top ∧ oldSize < newSize) ∧
      (session.Exhausted (.resize (some address) newSize oldSize) newSize ↔
        session.blocks ≠ [] ∧ address = session.stack.top ∧
          session.stack.capacity < session.stack.top + newSize) ∧
      (¬ session.Misused (.resize (some address) newSize oldSize) →
        ¬ session.Exhausted (.resize (some address) newSize oldSize) newSize →
          session.answer (.resize (some address) newSize oldSize) = .ok (some address))) ∧
    ∀ call : Call Object, ∀ fault, session.answer call = .error fault →
      ((∃ requested, session.Exhausted call requested) ∧ (session.perform call).stack =
          { session.stack with counters := if session.stack.config.trackStats then
            session.stack.counters.recordFailure else session.stack.counters } ∨
        session.Misused call ∧ (session.perform call).stack = session.stack) ∧
      (session.perform call).blocks = session.blocks ∧
      ∀ calls : List (Call Object),
        calls.map Call.released? = session.blocks.map (fun block => some block.start) →
          (session.perform call).Follows (fun now call => now.answer call = .ok none) calls ∧
            ((session.perform call).after calls).blocks = [] ∧
            ((session.perform call).after calls).stack.offsets = ⟨0, 0⟩ := by
  have valid := reached.valid
  refine ⟨fun address call released => valid.release_iff released,
    fun address newSize oldSize asked => valid.resize_iff address oldSize asked, ?_⟩
  intro call fault failed
  have blocks : (session.perform call).blocks = session.blocks := by
    change session.hold call session.blocks = session.blocks
    rw [hold, failed]
  refine ⟨?_, blocks, fun calls released => ?_⟩
  · rcases ((valid.transition call).rejected fault failed).stack_eq with
      ⟨requested, rfl, counted⟩ | ⟨⟨details, rfl⟩, same⟩
    · exact .inl ⟨⟨requested, failed⟩, counted⟩
    · exact .inr ⟨⟨details, failed⟩, same⟩
  · have valid' := valid.perform (confined_of_error failed)
    exact valid'.releases (by rw [blocks]; exact released)

/-- Above a block of eight bytes lies one of five. The lower one can neither be given back nor grow, the
upper one cannot grow to forty-one bytes, and afterwards both can be given back. -/
theorem rejection_of_covered_block :
    ∃ session : Session Unit, session.Reachable ∧ session.blocks = [⟨24, 29⟩, ⟨8, 16⟩] ∧
      session.Misused (.release (some 8)) ∧ session.Misused (.resize (some 8) 9 8) ∧
      session.Exhausted (.resize (some 24) 41 5) 41 ∧
      (session.perform (.release (some 8))).stack = session.stack ∧
      (session.perform (.release (some 8))).Follows
        (fun now call => now.answer call = .ok none) [.release (some 24), .resize (some 8) 0 8] := by
  have built : (Stack.create 64 8 .debug : Step Unit Unit (Stack Unit)).run () =
      ⟨.ok (.empty ⟨64, 8, rfl, by decide, by decide, rfl, by decide⟩ .debug), (),
        [.logged (.stackCreated 64 8 .debug)]⟩ := rfl
  have reached := (Reachable.created built).after [.allocate 8, .allocate 5]
    ⟨fun _ target => target.elim, fun _ target => target.elim, trivial⟩
  obtain ⟨released, resized, failed⟩ := reached.rejection
  have misused := (released 8 (.release (some 8)) rfl).2.mpr rfl
  have grown := (resized 8 9 8 (by decide)).1.mpr (.inr (.inr (.inr ⟨by decide, by decide⟩)))
  have full := (resized 24 41 5 (by decide)).2.1.mpr
    ⟨List.cons_ne_nil (⟨24, 29⟩ : Extent) [⟨8, 16⟩], rfl, by decide⟩
  have ⟨_, failure⟩ := misused
  obtain ⟨left, _, answered⟩ := failed _ _ failure
  rcases left with ⟨⟨_, exhausted⟩, _⟩ | ⟨_, same⟩
  · exact (exhausted.not_misused misused).elim
  · exact ⟨_, reached, rfl, misused, grown, full, same, (answered _ rfl).1⟩

end Session
end Allotment.Stack
