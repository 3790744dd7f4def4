import Allotment.Proofs.Rounding
import Allotment.Proofs.Stack.Representation

namespace Allotment

namespace Stack
variable {Object : Type} {stack : Stack Object} {place : Nat}

/-- The next block starts here: at the least multiple of the alignment with room for a header behind the
used part. -/
def IsPlace (stack : Stack Object) (place : Nat) : Prop :=
  IsLeast {offset | stack.align ∣ offset ∧ stack.used + headerSize ≤ offset} place

theorem capacity_lt_wordLimit (stack : Stack Object) : stack.capacity < wordLimit :=
  Nat.lt_trans stack.shape.capacity_lt (by decide)

/-- On a stack the sums behind the place are words, and the place is found. -/
theorem exists_isPlace (inside : stack.used ≤ stack.capacity) :
    ∃ place, Alignment.roundUp? (stack.used + headerSize) stack.align = some place ∧
      stack.IsPlace place := by
  -- the alignment divides the capacity, so it is no greater, and the sums stay far below the last word
  have small : stack.capacity < 2 ^ (32 : Nat) := stack.shape.capacity_lt
  have divides : stack.align ∣ stack.capacity :=
    Nat.dvd_of_mod_eq_zero stack.shape.capacity_multiple
  have least : stack.align ≤ stack.capacity := Nat.le_of_dvd stack.shape.capacity_pos divides
  have word : stack.align < wordLimit := Nat.lt_of_le_of_lt least stack.capacity_lt_wordLimit
  have room : stack.used + headerSize + stack.align ≤ wordLimit := by
    simp only [headerSize, wordLimit]
    omega
  have isCeiling :=
    Alignment.isCeiling_roundDown stack.shape.align_power (stack.used + headerSize)
  have found := (isCeiling.lt_wordLimit_iff stack.shape.align_power word).mpr room
  exact ⟨_, (isCeiling.roundUp? stack.shape.align_power word).trans (if_pos found), isCeiling⟩

theorem IsPlace.roundUp? (isPlace : stack.IsPlace place) (inside : stack.used ≤ stack.capacity) :
    Alignment.roundUp? (stack.used + headerSize) stack.align = some place := by
  obtain ⟨found, rounded, isPlace'⟩ := exists_isPlace inside
  rw [rounded, isPlace'.unique isPlace]

private theorem checkedAdd?_headerSize (inside : stack.used ≤ stack.capacity) :
    Word.checkedAdd? stack.used headerSize = some (stack.used + headerSize) := by
  have small : stack.capacity < 2 ^ (32 : Nat) := stack.shape.capacity_lt
  refine Word.checkedAdd?_eq_some_iff.mpr ⟨rfl, ?_⟩
  simp only [headerSize, wordLimit]
  omega

private theorem checkedAdd?_of_fits {size : Nat} (fits : place + size ≤ stack.capacity) :
    Word.checkedAdd? place size = some (place + size) :=
  Word.checkedAdd?_eq_some_iff.mpr ⟨rfl, Nat.lt_of_le_of_lt fits stack.capacity_lt_wordLimit⟩

theorem IsPlace.placement? (isPlace : stack.IsPlace place) (inside : stack.used ≤ stack.capacity)
    (size : Nat) :
    stack.placement? size =
      if place + size ≤ stack.capacity then some (place, place + size) else none := by
  simp only [Stack.placement?, checkedAdd?_headerSize inside, isPlace.roundUp? inside,
    Option.bind_eq_bind, Option.bind_some]
  split
  · next fits => rw [checkedAdd?_of_fits fits, Option.bind_some, if_pos fits]
  · next full =>
    cases sum : Word.checkedAdd? place size with
    | none => rfl
    | some stop =>
      obtain ⟨rfl, _⟩ := Word.checkedAdd?_eq_some_iff.mp sum
      rw [Option.bind_some, if_neg full]

private theorem Call.offsets_acquired (call : Call Object) (stack : Stack Object) (block : Extent) :
    (call.acquired stack block).offsets = ⟨block.start, block.stop⟩ := by
  obtain ⟨memory, same, _⟩ := call.acquired_eq stack block
  rw [same]
  exact offsets_pushed ..

namespace Session
variable {session : Session Object} {call : Call Object} {size : Nat}

namespace Valid
variable (valid : session.Valid) (isPlace : session.stack.IsPlace place)
  (requested : call.request? = some size)
include valid isPlace requested

theorem granted (fits : place + size ≤ session.stack.capacity) :
    session.answer call = .ok (some place) ∧
      session.perform call = ⟨call.acquired session.stack ⟨place, place + size⟩,
        ⟨place, place + size⟩ :: session.blocks⟩ := by
  have placed := isPlace.placement? valid.inside size
  rw [if_pos fits] at placed
  have ran := Call.run_of_placed ⟨place, place + size⟩ valid.ordered requested placed
  refine ⟨congrArg Outcome.result ran, ?_⟩
  rw [perform_of_ok ran, Call.ledger_of_request requested]

omit requested in
theorem zeroed (fits : place + size ≤ session.stack.capacity) {address : Nat}
    (from_start : place ≤ address) (to_stop : address < place + size) :
    (session.perform (.allocateZeroed size)).stack.memory.load address = Cell.zero := by
  rw [(valid.granted isPlace rfl fits).2]
  change ((session.stack.pushed place (place + size)).memory.fill place size Cell.zero).load
    address = _
  rw [Memory.load_fill, if_pos ⟨from_start, to_stop⟩]

theorem refused (full : session.stack.capacity < place + size) :
    session.answer call =
        .error ((session.stack.roomError size).fault session.stack.config.failFast) ∧
      session.perform call = ⟨session.stack.failed, session.blocks⟩ := by
  have placed := isPlace.placement? valid.inside size
  rw [if_neg (Nat.not_le_of_lt full)] at placed
  have ran := Call.run_of_unplaced requested placed
  exact ⟨congrArg Outcome.result ran, perform_of_error ran⟩

theorem granted_iff :
    (∃ answer, session.answer call = .ok answer) ↔ place + size ≤ session.stack.capacity := by
  constructor
  · rintro ⟨answer, answered⟩
    refine Nat.le_of_not_lt fun full => ?_
    cases answered.symm.trans (valid.refused isPlace requested full).1
  · intro fits
    exact ⟨_, (valid.granted isPlace requested fits).1⟩

end Valid

/-- A new block starts at the least multiple of the alignment with room for a header, and is granted if and
only if it ends in the buffer from there. A refusal names the bytes that were asked for and those left. -/
theorem Reachable.placement (reached : session.Reachable) :
    ∃ place,
      IsLeast {offset | session.stack.align ∣ offset ∧ session.stack.used + headerSize ≤ offset}
        place ∧
      Word.checkedAdd? session.stack.used headerSize = some (session.stack.used + headerSize) ∧
      Alignment.roundUp? (session.stack.used + headerSize) session.stack.align = some place ∧
      session.stack.used ≤ session.stack.capacity ∧
      ∀ call : Call Object, ∀ size, call.request? = some size →
        ((∃ answer, session.answer call = .ok answer) ↔ place + size ≤ session.stack.capacity) ∧
        (place + size ≤ session.stack.capacity →
          Word.checkedAdd? place size = some (place + size) ∧
          session.answer call = .ok (some place) ∧
          (session.perform call).stack.offsets = ⟨place, place + size⟩ ∧
          (session.perform call).blocks = ⟨place, place + size⟩ :: session.blocks ∧
          (call = .allocateZeroed size → ∀ address, place ≤ address → address < place + size →
            (session.perform call).stack.memory.load address = Cell.zero)) ∧
        (session.stack.capacity < place + size →
          session.answer call = .error ((MemoryError.arenaExhausted component size
            (session.stack.capacity - session.stack.used)).fault session.stack.config.failFast)) := by
  have valid := reached.valid
  obtain ⟨place, rounded, isPlace⟩ := exists_isPlace valid.inside
  refine ⟨place, isPlace, checkedAdd?_headerSize valid.inside, rounded, valid.inside, ?_⟩
  intro call size requested
  refine ⟨valid.granted_iff isPlace requested, ?_,
    fun full => (valid.refused isPlace requested full).1⟩
  intro fits
  obtain ⟨answered, performed⟩ := valid.granted isPlace requested fits
  refine ⟨checkedAdd?_of_fits fits, answered, ?_, ?_, ?_⟩
  · rw [performed]
    exact call.offsets_acquired _ _
  · rw [performed]
  · rintro rfl address from_start to_stop
    exact valid.zeroed isPlace fits from_start to_stop

/-- Behind a block that ends where the buffer has eight bytes left, an empty block is granted at the very
end of the buffer, and a block of one byte is refused. In place of the first, a block that ends with the
buffer is granted. -/
theorem placement_at_end_of_buffer :
    ∃ session : Session Unit, session.Reachable ∧ session.blocks = [⟨8, 56⟩] ∧
      session.answer (.allocate 0) = .ok (some 64) ∧
      session.answer (.allocateZeroed 1) = .error (.refused (.arenaExhausted component 1 8)) ∧
      (session.perform .releaseAll).answer (.resize none 56 0) = .ok (some 8) := by
  have built : (Stack.create 64 8 .debug : Step Unit Unit (Stack Unit)).run () =
      ⟨.ok (.empty ⟨64, 8, rfl, by decide, by decide, rfl, by decide⟩ .debug), (),
        [.logged (.stackCreated 64 8 .debug)]⟩ := rfl
  have reached := (Reachable.created built).after [.allocate 48]
    ⟨fun _ target => target.elim, trivial⟩
  have cleared := reached.after [.releaseAll] ⟨fun _ target => target.elim, trivial⟩
  obtain ⟨place, least, _, rounded, _, requests⟩ := reached.placement
  obtain ⟨first, least', _, rounded', _, requests'⟩ := cleared.placement
  cases rounded
  cases rounded'
  exact ⟨_, reached, rfl, ((requests (.allocate 0) 0 rfl).2.1 (by decide)).2.1,
    (requests (.allocateZeroed 1) 1 rfl).2.2 (by decide),
    ((requests' (.resize none 56 0) 56 rfl).2.1 (by decide)).2.1⟩

end Session
end Stack
end Allotment
