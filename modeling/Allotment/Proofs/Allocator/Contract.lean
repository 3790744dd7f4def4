import Allotment.Allocator

/-! The promises behind the contract of allocators. Blocks in the hands of callers keep apart. No
operation takes one away or changes what is in it but the release or the resize of that block, and
these leave it as it is where they fail. -/
namespace Allotment

/-- Which states an allocator comes to, and which blocks are in the hands of callers. -/
class Custody (σ : Type) where
  /-- The allocator can come to this state. -/
  Sound : σ → Prop
  /-- A live block starts at the address, and that many bytes of it are in a caller's hands. -/
  Holds : σ → Nat → Nat → Prop

namespace Allocator
variable {Object σ : Type} [Allocator Object σ] [Custody σ]
open Custody

/-- The block stays in the caller's hands, with what is in it. -/
structure Keeps (before after : σ) (address size : Nat) : Prop where
  holds : Holds after address size
  load : ∀ position, position < size →
    (memory after).load (address + position) = (memory before).load (address + position)

/-- What asking for a block may lead to. -/
structure Acquired (before : σ) (size : Nat) (outcome : Outcome Object σ Nat) : Prop where
  sound : Sound outcome.state
  kept : ∀ address held, Holds before address held → Keeps before outcome.state address held
  holds : ∀ place, outcome.result = .ok place → Holds outcome.state place size
  fresh : ∀ place, outcome.result = .ok place →
    ∀ address held, Holds before address held → address ≠ place

/-- What giving a block back may lead to. -/
structure Released (before : σ) (address size : Nat) (outcome : Outcome Object σ Unit) : Prop where
  sound : Sound outcome.state
  kept : ∀ other held, other ≠ address → Holds before other held →
    Keeps before outcome.state other held
  rejected : ∀ fault, outcome.result = .error fault → Keeps before outcome.state address size

/-- What asking for another size of a block may lead to. -/
structure Resized (before : σ) (address newSize oldSize : Nat)
    (outcome : Outcome Object σ (Option Nat)) : Prop where
  sound : Sound outcome.state
  kept : ∀ other held, other ≠ address → Holds before other held →
    Keeps before outcome.state other held
  rejected : ∀ fault, outcome.result = .error fault → Keeps before outcome.state address oldSize
  moved : ∀ answer, outcome.result = .ok answer → ∃ place, answer = some place ∧
    Holds outcome.state place newSize ∧
    (∀ other held, other ≠ address → Holds before other held → other ≠ place) ∧
    ∀ position, position < min oldSize newSize →
      (memory outcome.state).load (place + position) = (memory before).load (address + position)

end Allocator

open Custody in
/-- An allocator that keeps its promises about acquiring and releasing. -/
class LawfulCustody (Object : outParam Type) (σ : Type) [Allocator Object σ] [Custody σ] : Prop where
  memory_withMemory (state : σ) (memory : Memory Object) :
    Allocator.memory (Allocator.withMemory state memory) = memory
  /-- Blocks in the hands of callers do not overlap. -/
  apart {state : σ} {first second firstSize secondSize : Nat} (sound : Sound state)
    (held : Holds state first firstSize) (other : Holds state second secondSize)
    (distinct : first ≠ second) : first + firstSize ≤ second ∨ second + secondSize ≤ first
  /-- A caller that keeps to a block of its own takes no block from anyone. -/
  written {state : σ} {address size : Nat} {memory : Memory Object} (sound : Sound state)
    (held : Holds state address size)
    (outside : ∀ other, other < address ∨ address + size ≤ other →
      memory.load other = (Allocator.memory state).load other) :
    Sound (Allocator.withMemory state memory) ∧ ∀ other held, Holds state other held →
      Holds (Allocator.withMemory state memory) other held
  allocate {state : σ} (sound : Sound state) (size : Nat) :
    Allocator.Acquired state size ((Allocator.allocate size).run state)
  release {state : σ} {address size : Nat} (sound : Sound state) (held : Holds state address size) :
    Allocator.Released state address size ((Allocator.release (some address)).run state)

open Custody in
/-- An allocator that keeps all its promises. -/
class LawfulAllocator (Object : outParam Type) (σ : Type) [Allocator Object σ] [Custody σ] : Prop
    extends LawfulCustody Object σ where
  resize_none (newSize oldSize : Nat) :
    (Allocator.resize none newSize oldSize : Step Object σ (Option Nat)) =
      some <$> Allocator.allocate newSize
  /-- The caller tells the truth about the old size. -/
  resize {state : σ} {address newSize oldSize : Nat} (sound : Sound state) (asked : newSize ≠ 0)
    (held : Holds state address oldSize) :
    Allocator.Resized state address newSize oldSize
      ((Allocator.resize (some address) newSize oldSize).run state)

/-- Memory that is put in its own place changes nothing. -/
class LawfulMemory (Object : outParam Type) (σ : Type) [Allocator Object σ] : Prop where
  withMemory_memory (state : σ) :
    Allocator.withMemory state (Allocator.memory state) = state

namespace Allocator
variable {Object σ : Type} [Allocator Object σ] [Custody σ]
open Custody

theorem Keeps.trans {first second third : σ} {address size : Nat}
    (kept : Keeps first second address size) (again : Keeps second third address size) :
    Keeps first third address size :=
  ⟨again.holds, fun position inside => (again.load position inside).trans (kept.load position inside)⟩

variable [LawfulCustody Object σ]

theorem keeps_of_written {state : σ} {address size : Nat}
    {memory : Memory Object} (sound : Sound state) (held : Holds state address size)
    (outside : ∀ other, other < address ∨ address + size ≤ other →
      memory.load other = (Allocator.memory state).load other) {other otherSize : Nat}
    (alive : Holds state other otherSize) (distinct : other ≠ address) :
    Keeps state (withMemory state memory) other otherSize := by
  refine ⟨(LawfulCustody.written sound held outside).2 _ _ alive, fun position inside => ?_⟩
  rw [LawfulCustody.memory_withMemory]
  refine outside _ ?_
  rcases LawfulCustody.apart sound alive held distinct with before | behind
  · exact .inl (by omega)
  · exact .inr (by omega)

/-- The allocator once cells were copied. -/
def copied (state : σ) (source target count : Nat) : σ :=
  withMemory state ((memory state).copy source target count)

/-- To move a block: acquire one, copy what both sizes have in common, and release the old one. -/
def move (address newSize oldSize : Nat) : Step Object σ (Option Nat) := do
  let fresh ← allocate newSize
  Step.modify (copied · address fresh (min oldSize newSize))
  release (some address)
  pure (some fresh)

section Copies
variable {state : σ} {target size count : Nat} (source : Nat)

private theorem load_copied {position : Nat} (inside : position < count) :
    (memory (copied state source target count)).load (target + position) =
      (memory state).load (source + position) := by
  rw [copied, LawfulCustody.memory_withMemory, Memory.load_copy, if_pos (by omega),
    Nat.add_sub_cancel_left]

theorem custody_copied (sound : Sound state) (held : Holds state target size) (fits : count ≤ size) :
    Sound (copied state source target count) ∧ ∀ other held, Holds state other held →
      Holds (copied state source target count) other held :=
  LawfulCustody.written sound held fun _ outside => Memory.load_copy_of_outside _ (by omega)

private theorem keeps_copied (sound : Sound state) (held : Holds state target size) (fits : count ≤ size)
    {other otherSize : Nat} (alive : Holds state other otherSize) (distinct : other ≠ target) :
    Keeps state (copied state source target count) other otherSize :=
  keeps_of_written sound held (fun _ outside => Memory.load_copy_of_outside _ (by omega)) alive
    distinct

end Copies

/-- Moving a block is a lawful resize: what fails on the way leaves the old block as it was. -/
theorem resized_of_move {state : σ} {address newSize oldSize : Nat} (sound : Sound state)
    (held : Holds state address oldSize) :
    Resized state address newSize oldSize ((move address newSize oldSize).run state) := by
  have acquired := LawfulCustody.allocate sound newSize
  rw [move]
  rcases ran : (allocate newSize).run state with ⟨fault | fresh, middle, done⟩ <;>
    rw [ran] at acquired
  · rw [Step.run_bind_of_error ran]
    exact ⟨acquired.sound, fun other size _ alive => acquired.kept other size alive,
      fun _ _ => acquired.kept address oldSize held, nofun⟩
  · have fits : min oldSize newSize ≤ newSize := Nat.min_le_right ..
    have mine : Holds middle fresh newSize := acquired.holds fresh rfl
    obtain ⟨sound', holds'⟩ := custody_copied address acquired.sound mine fits
    have kept : ∀ other size, Holds state other size →
        Keeps state (copied middle address fresh (min oldSize newSize)) other size := by
      intro other size alive
      have before := acquired.kept other size alive
      exact before.trans (keeps_copied address acquired.sound mine fits before.holds
        (acquired.fresh fresh rfl other size alive))
    have released := LawfulCustody.release sound' (kept address oldSize held).holds
    have keptOthers : ∀ other size, other ≠ address → Holds state other size →
        Keeps state _ other size := fun other size distinct alive =>
      (kept other size alive).trans (released.kept other size distinct (kept other size alive).holds)
    rw [Step.run_bind_of_ok ran, Step.run_bind_of_quiet (Step.run_modify _ _)]
    rcases gave : (release (some address)).run (copied middle address fresh (min oldSize newSize))
      with ⟨fault | _, last, more⟩ <;> rw [gave] at released keptOthers
    · rw [Step.run_bind_of_error gave]
      exact ⟨released.sound, keptOthers,
        fun _ _ => (kept address oldSize held).trans (released.rejected fault rfl), nofun⟩
    · rw [Step.run_bind_of_ok gave]
      refine ⟨released.sound, keptOthers, nofun, ?_⟩
      rintro answer ⟨⟩
      have distinct : fresh ≠ address := (acquired.fresh fresh rfl address oldSize held).symm
      have keptFresh : Keeps (copied middle address fresh (min oldSize newSize)) last fresh newSize :=
        released.kept fresh newSize distinct (holds' fresh newSize mine)
      refine ⟨fresh, rfl, keptFresh.holds,
        fun other size _ alive => acquired.fresh fresh rfl other size alive, fun position common => ?_⟩
      calc (memory last).load (fresh + position)
        _ = (memory (copied middle address fresh (min oldSize newSize))).load (fresh + position) :=
          keptFresh.load position (by omega)
        _ = (memory middle).load (address + position) := load_copied address common
        _ = (memory state).load (address + position) :=
          (acquired.kept address oldSize held).load position (by omega)

end Allocator
end Allotment
