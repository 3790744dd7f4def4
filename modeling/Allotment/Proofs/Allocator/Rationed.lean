import Allotment.Proofs.Allocator.Bounded

/-! Allocators that meet a request or refuse it by its size alone, however much is live. A wrapper that
passes on only acquiring and releasing is one if what it wraps is: it holds two blocks while it resizes,
and still meets the same requests. -/
namespace Allotment
open Allocator Custody
variable {Object σ α : Type}

/-- The sizes that are granted, and the alignment of all blocks. -/
structure Ration where
  alignment : Nat
  meets : Nat → Bool

/-- What becomes of a request for that many bytes. -/
def Ration.verdict (ration : Ration) (size : Nat) : Except Fault Unit :=
  if ration.meets size then .ok ()
  else .error (.refused (.allocationFailed size ration.alignment))

/-- The ration of an allocator, and how many of its blocks are live. -/
class Rationed (σ : Type) where
  ration : Ration
  live : σ → Nat
  /-- A refusal is not fatal. -/
  Lenient : σ → Prop

open Rationed

/-- A lenient allocator in a state it can come to. -/
structure Rationed.Ready [Custody σ] [Rationed σ] (state : σ) : Prop where
  sound : Sound state
  lenient : Lenient state

/-- A request for `size` bytes got the verdict of the ration. Once met, it left as many live blocks more as
it `gained`. -/
structure Ruled [Rationed σ] (before : σ) (size gained : Nat) (outcome : Outcome Object σ α) : Prop where
  verdict : outcome.result.map (fun _ => ()) = (ration σ).verdict size
  counted : live outcome.state = live before + if (ration σ).meets size then gained else 0
  lenient : Lenient outcome.state

section Verdicts
variable [Rationed σ] {before last : σ} {size gained : Nat} {done : List (Effect Object)}

theorem Ruled.met {answer : α} (ruled : Ruled before size gained ⟨.ok answer, last, done⟩) :
    (ration σ).meets size = true := by
  have verdict := ruled.verdict
  rw [Ration.verdict] at verdict
  split at verdict
  · assumption
  · cases verdict

theorem Ruled.unmet {fault : Fault}
    (ruled : Ruled before size gained (⟨.error fault, last, done⟩ : Outcome Object σ α)) :
    (ration σ).meets size = false := by
  have verdict := ruled.verdict
  rw [Ration.verdict] at verdict
  split at verdict
  · cases verdict
  · next unmet => exact Bool.eq_false_iff.mpr unmet

theorem Ruled.live_of_ok {answer : α} (ruled : Ruled before size gained ⟨.ok answer, last, done⟩) :
    live last = live before + gained := by
  have counted := ruled.counted
  rwa [ruled.met, if_pos rfl] at counted

theorem Ruled.live_of_error {fault : Fault}
    (ruled : Ruled before size gained (⟨.error fault, last, done⟩ : Outcome Object σ α)) :
    live last = live before := by
  have counted := ruled.counted
  rwa [ruled.unmet, if_neg Bool.false_ne_true] at counted

end Verdicts

section Zeroing
variable [Allocator Object σ] [Custody σ]

/-- What asking for a block of zero bytes may lead to. -/
structure Allocator.Zeroed (before : σ) (size : Nat) (outcome : Outcome Object σ Nat) : Prop
    extends Acquired before size outcome where
  zero : ∀ place, outcome.result = .ok place → ∀ position, position < size →
    (memory outcome.state).load (place + position) = Cell.zero

end Zeroing

/-- An allocator that keeps its promises about acquiring and releasing, and meets requests by their size
alone. -/
class RationedCustody (Object : outParam Type) (σ : Type) [Allocator Object σ] [Custody σ]
    [Rationed σ] : Prop extends LawfulCustody Object σ, LawfulMemory Object σ where
  alignment_eq (state : σ) : alignment state = (ration σ).alignment
  live_withMemory (state : σ) (memory : Memory Object) : live (withMemory state memory) = live state
  lenient_withMemory (state : σ) (memory : Memory Object) (lenient : Lenient state) :
    Lenient (withMemory state memory)
  /-- To write what is there already takes no block from anyone. -/
  rewritten {state : σ} {memory : Memory Object} (sound : Sound state)
    (same : ∀ address, memory.load address = (Allocator.memory state).load address) :
    Sound (withMemory state memory) ∧ ∀ address size, Holds state address size →
      Holds (withMemory state memory) address size
  /-- Who holds a block holds the first bytes of it. -/
  narrowed {state : σ} {address size less : Nat} (held : Holds state address size)
    (fewer : less ≤ size) : Holds state address less
  ruled_allocate {state : σ} (ready : Ready state) (size : Nat) :
    Ruled state size 1 ((Allocator.allocate size).run state)
  release_none : (Allocator.release none : Step Object σ Unit) = pure ()
  released {state : σ} {address size : Nat} (sound : Sound state) (held : Holds state address size) :
    ((Allocator.release (some address)).run state).result = .ok () ∧
      live ((Allocator.release (some address)).run state).state + 1 = live state
  lenient_release {state : σ} (lenient : Lenient state) (address : Nat) :
    Lenient ((Allocator.release (some address)).run state).state

/-- An allocator that keeps all its promises and meets requests by their size alone. -/
class RationedAllocator (Object : outParam Type) (σ : Type) [Allocator Object σ] [Custody σ]
    [Rationed σ] : Prop extends LawfulAllocator Object σ, RationedCustody Object σ where
  failsFast_eq {state : σ} (lenient : Lenient state) : failsFast state = false
  zeroed {state : σ} (sound : Sound state) (size : Nat) :
    Zeroed state size ((allocateZeroed size).run state)
  ruled_allocateZeroed {state : σ} (ready : Ready state) (size : Nat) :
    Ruled state size 1 ((allocateZeroed size).run state)
  ruled_resize {state : σ} {address newSize oldSize : Nat} (ready : Ready state) (asked : newSize ≠ 0)
    (held : Holds state address oldSize) :
    Ruled state newSize 0 ((Allocator.resize (some address) newSize oldSize).run state)
  /-- Where a block gets no other size all of it stays as it is, also what is behind the old size. -/
  rejected {state : σ} {address newSize oldSize size : Nat} {fault : Fault} (sound : Sound state)
    (asked : newSize ≠ 0) (held : Holds state address size) (fits : oldSize ≤ size)
    (failed : ((Allocator.resize (some address) newSize oldSize).run state).result = .error fault) :
    Keeps state ((Allocator.resize (some address) newSize oldSize).run state).state address size
  resize_zero (address oldSize : Nat) :
    (Allocator.resize (some address) 0 oldSize : Step Object σ (Option Nat)) =
      Allocator.release (some address) >>= fun _ => pure none

namespace Allocator
variable [Allocator Object σ] {state : σ} {size : Nat}

/-- The allocator once cells were cleared. -/
def cleared (state : σ) (address count : Nat) : σ :=
  withMemory state ((memory state).fill address count Cell.zero)

/-- To clear a block: acquire one, and write zero to all of it. -/
def clear (size : Nat) : Step Object σ Nat := do
  let fresh ← allocate size
  Step.modify (cleared · fresh size)
  pure fresh

private theorem run_clear_of_error {last : σ} {fault : Fault} {done : List (Effect Object)}
    (ran : (allocate size).run state = ⟨.error fault, last, done⟩) :
    (clear size).run state = ⟨.error fault, last, done⟩ := Step.run_bind_of_error ran _

private theorem run_clear_of_ok {last : σ} {fresh : Nat} {done : List (Effect Object)}
    (ran : (allocate size).run state = ⟨.ok fresh, last, done⟩) :
    (clear size).run state = ⟨.ok fresh, cleared last fresh size, done⟩ := by
  rw [clear, Step.run_bind_of_ok ran, Step.run_bind_of_quiet (Step.run_modify _ _)]
  exact congrArg (Outcome.mk _ _) (List.append_nil done)

variable [Custody σ] [Rationed σ] [RationedCustody Object σ]

private theorem zeroed_of_clear (sound : Sound state) (size : Nat) :
    Zeroed state size ((clear size).run state) := by
  have acquired := LawfulCustody.allocate sound size
  rcases ran : (allocate size).run state with ⟨fault | fresh, last, done⟩ <;> rw [ran] at acquired
  · rw [run_clear_of_error ran]
    exact ⟨⟨acquired.sound, acquired.kept, nofun, nofun⟩, nofun⟩
  · have mine : Holds last fresh size := acquired.holds fresh rfl
    have outside : ∀ other, other < fresh ∨ fresh + size ≤ other →
        ((memory last).fill fresh size Cell.zero).load other = (memory last).load other :=
      fun _ outside => Memory.load_fill_of_outside _ _ outside
    obtain ⟨sound', holds'⟩ := LawfulCustody.written acquired.sound mine outside
    rw [run_clear_of_ok ran]
    refine ⟨⟨sound', ?_, ?_, ?_⟩, ?_⟩
    · intro address held alive
      have before := acquired.kept address held alive
      exact before.trans (keeps_of_written acquired.sound mine outside before.holds
        (acquired.fresh fresh rfl address held alive))
    · rintro place ⟨⟩
      exact holds' fresh size mine
    · exact acquired.fresh
    · rintro place ⟨⟩ position inside
      have inside' : fresh ≤ fresh + position ∧ fresh + position < fresh + size := by omega
      rw [cleared, LawfulCustody.memory_withMemory, Memory.load_fill, if_pos inside']

private theorem ruled_of_clear (ready : Ready state) (size : Nat) :
    Ruled state size 1 ((clear size).run state) := by
  have ruled := RationedCustody.ruled_allocate ready size
  rcases ran : (allocate size).run state with ⟨fault | fresh, last, done⟩ <;> rw [ran] at ruled
  · rw [run_clear_of_error ran]
    exact ⟨ruled.verdict, ruled.counted, ruled.lenient⟩
  · rw [run_clear_of_ok ran]
    refine ⟨ruled.verdict, ?_, RationedCustody.lenient_withMemory _ _ ruled.lenient⟩
    rw [cleared, RationedCustody.live_withMemory]
    exact ruled.counted

/-- Moving a block asks for the new size only, and ends with as many blocks as there were. -/
private theorem ruled_of_move {address newSize oldSize size : Nat} (ready : Ready state)
    (held : Holds state address size) :
    Ruled state newSize 0 ((move address newSize oldSize).run state) := by
  have acquired := LawfulCustody.allocate ready.sound newSize
  have ruled := RationedCustody.ruled_allocate ready newSize
  rcases ran : (allocate newSize).run state with ⟨fault | fresh, middle, done⟩ <;>
    rw [ran] at acquired ruled
  · rw [move, Step.run_bind_of_error ran]
    refine ⟨ruled.verdict, ?_, ruled.lenient⟩
    rw [ite_self]
    exact ruled.live_of_error
  · have sound' : Sound middle := acquired.sound
    have mine : Holds middle fresh newSize := acquired.holds fresh rfl
    have old : Holds middle address size := (acquired.kept address size held).holds
    obtain ⟨copies, holds'⟩ := custody_copied address sound' mine (Nat.min_le_right oldSize newSize)
    obtain ⟨taken, fewer⟩ := RationedCustody.released copies (holds' address size old)
    have lenient := RationedCustody.lenient_release (RationedCustody.lenient_withMemory middle
      ((memory middle).copy address fresh (min oldSize newSize)) ruled.lenient) address
    rw [← copied] at lenient
    rw [copied, RationedCustody.live_withMemory, ← copied, ruled.live_of_ok] at fewer
    rw [move, Step.run_bind_of_ok ran, Step.run_bind_of_quiet (Step.run_modify _ _)]
    rcases gave : (release (some address)).run (copied middle address fresh (min oldSize newSize))
      with ⟨fault | _, last, more⟩ <;> rw [gave] at taken fewer lenient
    · cases taken
    · rw [Step.run_bind_of_ok gave]
      refine ⟨ruled.verdict, ?_, lenient⟩
      rw [ite_self]
      exact Nat.succ.inj fewer

private theorem keeps_of_move {address newSize oldSize size : Nat} {fault : Fault} (sound : Sound state)
    (held : Holds state address size)
    (failed : ((move address newSize oldSize).run state).result = .error fault) :
    Keeps state ((move address newSize oldSize).run state).state address size := by
  have acquired := LawfulCustody.allocate sound newSize
  rcases ran : (allocate newSize).run state with ⟨fault | fresh, middle, done⟩ <;>
    rw [ran] at acquired
  · rw [move, Step.run_bind_of_error ran]
    exact acquired.kept address size held
  · have mine : Holds middle fresh newSize := acquired.holds fresh rfl
    have old : Holds middle address size := (acquired.kept address size held).holds
    obtain ⟨copies, holds'⟩ :=
      custody_copied address acquired.sound mine (Nat.min_le_right oldSize newSize)
    have taken := (RationedCustody.released copies (holds' address size old)).1
    rw [move, Step.run_bind_of_ok ran, Step.run_bind_of_quiet (Step.run_modify _ _)] at failed
    rcases gave : (release (some address)).run (copied middle address fresh (min oldSize newSize))
      with ⟨fault | _, last, more⟩ <;> rw [gave] at taken
    · cases taken
    · rw [Step.run_bind_of_ok gave] at failed
      cases failed

end Allocator

namespace Forwarding

instance [Rationed σ] : Rationed (Forwarding σ) where
  ration := ration σ
  live state := live state.inner
  Lenient state := Lenient state.inner

variable [Rationed σ]

private theorem ruled_lift {state : Forwarding σ} {size gained : Nat} {operation : Step Object σ α}
    (ruled : Ruled state.inner size gained (operation.run state.inner)) :
    Ruled state size gained ((lift operation).run state) :=
  ⟨ruled.verdict, ruled.counted, ruled.lenient⟩

private theorem ready_inner [Custody σ] {state : Forwarding σ} (ready : Ready state) : Ready state.inner :=
  ⟨ready.sound, ready.lenient⟩

variable [Allocator Object σ] [Custody σ] [RationedCustody Object σ]

instance : RationedCustody Object (Forwarding σ) where
  withMemory_memory := LawfulMemory.withMemory_memory
  alignment_eq state := RationedCustody.alignment_eq state.inner
  live_withMemory state memory := RationedCustody.live_withMemory state.inner memory
  lenient_withMemory state memory lenient := RationedCustody.lenient_withMemory state.inner memory lenient
  rewritten {state _} sound same := by
    have inner := RationedCustody.rewritten (show Sound state.inner from sound) same
    exact inner
  narrowed {_ _ _ _} held fewer := (inferInstance : RationedCustody Object σ).narrowed held fewer
  ruled_allocate ready size := ruled_lift (RationedCustody.ruled_allocate (ready_inner ready) size)
  release_none := by
    change lift (Allocator.release none) = _
    rw [RationedCustody.release_none]
    rfl
  released {state _ _} sound held := by
    have inner := RationedCustody.released (show Sound state.inner from sound) held
    exact inner
  lenient_release {state} lenient address := by
    have inner := RationedCustody.lenient_release (show Lenient state.inner from lenient) address
    exact inner

instance : RationedAllocator Object (Forwarding σ) where
  withMemory_memory := LawfulMemory.withMemory_memory
  alignment_eq := RationedCustody.alignment_eq
  live_withMemory := RationedCustody.live_withMemory
  lenient_withMemory := RationedCustody.lenient_withMemory
  rewritten := RationedCustody.rewritten
  narrowed := (inferInstance : RationedCustody Object (Forwarding σ)).narrowed
  ruled_allocate := RationedCustody.ruled_allocate
  release_none := RationedCustody.release_none
  released := RationedCustody.released
  lenient_release := RationedCustody.lenient_release
  failsFast_eq _ := rfl
  zeroed sound size := zeroed_of_clear sound size
  ruled_allocateZeroed ready size := ruled_of_clear ready size
  ruled_resize ready asked held := by
    rw [run_resize asked]
    exact ruled_of_move ready held
  rejected sound asked held _ failed := by
    rw [run_resize asked] at failed ⊢
    exact keeps_of_move sound held failed
  resize_zero _ _ := rfl

end Forwarding
end Allotment
