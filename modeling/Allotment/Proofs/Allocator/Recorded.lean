import Allotment.Allocator

namespace Allotment
variable {Object σ α : Type}

/-- What can be asked of an allocator. -/
inductive RecordedRequest where
  | allocate (size : Nat)
  | allocateZeroed (size : Nat)
  | release (block : Option Nat)
  | resize (block : Option Nat) (newSize oldSize : Nat)

/-- An allocator and the requests it got, in order. -/
structure Recorded (σ : Type) where
  inner : σ
  requests : List RecordedRequest

namespace Recorded

/-- Writes a request down and passes it on. -/
def lift (request : RecordedRequest) (operation : Step Object σ α) : Step Object (Recorded σ) α :=
  Step.within inner (fun state last => ⟨last, state.requests ++ [request]⟩) operation

instance [Allocator Object σ] : Allocator Object (Recorded σ) where
  alignment state := Allocator.alignment state.inner
  failsFast state := Allocator.failsFast state.inner
  memory state := Allocator.memory state.inner
  withMemory state memory := { state with inner := Allocator.withMemory state.inner memory }
  allocate size := lift (.allocate size) (Allocator.allocate size)
  release block := lift (.release block) (Allocator.release block)
  allocateZeroed size := lift (.allocateZeroed size) (Allocator.allocateZeroed size)
  resize block newSize oldSize :=
    lift (.resize block newSize oldSize) (Allocator.resize block newSize oldSize)

theorem run_resize [Allocator Object σ] (state : Recorded σ) (block : Option Nat)
    (newSize oldSize : Nat) : (Allocator.resize block newSize oldSize).run state =
      ((Allocator.resize block newSize oldSize).run state.inner).mapState
        (Recorded.mk · (state.requests ++ [.resize block newSize oldSize])) := rfl

end Recorded
end Allotment
