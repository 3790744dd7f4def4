import Allotment.Proofs.Allocator.Contract

namespace Allotment
open Allocator Custody
variable {Object σ : Type}

instance [Custody σ] : Custody (Forwarding σ) where
  Sound state := Sound state.inner
  Holds state := Holds state.inner

variable [Allocator Object σ]

variable [Custody σ]

theorem Allocator.Keeps.forwarded {before after : σ} {address size : Nat}
    (kept : Keeps before after address size) :
    Keeps (Forwarding.mk before) (Forwarding.mk after) address size :=
  ⟨kept.holds, kept.load⟩

instance [LawfulCustody Object σ] : LawfulCustody Object (Forwarding σ) where
  memory_withMemory state := LawfulCustody.memory_withMemory state.inner
  apart {state _ _ _ _} sound held other distinct :=
    LawfulCustody.apart (show Sound state.inner from sound) held other distinct
  written {state _ _ _} sound held outside := by
    have inner := LawfulCustody.written (show Sound state.inner from sound) held outside
    exact inner
  allocate {state} sound size := by
    have inner := LawfulCustody.allocate (show Sound state.inner from sound) size
    exact ⟨inner.sound, fun address held alive => (inner.kept address held alive).forwarded,
      inner.holds, inner.fresh⟩
  release {state _ _} sound held := by
    have inner := LawfulCustody.release (show Sound state.inner from sound) held
    exact ⟨inner.sound,
      fun other held distinct alive => (inner.kept other held distinct alive).forwarded,
      fun fault failed => (inner.rejected fault failed).forwarded⟩

omit [Custody σ] in
/-- A resize that is not passed on moves the block. -/
theorem Forwarding.run_resize {state : Forwarding σ} {address newSize oldSize : Nat}
    (asked : newSize ≠ 0) : (Allocator.resize (some address) newSize oldSize).run state =
      (Allocator.move address newSize oldSize).run state := by
  change (if newSize = 0 then _ else _ : Step Object (Forwarding σ) (Option Nat)).run state = _
  rw [if_neg asked]
  rfl

instance [LawfulCustody Object σ] : LawfulAllocator Object (Forwarding σ) where
  resize_none _ _ := rfl
  resize sound asked held := by
    rw [Forwarding.run_resize asked]
    exact resized_of_move sound held

end Allotment
