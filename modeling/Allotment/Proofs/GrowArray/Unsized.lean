import Allotment.Proofs.GrowArray.Calls

/-! Arrays of values that take no cells. There is one such value, nothing is ever written, and room is
short only where the length would leave the word range; so no allocator is asked for anything. -/
namespace Allotment.GrowArray
open Allocator
variable {Object σ T α : Type} [Element Object T] [LawfulElement Object T]

section Values
variable (none : Element.size T = 0)
include none

private theorem encode_of_unsized (value : T) : Element.encode value = ([] : List (Cell Object)) :=
  List.eq_nil_of_length_eq_zero ((LawfulElement.length_encode value).trans none)

private theorem eq_of_unsized (first second : T) : first = second := by
  have decoded : Element.decode (Element.encode first) = second := by
    rw [encode_of_unsized none first, ← encode_of_unsized none second]
    exact LawfulElement.decode_encode second
  exact (LawfulElement.decode_encode first).symm.trans decoded

theorem list_eq_of_unsized {first second : List T} (length : first.length = second.length) :
    first = second :=
  List.ext_getElem length fun _ _ _ => eq_of_unsized none _ _

private theorem load_storeAll_of_unsized (values : List T) (memory : Memory Object) (address other : Nat) :
    (storeAll memory address values).load other = memory.load other :=
  load_storeAll_of_outside values memory (by rw [none, Nat.mul_zero]; omega)

end Values

section Calls
variable [Allocator Object σ] {array : GrowArray T} {host : σ}

/-- The allocator was asked for nothing, and no cell was changed. -/
inductive Unasked (host : σ) : σ → Prop where
  | same : Unasked host host
  | rewritten {memory' : Memory Object}
      (loads : ∀ address, memory'.load address = (memory host).load address) :
      Unasked host (withMemory host memory')

private theorem unasked_written (none : Element.size T = 0) (index : Nat) (value : T) :
    Unasked host (array.written host index value) :=
  .rewritten fun _ => load_storeAll_of_unsized none [value] _ _ _

private theorem unasked_rearranged (none : Element.size T = 0) (order : List T → List T) :
    Unasked host (array.rearranged host order) :=
  .rewritten fun _ => load_storeAll_of_unsized none _ _ _ _

/-- What comes of a call on an array of values without cells. -/
structure AnsweredUnsized (array : GrowArray T) (memory : Memory Object) (call : Call T α) (answer : α)
    (after : GrowArray T) : Prop where
  answer : answer = (call.onList (array.toList memory)).1
  length : after.length = (call.onList (array.toList memory)).2.length
  capacity : after.capacity = array.capacity
  inside : after.length ≤ wordMax

/-- A call is answered unless the length would leave the word range. -/
theorem called_of_unsized (host : σ) (none : Element.size T = 0) (capacity : array.capacity = wordMax)
    (inside : array.length ≤ wordMax) (call : Call T α) :
    (∃ fault done, call.operation.run (array, host) = ⟨.error fault, (array, host), done⟩ ∧
        wordLimit ≤ array.length + call.asks) ∨
      ∃ answer after last done, call.operation.run (array, host) = ⟨.ok answer, (after, last), done⟩ ∧
        AnsweredUnsized array (memory host) call answer after ∧ Unasked host last ∧
        array.length + call.asks < wordLimit := by
  have limit : wordMax + 1 = wordLimit := by decide
  have word : array.length + 0 < wordLimit := by omega
  cases call with
  | push value =>
    by_cases room : array.length < array.capacity
    · have small : array.length + 1 ≤ wordMax := by omega
      exact .inr ⟨_, _, _, _, run_push_of_room room value,
        ⟨rfl, by simp [Call.onList, extended], rfl, small⟩, unasked_written none _ _,
        show array.length + 1 < wordLimit by omega⟩
    · have full : array.length = array.capacity := by omega
      have large : wordLimit ≤ array.length + 1 := by omega
      exact .inl ⟨_, _, run_push_of_refused full (run_reserve_of_overflow large) value, large⟩
  | pop =>
    right
    by_cases empty : array.length = 0
    · have nothing : array.toList (memory host) = [] :=
        List.eq_nil_of_length_eq_zero ((length_toList _ _).trans empty)
      refine ⟨_, _, _, _, run_pop_of_empty empty, ⟨?_, ?_, rfl, inside⟩, .same, word⟩
      · rw [nothing]
        rfl
      · rw [nothing]
        exact empty
    · have fewer : array.length - 1 ≤ wordMax := Nat.le_trans (Nat.sub_le _ 1) inside
      exact ⟨_, _, _, _, run_pop_of_filled empty, ⟨rfl, by simp [Call.onList, shortened], rfl, fewer⟩,
        .same, word⟩
  | get index =>
    exact .inr ⟨_, _, _, _, rfl, ⟨array.get?_eq_getElem? _ _, (length_toList _ _).symm, rfl, inside⟩,
      .same, word⟩
  | replace index value =>
    right
    have length : array.length = (((Call.replace index value).onList
        (array.toList (memory host))).2).length := by simp [Call.onList]
    by_cases within : index < array.length
    · exact ⟨_, _, _, _, run_replace within value,
        ⟨array.get?_eq_getElem? _ _, length, rfl, inside⟩, unasked_written none _ _, word⟩
    · have behind := Nat.le_of_not_lt within
      exact ⟨_, _, _, _, run_replace_of_outside behind value,
        ⟨(List.getElem?_eq_none (by rwa [length_toList])).symm, length, rfl, inside⟩, .same, word⟩
  | rearrange order permutes =>
    exact .inr ⟨_, _, _, _, run_rearrange order,
      ⟨rfl, ((permutes _).length_eq.trans (length_toList _ _)).symm, rfl, inside⟩,
      unasked_rearranged none _, word⟩
  | reserve additional =>
    by_cases large : wordLimit ≤ array.length + additional
    · exact .inl ⟨_, _, run_reserve_of_overflow large, large⟩
    · have small := Nat.lt_of_not_le large
      exact .inr ⟨_, _, _, _, run_reserve_of_roomy small (by omega),
        ⟨rfl, (length_toList _ _).symm, rfl, inside⟩, .same, small⟩
  | clear => exact .inr ⟨_, _, _, _, run_clear, ⟨rfl, rfl, rfl, Nat.zero_le _⟩, .same, word⟩

end Calls
end Allotment.GrowArray
