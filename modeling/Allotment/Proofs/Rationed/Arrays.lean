import Allotment.Proofs.GrowArray.InPlace
import Allotment.Proofs.Rationed.Turn
import Allotment.Proofs.SharedStack.Containers

namespace Allotment
open Allocator Custody Rationed
variable {Object σ T α : Type} [Element Object T]

/-- An array that looks like this, at no address. -/
def ArrayView.frame (view : ArrayView T) : GrowArray T := ⟨0, view.capacity, view.elements.length⟩

namespace GrowArray

/-- What its owner sees of an array. -/
def view (array : GrowArray T) (memory : Memory Object) : ArrayView T :=
  ⟨array.toList memory, array.capacity⟩

/-- What becomes of a block that is asked for: the alignment and the byte size are checked, and then it is
up to the ration. -/
def blockVerdict (T : Type) [Element Object T] (ration : Ration) (newCapacity : Nat) :
    Except Fault Unit :=
  if ration.alignment < Element.alignment T then
    .error (.refused (.invalidAlignment (Element.alignment T) ration.alignment))
  else if wordLimit ≤ Element.size T * newCapacity then .error (.refused (.sizeOverflow "realloc_array"))
  else ration.verdict (Element.size T * newCapacity)

/-- What becomes of a request for room. -/
def roomVerdict (array : GrowArray T) (ration : Ration) (additional : Nat) : Except Fault Unit :=
  if array.length + additional ≤ array.capacity then .ok ()
  else if wordLimit ≤ array.length + additional then
    .error (.refused (.sizeOverflow "AllocVec::try_reserve"))
  else blockVerdict T ration (array.grownCapacity additional)

/-- What its owner sees of a call on an array: the answer of a list, and the room that was asked for, or
why there is none. -/
def Call.onRation (ration : Ration) (call : Call T α) (view : ArrayView T) :
    Except Fault α × ArrayView T :=
  match view.frame.roomVerdict ration call.asks with
  | .error fault => (.error fault, view)
  | .ok _ =>
    (.ok (call.onList view.elements).1,
      ⟨(call.onList view.elements).2, view.frame.capacityFor call.asks⟩)

section Frames
variable (array : GrowArray T) (memory : Memory Object) (ration : Ration) (additional : Nat)

theorem frame_view : (array.view memory).frame = ⟨0, array.capacity, array.length⟩ := by
  rw [ArrayView.frame, view, length_toList]

theorem roomVerdict_frame :
    (array.view memory).frame.roomVerdict ration additional = array.roomVerdict ration additional := by
  rw [frame_view]
  rfl

theorem capacityFor_frame :
    (array.view memory).frame.capacityFor additional = array.capacityFor additional := by
  rw [frame_view]
  rfl

end Frames

theorem length_own {array other : GrowArray T} (capacity : array.capacity = other.capacity) :
    array.own.length = other.own.length := by
  rw [own, own, capacity]
  split <;> rfl

private theorem own_eq_block (sized : Element.size T ≠ 0) (array : GrowArray T) :
    array.own = array.block?.toList := by
  by_cases none : array.capacity = 0
  · rw [own_of_none none, block?_of_none none]
    rfl
  · rw [own_of_sized sized none, block?_of_some none]
    rfl

variable [Allocator Object σ] [Custody σ]

/-- The array is in order: it owns its block, if it has one, and values without cells have all the room
there is. -/
structure InOrder (array : GrowArray T) (host : σ) : Prop where
  fits : array.length ≤ array.capacity
  sized : Element.size T ≠ 0 → array.Owned host
  unsized : Element.size T = 0 → array.capacity = wordMax

section Orders
variable {array : GrowArray T} {host last : σ}

omit [Allocator Object σ] in
theorem InOrder.of_owned (sized : Element.size T ≠ 0) (owned : array.Owned host) :
    array.InOrder host :=
  ⟨owned.fits, fun _ => owned, fun unsized => (sized unsized).elim⟩

omit [Allocator Object σ] in
theorem InOrder.of_unsized (unsized : Element.size T = 0) (capacity : array.capacity = wordMax)
    (inside : array.length ≤ wordMax) : array.InOrder host :=
  ⟨capacity ▸ inside, fun sized => (sized unsized).elim, fun _ => capacity⟩

omit [Allocator Object σ] in
theorem InOrder.empty (sound : Sound host) : (GrowArray.empty T).InOrder host := by
  by_cases unsized : Element.size T = 0
  · exact .of_unsized unsized (if_pos unsized) (Nat.zero_le _)
  · exact .of_owned unsized (.empty unsized sound)

theorem InOrder.spared [LawfulElement Object T] (inOrder : array.InOrder host) (sound : Sound last)
    (kept : ∀ address ∈ array.own, ∀ size, Holds host address size → Keeps host last address size) :
    array.InOrder last ∧ array.view (memory last) = array.view (memory host) := by
  by_cases unsized : Element.size T = 0
  · have capacity := inOrder.unsized unsized
    refine ⟨.of_unsized unsized capacity (capacity ▸ inOrder.fits), ?_⟩
    refine congrArg (ArrayView.mk · _) (list_eq_of_unsized unsized ?_)
    rw [length_toList, length_toList]
  · have owned := inOrder.sized unsized
    have same := owned.preserved_of_keeps sound fun roomy =>
      kept _ (mem_own_iff.mpr ⟨unsized, roomy, rfl⟩) _ (owned.held roomy)
    exact ⟨.of_owned unsized same.owned, congrArg (ArrayView.mk · _) same.toList⟩

end Orders

variable [Rationed σ] [RationedAllocator Object σ] {array : GrowArray T} {host : σ}

namespace Owned
variable (owned : array.Owned host) (lenient : Lenient host) (sized : Element.size T ≠ 0)
include owned lenient sized

private theorem enlarge_ruled {newCapacity : Nat} (more : array.capacity < newCapacity) :
    ((array.enlarge newCapacity).run host).result.map Option.isSome =
        (blockVerdict T (ration σ) newCapacity).map (fun _ => true) ∧
      Turn array.own (holding array.block? ((array.enlarge newCapacity).run host).result).toList host
        ((array.enlarge newCapacity).run host).state := by
  have checked := run_sized T newCapacity "realloc_array" (fun newSize =>
    resize array.block? newSize ((arraySize? (Element.size T) array.capacity).getD wordMax)) host
  change (array.enlarge newCapacity).run host = _ at checked
  rw [RationedCustody.alignment_eq, owned.bytes, Option.getD_some] at checked
  rw [checked, blockVerdict, own_eq_block sized]
  split
  · exact ⟨rfl, .refl owned.sound _⟩
  · split
    · exact ⟨rfl, .refl owned.sound _⟩
    · refine Turn.of_resize ⟨owned.sound, lenient⟩ ?_ fun _ => Nat.mul_ne_zero sized (by omega)
      intro address mine
      by_cases none : array.capacity = 0
      · rw [block?_of_none none] at mine
        cases mine
      · rw [block?_of_some none] at mine
        exact Option.some.inj mine ▸ owned.held none

theorem reserve_ruled (additional : Nat) :
    ((reserve additional).run (array, host)).result = array.roomVerdict (ration σ) additional ∧
      Turn array.own ((reserve additional).run (array, host)).state.1.own host
        ((reserve additional).run (array, host)).state.2 := by
  have still : Turn array.own array.own host host := .refl owned.sound _
  rw [roomVerdict]
  by_cases large : wordLimit ≤ array.length + additional
  · have small := owned.capacity_lt sized
    rw [run_reserve_of_overflow large, if_neg (by omega), if_pos large]
    exact ⟨rfl, still⟩
  · have small := Nat.lt_of_not_le large
    by_cases roomy : array.length + additional ≤ array.capacity
    · rw [run_reserve_of_roomy small roomy, if_pos roomy]
      exact ⟨rfl, still⟩
    · have full := Nat.lt_of_not_le roomy
      have more := lt_grownCapacity full
      obtain ⟨verdict, turn⟩ := owned.enlarge_ruled lenient sized more
      rw [run_reserve_of_full small full, if_neg roomy, if_neg large]
      rcases ran : (array.enlarge (array.grownCapacity additional)).run host with
        ⟨fault | _ | place, last, done⟩ <;> rw [ran] at verdict turn
      · rw [run_growTo_of_error sized more ran]
        refine ⟨?_, (own_eq_block sized array).symm ▸ turn⟩
        cases judged : blockVerdict T (ration σ) (array.grownCapacity additional) with
        | error fault' => rw [judged] at verdict; exact congrArg Except.error (Except.error.inj verdict)
        | ok _ => rw [judged] at verdict; cases verdict
      · cases judged : blockVerdict T (ration σ) (array.grownCapacity additional) <;>
          rw [judged] at verdict <;> cases verdict
      · rw [run_growTo_of_ok sized more ran]
        refine ⟨?_, (own_moved sized more).symm ▸ turn⟩
        cases judged : blockVerdict T (ration σ) (array.grownCapacity additional) with
        | error fault => rw [judged] at verdict; cases verdict
        | ok _ => rfl

section Writes
variable [LawfulElement Object T]

omit lenient in
theorem turn_written {index : Nat} (inside : index < array.capacity) (value : T) :
    Turn array.own array.own host (array.written host index value) := by
  have roomy : array.capacity ≠ 0 := by omega
  rw [own_of_sized sized roomy]
  exact Turn.of_written owned.sound (owned.held roomy) fun _ outside =>
    load_store_of_outside inside value outside

omit lenient in
private theorem turn_rearranged {order : List T → List T} (permutes : ∀ list, (order list).Perm list) :
    Turn array.own array.own host (array.rearranged host order) := by
  by_cases bare : array.capacity = 0
  · exact Turn.of_rewritten owned.sound (fun _ =>
      load_rearranged_of_outside owned.fits permutes _ fun roomy => (roomy bare).elim) _
  · rw [own_of_sized sized bare]
    exact Turn.of_written owned.sound (owned.held bare) fun _ outside =>
      load_rearranged_of_outside owned.fits permutes _ fun _ => outside

theorem turn (call : Call T α) :
    Turn array.own (call.operation.run (array, host)).state.1.own host
      (call.operation.run (array, host)).state.2 := by
  have still : Turn array.own array.own host host := .refl owned.sound _
  cases call with
  | push value =>
    change Turn array.own ((push value).run (array, host)).state.1.own host
      ((push value).run (array, host)).state.2
    rcases Nat.lt_or_eq_of_le owned.fits with room | full
    · rw [run_push_of_room room]
      exact owned.turn_written sized room value
    · have asked := (owned.reserve_ruled lenient sized 1).2
      rcases owned.reserved sized 1 with ⟨fault, last, done, ran, _⟩ |
        ⟨larger, last, done, ran, relocated, length, capacity, _⟩ <;> rw [ran] at asked
      · rw [run_push_of_refused full ran]
        exact asked
      · have enough := (array.capacity_le_capacityFor 1).2
        have room : larger.length < larger.capacity := by omega
        rw [run_push_of_grown full ran]
        exact asked.trans (relocated.kept.owned.turn_written sized room value)
  | pop =>
    change Turn array.own (pop.run (array, host)).state.1.own host (pop.run (array, host)).state.2
    by_cases empty : array.length = 0
    · rw [run_pop_of_empty empty]
      exact still
    · rw [run_pop_of_filled empty]
      exact still
  | get index => exact still
  | replace index value =>
    change Turn array.own ((replace index value).run (array, host)).state.1.own host
      ((replace index value).run (array, host)).state.2
    by_cases inside : index < array.length
    · rw [run_replace inside]
      exact owned.turn_written sized (Nat.lt_of_lt_of_le inside owned.fits) value
    · rw [run_replace_of_outside (Nat.le_of_not_lt inside)]
      exact still
  | rearrange order permutes => exact owned.turn_rearranged sized permutes
  | reserve additional => exact (owned.reserve_ruled lenient sized additional).2
  | clear => exact still

end Writes
end Owned

namespace InOrder
variable (inOrder : array.InOrder host) (ready : Ready host)
include inOrder ready

/-- Room is found by the verdict on it. -/
theorem result_reserve (additional : Nat) :
    ((reserve additional).run (array, host)).result = array.roomVerdict (ration σ) additional := by
  by_cases unsized : Element.size T = 0
  · have capacity := inOrder.unsized unsized
    have limit : wordMax + 1 = wordLimit := by decide
    rcases Nat.lt_or_ge (array.length + additional) wordLimit with small | large
    · have roomy : array.length + additional ≤ array.capacity := by omega
      rw [run_reserve_of_roomy small roomy, roomVerdict, if_pos roomy]
    · rw [run_reserve_of_overflow large, roomVerdict, if_neg (by omega), if_pos large]
  · exact ((inOrder.sized unsized).reserve_ruled ready.lenient unsized additional).1

private theorem roomVerdict_eq_error_iff (call : Call T α) (full : array.capacity < array.length + call.asks)
    (fault : Fault) : array.roomVerdict (ration σ) call.asks = .error fault ↔
      (call.operation.run (array, host)).result = .error fault := by
  rw [← inOrder.result_reserve ready, result_eq_error_iff inOrder.fits call full]

private theorem onRation_of_error {call : Call T α} (full : array.capacity < array.length + call.asks)
    {fault : Fault} (failed : (call.operation.run (array, host)).result = .error fault) :
    call.onRation (ration σ) (array.view (memory host)) = (.error fault, array.view (memory host)) := by
  rw [Call.onRation, roomVerdict_frame, (inOrder.roomVerdict_eq_error_iff ready call full fault).mpr failed]

private theorem onRation_of_ok {call : Call T α} {answer : α}
    (answered : (call.operation.run (array, host)).result = .ok answer) :
    call.onRation (ration σ) (array.view (memory host)) =
      (.ok (call.onList (array.toList (memory host))).1,
        ⟨(call.onList (array.toList (memory host))).2, array.capacityFor call.asks⟩) := by
  rw [Call.onRation, roomVerdict_frame, capacityFor_frame]
  cases verdict : array.roomVerdict (ration σ) call.asks with
  | ok _ => rfl
  | error fault =>
    rcases Nat.lt_or_ge array.capacity (array.length + call.asks) with full | room
    · cases answered.symm.trans ((inOrder.roomVerdict_eq_error_iff ready call full fault).mp verdict)
    · cases verdict.symm.trans (if_pos room)

omit ready in
theorem disposed (sound : Sound host) :
    (dispose.run (array, host)).result = .ok () ∧
      Turn array.own [] host (dispose.run (array, host)).state.2 := by
  rw [dispose, Step.run_bind_of_ok run_clear, Step.run_bind_of_quiet (Step.run_get _)]
  dsimp only
  by_cases both : Element.size T ≠ 0 ∧ array.capacity ≠ 0
  · have held := (inOrder.sized both.1).held both.2
    rw [own_of_sized both.1 both.2, if_pos ⟨both.1, Nat.pos_of_ne_zero both.2⟩]
    exact ⟨(RationedCustody.released sound held).1, .of_release sound held⟩
  · rw [own, if_neg both, if_neg fun other => both ⟨other.1, Nat.ne_of_gt other.2⟩]
    exact ⟨rfl, .refl sound _⟩

variable [LawfulElement Object T]

/-- Whatever is called on an array in order is answered by the rule, and is a turn of the array, which is in
order afterwards. -/
theorem called (call : Call T α) :
    Played view InOrder own array host (call.onRation (ration σ) (array.view (memory host)))
      (call.operation.run (array, host)) := by
  by_cases unsized : Element.size T = 0
  · have capacity := inOrder.unsized unsized
    have limit : wordMax + 1 = wordLimit := by decide
    have none : ∀ other : GrowArray T, other.own = [] := fun _ => own_of_unsized unsized
    rcases called_of_unsized host unsized capacity (capacity ▸ inOrder.fits) call with
      ⟨fault, done, ran, large⟩ | ⟨answer, after, last, done, ran, answered, unasked, small⟩
    · rw [inOrder.onRation_of_error ready (by omega) (congrArg Outcome.result ran), ran]
      exact ⟨rfl, inOrder, .refl ready.sound _⟩
    · have roomy : array.length + call.asks ≤ array.capacity := by omega
      have toList : after.toList (memory last) = (call.onList (array.toList (memory host))).2 :=
        list_eq_of_unsized unsized (by rw [length_toList]; exact answered.length)
      have room : after.capacity = array.capacityFor call.asks :=
        answered.capacity.trans (if_pos roomy).symm
      rw [inOrder.onRation_of_ok ready (congrArg Outcome.result ran), ran, ← answered.answer, ← toList, ← room]
      refine ⟨rfl, .of_unsized unsized (answered.capacity.trans capacity) answered.inside, ?_⟩
      rw [none, none]
      cases unasked with
      | same => exact .refl ready.sound _
      | rewritten loads => exact .of_rewritten ready.sound loads _
  · have owned := inOrder.sized unsized
    have turn := owned.turn ready.lenient unsized call
    rcases owned.called unsized call with
      ⟨fault, last, done, ran, full, refused⟩ | ⟨answer, after, last, done, ran, answered⟩
    · have kept := owned.preserved_of_refused refused
      rw [inOrder.onRation_of_error ready full (congrArg Outcome.result ran)]
      rw [ran] at turn ⊢
      exact ⟨congrArg (fun list => (_, ArrayView.mk list _)) kept.toList, .of_owned unsized kept.owned,
        turn⟩
    · rw [inOrder.onRation_of_ok ready (congrArg Outcome.result ran), ← answered.answer, ← answered.toList,
        ← answered.capacity]
      rw [ran] at turn ⊢
      exact ⟨rfl, .of_owned unsized answered.owned, turn⟩

end InOrder

variable [LawfulElement Object T]

theorem built (ready : Ready host) (capacity : Nat) :
    (∃ fault array last done, (reserve capacity).run (.empty T, host) =
        ⟨.error fault, (array, last), done⟩ ∧
        (GrowArray.empty T).roomVerdict (ration σ) capacity = .error fault ∧ Turn [] [] host last) ∨
      ∃ array last done, (reserve capacity).run (.empty T, host) = ⟨.ok (), (array, last), done⟩ ∧
        (GrowArray.empty T).roomVerdict (ration σ) capacity = .ok () ∧
        array.view (memory last) = ⟨[], (GrowArray.empty T).capacityFor capacity⟩ ∧
        array.InOrder last ∧ Turn [] array.own host last := by
  have inOrder : (GrowArray.empty T).InOrder host := .empty ready.sound
  obtain ⟨onRation, order, turn⟩ := inOrder.called ready (.reserve capacity : Call T Unit)
  have verdict := inOrder.result_reserve ready capacity
  rcases ran : (reserve capacity).run (GrowArray.empty T, host) with
    ⟨fault | _, ⟨array, last⟩, done⟩ <;> rw [ran] at verdict <;>
    rw [Call.operation, ran, Call.onRation, roomVerdict_frame, capacityFor_frame, Call.asks,
      ← verdict] at onRation <;>
    rw [Call.operation, ran, own_empty] at turn
  · have room : array.capacity = (GrowArray.empty T).capacity :=
      congrArg (·.2.capacity) onRation
    have bare : array.own = [] := by
      by_cases unsized : Element.size T = 0
      · exact own_of_unsized unsized
      · exact own_of_none (room.trans (if_neg unsized))
    exact .inl ⟨_, _, _, _, rfl, verdict.symm, bare ▸ turn⟩
  · rw [Call.operation, ran] at order
    exact .inr ⟨_, _, _, rfl, verdict.symm, congrArg Prod.snd onRation, order, turn⟩

end GrowArray
end Allotment
