import Allotment.Proofs.Accounting.Stack
import Allotment.Proofs.FailFast.Containers

namespace Allotment
open Step
variable {Object T α : Type} [Element Object T]

/-- A promise about answers holds of every answer, whatever the mode. -/
theorem Step.Mirrored.promised {σ : Type} [Moded σ] {promise : α → Prop} {operation : Step Object σ α}
    (mirrored : Mirrored promise operation operation) {failFast : Bool} {state : σ}
    (mode : Moded.inMode failFast state = state) {answer : α}
    (answered : (operation.run state).result = .ok answer) : promise answer := by
  have outcomes := mirrored state
  rw [← mode] at answered
  cases failFast with
  | false => exact outcomes.answered answer answered
  | true =>
    rw [outcomes.result] at answered
    refine outcomes.answered answer ?_
    cases same : (operation.run (Moded.inMode false state)).result with
    | ok _ => rw [same] at answered; exact answered
    | error _ => rw [same] at answered; cases answered

namespace Allocator

theorem aloof_checkAlignment (T : Type) [Element Object T] :
    (checkAlignment T : Step Object (Stack Object) Unit).Aloof id := by
  apply Aloof.get_bind
  intro stack
  split
  · exact Aloof.of_refuse rfl stack
  · exact Aloof.of_pure () stack

theorem aloof_arrayBytes (T : Type) [Element Object T] (count : Nat) (operation : String) :
    (arrayBytes T count operation : Step Object (Stack Object) Nat).Aloof id := by
  unfold arrayBytes
  split
  · exact .of_pure _
  · exact .of_refuse rfl

theorem accounted_allocateValue (value : T) :
    (allocateValue value : Step Object (Stack Object) Nat).Accounted id := by
  refine Accounted.owning ?_ _
  refine (aloof_checkAlignment T).next fun _ => ?_
  refine (Stack.accounted_push (Element.size T)).settled fun address stack => ?_
  exact ⟨address, rfl, ⟨rfl, rfl, rfl, rfl⟩, rfl, .of_ok address⟩

theorem accounted_allocateArray (T : Type) [Element Object T] (count : Nat) :
    (allocateArray T count : Step Object (Stack Object) Nat).Accounted id := by
  refine (aloof_checkAlignment T).next fun _ => ?_
  exact (aloof_arrayBytes T count _).next Stack.accounted_push

theorem accounted_allocateArrayZeroed (T : Type) [Element Object T] (count : Nat) :
    (allocateArrayZeroed T count : Step Object (Stack Object) Nat).Accounted id := by
  refine (aloof_checkAlignment T).next fun _ => ?_
  exact (aloof_arrayBytes T count _).next Stack.accounted_allocateZeroed

theorem accounted_resizeArray (T : Type) [Element Object T] (block : Option Nat)
    (oldCount newCount : Nat) :
    (resizeArray T block oldCount newCount : Step Object (Stack Object) (Option Nat)).Accounted id := by
  refine (aloof_checkAlignment T).next fun _ => ?_
  exact (aloof_arrayBytes T newCount _).next fun size => Stack.accounted_resize block size _

/-- The destructor runs whether the release is accepted or not, and is not counted. -/
theorem accounted_releaseValue (T : Type) [Element Object T] (address : Nat) :
    (releaseValue T address : Step Object (Stack Object) Unit).Accounted id := by
  have reads : (readMemory (Element.load T · address) : Step Object (Stack Object) T).Aloof id :=
    fun _ => ⟨.refl _, rfl, .of_ok _⟩
  refine reads.next fun value => ?_
  exact (Aloof.of_destroy _).next fun _ => Stack.accounted_release (some address)

theorem counted_allocateValue {stack : Stack Object} {value : T} {place : Nat}
    (answered : ((allocateValue value).run stack).result = .ok place) :
    Effect.counted ((allocateValue value).run stack).effects =
      [.stackPushed (Element.size T) place (place + Element.size T)] := by
  rcases ran : (do
      checkAlignment T
      let address ← allocate (Element.size T)
      modifyMemory fun memory => Element.store memory address value
      pure address : Step Object (Stack Object) Nat).run stack with ⟨fault | address, last, done⟩
  · rw [allocateValue, run_owning_of_error ran] at answered
    cases answered
  · rw [allocateValue, run_owning_of_ok ran] at answered ⊢
    rw [← ran] at answered ⊢
    rcases Nat.lt_or_ge (alignment stack) (Element.alignment T) with strict | aligned
    · rw [run_bind_of_error (run_checkAlignment_of_strict strict)] at answered
      cases answered
    · rw [run_bind_of_quiet (run_checkAlignment aligned)] at answered ⊢
      obtain ⟨value, found, same, counted⟩ := counted_of_silent (fun _ _ => rfl) answered
      cases same
      exact counted.trans (Stack.counted_push found)

theorem run_sized_of_answered {stack : Stack Object} {count : Nat} {operation : String}
    {ask : Nat → Step Object (Stack Object) α} {answer : α}
    (answered : ((checkAlignment T >>= fun _ => arrayBytes T count operation >>= ask).run
      stack).result = .ok answer) :
    (checkAlignment T >>= fun _ => arrayBytes T count operation >>= ask).run stack =
      (ask (Element.size T * count)).run stack := by
  rw [run_sized] at answered ⊢
  split at answered
  · cases answered
  · next aligned =>
    rw [if_neg aligned]
    split at answered
    · cases answered
    · next fits => rw [if_neg fits]

theorem counted_releaseValue {stack : Stack Object} {address : Nat}
    (answered : ((releaseValue T address).run stack).result = .ok ()) :
    Effect.counted ((releaseValue T address).run stack).effects = [stack.popEvent address] := by
  have ran : (releaseValue T address).run stack = ⟨((Stack.pop address).run stack).result,
      ((Stack.pop address).run stack).state,
      (Element.destructors (Element.load T (memory stack) address)).map Effect.destroyed ++
        ((Stack.pop address).run stack).effects⟩ := rfl
  rw [ran] at answered ⊢
  rw [Effect.counted_append, Effect.counted_destroyed, List.nil_append]
  exact Stack.counted_pop answered

end Allocator

namespace GrowArray
open Allocator

omit [Element Object T] in
theorem accounted_onAllocator {operation : Step Object (Stack Object) α}
    (accounted : operation.Accounted id) :
    (onAllocator operation : Step Object (GrowArray T × Stack Object) α).Accounted Prod.snd :=
  accounted.within (fun _ => rfl) fun _ _ => rfl

private theorem ne_none_of_resizeArray {block : Option Nat} {oldCount newCount : Nat} {stack : Stack Object}
    {answer : Option Nat} (sized : Element.size T ≠ 0) (some : newCount ≠ 0)
    (answered : ((resizeArray T block oldCount newCount).run stack).result = .ok answer) :
    answer ≠ none := by
  have mode : Moded.inMode stack.config.failFast stack = stack := rfl
  refine (mirrored_resizeArray T block oldCount newCount).promised mode answered ?_
  intro nothing
  obtain ⟨product, _⟩ := Word.checkedMul?_eq_some_iff.mp nothing
  rcases Nat.mul_eq_zero.mp product with unsized | none
  · exact sized unsized
  · exact some none

/-- Once an array was given a block, nothing can fail. -/
theorem accounted_growTo (newCapacity : Nat) :
    (growTo newCapacity : Step Object (GrowArray T × Stack Object) Unit).Accounted Prod.snd := by
  apply Accounted.get_bind
  rintro ⟨array, stack⟩
  cases grows : (Element.size T != 0 && array.capacity < newCapacity) with
  | false =>
    dsimp only
    rw [grows]
    exact Outcome.Aloof.accounted ⟨.refl stack, rfl, .of_error rfl⟩
  | true =>
    dsimp only
    rw [grows, run_bind_of_quiet (run_assert_true _ _)]
    simp only [Bool.and_eq_true, bne_iff_ne, decide_eq_true_eq] at grows
    refine accounted_of_settled (accounted_onAllocator (accounted_resizeArray T _ _ _) _) ?_
    intro answer middle done ran
    have given : answer ≠ none :=
      ne_none_of_resizeArray grows.1 (by omega) (congrArg Outcome.result ran)
    cases answer with
    | none => exact absurd rfl given
    | some address => exact ⟨(), rfl, .refl _, rfl, .of_ok ()⟩

theorem accounted_reserve (additional : Nat) :
    (reserve additional : Step Object (GrowArray T × Stack Object) Unit).Accounted Prod.snd := by
  apply Accounted.get_bind
  rintro ⟨array, stack⟩
  dsimp only
  cases Word.checkedAdd? array.length additional with
  | none => exact (Aloof.of_refuse rfl).accounted _
  | some required =>
    dsimp only
    split
    · exact (Aloof.of_pure ()).accounted _
    · exact accounted_growTo _ _

theorem accounted_push (value : T) :
    (push value : Step Object (GrowArray T × Stack Object) Unit).Accounted Prod.snd := by
  refine Accounted.owning ?_ _
  apply Accounted.get_bind
  rintro ⟨array, stack⟩
  refine accounted_of_settled ((accounted_reserve 1).when _ _) fun _ middle _ _ => ?_
  exact ⟨(), rfl, ⟨rfl, rfl, rfl, rfl⟩, rfl, .of_ok ()⟩

theorem aloof_clear : (clear : Step Object (GrowArray T × Stack Object) Unit).Aloof Prod.snd := by
  rintro ⟨array, stack⟩
  rw [run_clear]
  exact ⟨.refl stack, Effect.counted_destroyed _, .of_ok ()⟩

theorem Call.accounted (call : Call T α) :
    (call.operation : Step Object (GrowArray T × Stack Object) α).Accounted Prod.snd := by
  cases call with
  | push value => exact accounted_push value
  | pop =>
    rintro ⟨array, stack⟩
    by_cases empty : array.length = 0
    · rw [operation, run_pop_of_empty empty]
      exact Outcome.Aloof.accounted ⟨.refl stack, rfl, .of_ok _⟩
    · rw [operation, run_pop_of_filled empty]
      exact Outcome.Aloof.accounted ⟨.refl stack, rfl, .of_ok _⟩
  | get index =>
    exact fun state => Outcome.Aloof.accounted ⟨.refl _, rfl, .of_ok _⟩
  | replace index value =>
    rintro ⟨array, stack⟩
    by_cases inside : index < array.length
    · rw [operation, run_replace inside]
      exact Outcome.Aloof.accounted ⟨⟨rfl, rfl, rfl, rfl⟩, rfl, .of_ok _⟩
    · rw [operation, run_replace_of_outside (Nat.le_of_not_lt inside)]
      exact Outcome.Aloof.accounted ⟨.refl stack, rfl, .of_ok _⟩
  | rearrange order permutes =>
    exact fun state => Outcome.Aloof.accounted ⟨⟨rfl, rfl, rfl, rfl⟩, rfl, .of_ok _⟩
  | reserve additional => exact accounted_reserve additional
  | clear => exact aloof_clear.accounted

theorem accounted_createWithCapacity (capacity : Nat) :
    (createWithCapacity capacity : Step Object (GrowArray T × Stack Object) Unit).Accounted Prod.snd :=
  (Aloof.of_modify fun state => .refl state.2).next fun _ => accounted_reserve capacity

theorem accounted_dispose :
    (dispose : Step Object (GrowArray T × Stack Object) Unit).Accounted Prod.snd := by
  refine aloof_clear.next fun _ => ?_
  apply Accounted.get_bind
  rintro ⟨array, stack⟩
  dsimp only
  split
  · exact accounted_onAllocator (Stack.accounted_release (some array.address)) _
  · exact (Aloof.of_pure ()).accounted _

section Room
variable {σ : Type} [Allocator Object σ] {array larger : GrowArray T} {host last : σ}
  {done : List (Effect Object)}

private theorem capacity_of_grown {newCapacity : Nat}
    (ran : (growTo newCapacity).run (array, host) = ⟨.ok (), (larger, last), done⟩) :
    larger.length = array.length ∧ larger.capacity = newCapacity := by
  rw [growTo, run_bind_of_quiet (run_get _)] at ran
  cases grows : (Element.size T != 0 && array.capacity < newCapacity) with
  | false =>
    dsimp only at ran
    rw [grows] at ran
    cases ran
  | true =>
    dsimp only at ran
    rw [grows, run_bind_of_quiet (run_assert_true _ _)] at ran
    rcases asked : (array.enlarge newCapacity).run host with ⟨fault | block, middle, before⟩
    · have failed := ran.symm.trans (run_bind_of_error (run_asked asked) _)
      cases failed
    · have answered := ran.symm.trans (run_bind_of_ok (run_asked asked) _)
      cases block with
      | none =>
        rw [run_refuseCapacity_false] at answered
        cases answered
      | some place =>
        cases answered
        exact ⟨rfl, rfl⟩

private theorem room_of_reserved
    (ran : (reserve 1).run (array, host) = ⟨.ok (), (larger, last), done⟩) :
    larger.length < larger.capacity := by
  rw [reserve, run_bind_of_quiet (run_get _)] at ran
  dsimp only at ran
  cases sum : Word.checkedAdd? array.length 1 with
  | none => rw [sum] at ran; cases ran
  | some required =>
    obtain ⟨rfl, _⟩ := Word.checkedAdd?_eq_some_iff.mp sum
    rw [sum] at ran
    dsimp only at ran
    split at ran
    · next roomy =>
      cases ran
      exact roomy
    · obtain ⟨length, capacity⟩ := capacity_of_grown ran
      omega

end Room

end GrowArray

namespace Pool
open Allocator

omit [Element Object T] in
theorem accounted_onSlots {operation : Step Object (GrowArray (Slot T) × Stack Object) α}
    (accounted : operation.Accounted Prod.snd) :
    (onSlots operation : Step Object (Pool T × Stack Object) α).Accounted Prod.snd :=
  accounted.within (fun _ => rfl) fun _ _ => rfl

theorem accounted_create (config : PoolConfig) :
    (create config : Step Object (Pool T × Stack Object) Unit).Accounted Prod.snd := by
  have validates : (config.validate : Step Object (Pool T × Stack Object) Unit).Aloof Prod.snd := by
    unfold PoolConfig.validate
    split
    · exact .of_pure ()
    · exact .of_refuse rfl
  refine validates.next fun _ => ?_
  refine (Aloof.of_modify fun state => .refl state.2).next fun _ => ?_
  refine (accounted_onSlots (GrowArray.accounted_createWithCapacity _)).settled fun _ state => ?_
  exact ⟨(), rfl, .refl _, rfl, .of_ok ()⟩

theorem aloof_reuseSlot (index : UInt32) (value : T) :
    (reuseSlot index value : Step Object (Pool T × Stack Object) ResourceId).Aloof Prod.snd := by
  rintro ⟨pool, stack⟩
  cases found : pool.slots.get? (memory stack) index.toNat with
  | none =>
    rw [reuseSlot, run_bind_of_quiet (run_get _)]
    dsimp only
    rw [found]
    exact Aloof.of_abort rfl _
  | some slot =>
    obtain ⟨generation, _ | next⟩ := slot
    · rw [reuseSlot, run_bind_of_quiet (run_get _)]
      dsimp only
      rw [found]
      exact Aloof.of_usageViolation _ _ _
    · have free : pool.slots.get? (memory stack) (ResourceId.mk index generation).index.toNat =
          some ⟨(ResourceId.mk index generation).generation, .free next⟩ := found
      rw [run_reuseSlot free value]
      exact ⟨⟨rfl, rfl, rfl, rfl⟩, rfl, .of_ok _⟩

/-- Once room was made the value is put there, and the array does not grow again. -/
theorem accounted_pushSlot (value : T) :
    (pushSlot value : Step Object (Pool T × Stack Object) ResourceId).Accounted Prod.snd := by
  rintro ⟨pool, stack⟩
  by_cases full : pool.slotLimit ≤ pool.slots.length
  · rw [run_pushSlot_of_limit full]
    refine Outcome.Aloof.accounted ⟨.refl stack, ?_, .of_error ?_⟩
    · cases failsFast stack <;> rfl
    · cases failsFast stack <;> rfl
  · rw [pushSlot, run_bind_of_quiet (run_get _)]
    dsimp only
    rw [if_neg full]
    refine accounted_of_settled (accounted_onSlots (GrowArray.accounted_reserve 1) _) ?_
    rintro _ middle done ran
    rcases reserved : (GrowArray.reserve 1).run (pool.slots, stack) with ⟨result, ⟨larger, last⟩, more⟩
    rw [run_onSlots_of_run reserved] at ran
    cases ran
    have pushed : (onSlots (GrowArray.push (⟨0, .occupied value⟩ : Slot T))).run
        ({ pool with slots := larger }, last) = ⟨.ok (), ({ pool with slots := larger.extended },
          larger.written last larger.length ⟨0, .occupied value⟩), []⟩ :=
      run_onSlots_of_run (GrowArray.run_push_of_room (GrowArray.room_of_reserved reserved) _)
    have announces : (Step.when (pool.slots.length == pool.slots.capacity) announceGrowth :
        Step Object (Pool T × Stack Object) Unit).run ({ pool with slots := larger }, last) =
          ⟨.ok (), ({ pool with slots := larger }, last), if pool.slots.length == pool.slots.capacity
            then [.logged (.poolGrown larger.capacity)] else []⟩ := by
      cases pool.slots.length == pool.slots.capacity <;> rfl
    refine SettlesAt.bind (.of_run announces (.refl last) ?_) fun _ state _ ran => ?_
    · cases pool.slots.length == pool.slots.capacity <;> rfl
    · rw [announces] at ran
      cases ran
      refine SettlesAt.bind (.of_run pushed ⟨rfl, rfl, rfl, rfl⟩ rfl) fun _ _ _ _ => ?_
      exact ⟨_, rfl, .refl _, rfl, .of_ok _⟩

/-- Whichever way the value finds a slot, the rest cannot fail. -/
theorem accounted_insert (value : T) :
    (insert value : Step Object (Pool T × Stack Object) ResourceId).Accounted Prod.snd := by
  refine Accounted.owning ?_ _
  apply Accounted.get_bind
  rintro ⟨pool, stack⟩
  have counts : ∀ {place : Step Object (Pool T × Stack Object) ResourceId},
      place.Accounted Prod.snd →
        (do let id ← place
            Step.modify fun state => ({ state.1 with length := state.1.length + 1 }, state.2)
            Step.log (.slotAllocated id (pool.length + 1))
            pure id).Accounted Prod.snd := by
    intro place accounted
    exact accounted.settled fun id state => ⟨id, rfl, .refl state.2, rfl, .of_ok id⟩
  dsimp only
  cases pool.freeHead with
  | some index => exact counts (aloof_reuseSlot index value).accounted _
  | none => exact counts (accounted_pushSlot value) _

theorem aloof_remove? (id : ResourceId) :
    (remove? id : Step Object (Pool T × Stack Object) (Option T)).Aloof Prod.snd := by
  rintro ⟨pool, stack⟩
  cases found : pool.get? (memory stack) id with
  | none =>
    rw [run_remove?_of_dead found]
    exact ⟨.refl stack, rfl, .of_ok _⟩
  | some value =>
    rw [run_remove?_of_live found]
    exact ⟨⟨rfl, rfl, rfl, rfl⟩, rfl, .of_ok _⟩

theorem Call.accounted (call : Call T α) :
    (call.operation : Step Object (Pool T × Stack Object) α).Accounted Prod.snd := by
  cases call with
  | insert value => exact accounted_insert value
  | update id change =>
    rintro ⟨pool, stack⟩
    cases found : pool.get? (memory stack) id with
    | none =>
      rw [operation, run_update_of_dead found]
      exact Outcome.Aloof.accounted ⟨.refl stack, rfl, .of_ok _⟩
    | some value =>
      rw [operation, run_update_of_live found]
      exact Outcome.Aloof.accounted ⟨⟨rfl, rfl, rfl, rfl⟩, rfl, .of_ok _⟩
  | remove? id => exact (aloof_remove? id).accounted
  | remove id =>
    refine (aloof_remove? id).next fun taken => ?_
    cases taken with
    | none => exact (Aloof.of_usageViolation _ _).accounted
    | some value => exact (Aloof.of_pure value).accounted

theorem accounted_dispose :
    (dispose : Step Object (Pool T × Stack Object) Unit).Accounted Prod.snd := by
  apply Accounted.get_bind
  rintro ⟨pool, stack⟩
  have warns : (Step.when (0 < pool.length && pool.config.warnOnLeak)
      (Step.log (.poolLeaked pool.length pool.slots.length)) :
        Step Object (Pool T × Stack Object) Unit).Aloof Prod.snd := by
    cases 0 < pool.length && pool.config.warnOnLeak with
    | false => exact .of_pure ()
    | true => exact .of_log rfl
  refine warns.next (fun _ => ?_) _
  exact (Aloof.of_log rfl).next fun _ => accounted_onSlots GrowArray.accounted_dispose

theorem accounted_destroy :
    (destroy : Step Object (Pool T × Stack Object) Nat).Accounted Prod.snd := by
  apply Accounted.get_bind
  rintro ⟨pool, stack⟩
  refine accounted_dispose.settled (fun _ state => ?_) _
  exact ⟨pool.length, rfl, .refl state.2, rfl, .of_ok _⟩

end Pool
end Allotment
