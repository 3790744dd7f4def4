import Allotment.Pool.Basic
import Allotment.Proofs.FailFast.Allocators
import Allotment.Proofs.GrowArray.Calls
import Allotment.Proofs.Pool.Refinement

namespace Allotment
open Moded ModedAllocator
variable {Object σ T α : Type} [Allocator Object σ] [ModedAllocator Object σ] [Element Object T]

namespace Allocator

theorem mirrored_modifyMemory (change : Memory Object → Memory Object) :
    (modifyMemory change : Step Object σ Unit).MirrorsItself := by
  apply Step.Mirrored.of_modify
  intro failFast base
  rw [memory_inMode, withMemory_inMode]

theorem mirrored_readMemory (look : Memory Object → α) :
    (readMemory look : Step Object σ α).MirrorsItself := by
  apply Step.Mirrored.get_bind
  intro base
  rw [memory_inMode, memory_inMode]
  exact .of_pure trivial

theorem mirrored_checkAlignment (T : Type) [Element Object T] :
    (checkAlignment T : Step Object σ Unit).MirrorsItself := by
  apply Step.Mirrored.get_bind
  intro base
  simp only [alignment_inMode]
  split
  · exact .of_refuse rfl
  · exact .of_pure trivial

theorem mirrored_arrayBytes (T : Type) [Element Object T] (count : Nat) (operation : String) :
    Step.Mirrored (fun size => arraySize? (Element.size T) count = some size)
      (arrayBytes T count operation : Step Object σ Nat) (arrayBytes T count operation) := by
  unfold arrayBytes
  split
  · next size fits => exact .of_pure fits
  · exact .of_refuse rfl

theorem mirrored_allocateValue (value : T) : (allocateValue value : Step Object σ Nat).MirrorsItself := by
  apply Step.Mirrored.owning
  refine (mirrored_checkAlignment T).bind fun _ _ => ?_
  refine (mirrored_allocate _).bind fun address _ => ?_
  exact (mirrored_modifyMemory _).bind fun _ _ => .of_pure trivial

theorem mirrored_allocateArray (T : Type) [Element Object T] (count : Nat) :
    (allocateArray T count : Step Object σ Nat).MirrorsItself := by
  refine (mirrored_checkAlignment T).bind fun _ _ => ?_
  exact (mirrored_arrayBytes T count _).bind fun size _ => mirrored_allocate size

theorem mirrored_allocateArrayZeroed (T : Type) [Element Object T] (count : Nat) :
    (allocateArrayZeroed T count : Step Object σ Nat).MirrorsItself := by
  refine (mirrored_checkAlignment T).bind fun _ _ => ?_
  exact (mirrored_arrayBytes T count _).bind fun size _ => mirrored_allocateZeroed size

/-- Only a resize to no bytes answers with no block. -/
theorem mirrored_resizeArray (T : Type) [Element Object T] (block : Option Nat) (oldCount newCount : Nat) :
    Step.Mirrored (fun answer => arraySize? (Element.size T) newCount ≠ some 0 → answer ≠ none)
      (resizeArray T block oldCount newCount : Step Object σ (Option Nat))
      (resizeArray T block oldCount newCount) := by
  refine (mirrored_checkAlignment T).bind fun _ _ => ?_
  refine (mirrored_arrayBytes T newCount _).bind fun size fits => ?_
  refine (mirrored_resize block size _).weaken fun answer moved asked => moved ?_
  rintro rfl
  exact asked fits

theorem mirrored_releaseValue (T : Type) [Element Object T] (address : Nat) :
    (releaseValue T address : Step Object σ Unit).MirrorsItself := by
  refine (mirrored_readMemory _).bind fun value _ => ?_
  exact (Step.Mirrored.of_destroy _).bind fun _ _ => mirrored_release _

end Allocator

namespace GrowArray
open Allocator
variable {promise : α → Prop}

omit [Element Object T] in
theorem mirrored_onAllocator {operation operation' : Step Object σ α}
    (mirrored : Step.Mirrored promise operation operation') :
    Step.Mirrored promise (onAllocator operation : Step Object (GrowArray T × σ) α)
      (onAllocator operation') :=
  mirrored.within (fun base => ⟨base.2, rfl, rfl⟩) fun base last => ⟨(base.1, last), rfl, rfl⟩

/-- An array that grows asks for bytes, so it is given a block. -/
theorem mirrored_growTo (newCapacity : Nat) :
    (growTo newCapacity : Step Object (GrowArray T × σ) Unit).MirrorsItself := by
  apply Step.Mirrored.get_bind
  rintro ⟨array, host⟩
  refine (Step.Mirrored.of_assert _ _).bind fun _ grows => ?_
  refine (mirrored_onAllocator (mirrored_resizeArray T _ array.capacity newCapacity)).bind ?_
  intro grown given
  have asks : arraySize? (Element.size T) newCapacity ≠ some 0 := by
    intro nothing
    obtain ⟨product, _⟩ := Word.checkedMul?_eq_some_iff.mp nothing
    simp only [Bool.and_eq_true, bne_iff_ne, decide_eq_true_eq] at grows
    rcases Nat.mul_eq_zero.mp product with unsized | none
    · exact grows.1 unsized
    · omega
  cases grown with
  | none => exact absurd rfl (given asks)
  | some address => exact (Step.Mirrored.of_log _).bind fun _ _ => .of_modify fun _ _ => rfl

theorem mirrored_reserve (additional : Nat) :
    (reserve additional : Step Object (GrowArray T × σ) Unit).MirrorsItself := by
  apply Step.Mirrored.get_bind
  rintro ⟨array, host⟩
  simp only [Moded.inMode_pair]
  cases Word.checkedAdd? array.length additional with
  | none => exact .of_refuse rfl
  | some required =>
    dsimp only
    split
    · exact .of_pure trivial
    · exact mirrored_growTo _

theorem mirrored_push (value : T) :
    (push value : Step Object (GrowArray T × σ) Unit).MirrorsItself := by
  apply Step.Mirrored.owning
  apply Step.Mirrored.get_bind
  rintro ⟨array, host⟩
  refine ((mirrored_reserve 1).when _).bind fun _ _ => ?_
  apply Step.Mirrored.get_bind
  rintro ⟨roomy, host'⟩
  refine (mirrored_onAllocator (mirrored_modifyMemory _)).bind fun _ _ => ?_
  exact .of_modify fun _ _ => rfl

theorem mirrored_pop : (pop : Step Object (GrowArray T × σ) (Option T)).MirrorsItself := by
  apply Step.Mirrored.get_bind
  rintro ⟨array, host⟩
  simp only [Moded.inMode_pair, memory_inMode]
  cases array.length with
  | zero => exact .of_pure trivial
  | succ last =>
    refine (Step.Mirrored.of_set ({ array with length := last }, host)).bind fun _ _ => ?_
    exact .of_pure trivial

theorem mirrored_replace (index : Nat) (value : T) :
    (replace index value : Step Object (GrowArray T × σ) (Option T)).MirrorsItself := by
  apply Step.Mirrored.get_bind
  rintro ⟨array, host⟩
  simp only [Moded.inMode_pair, memory_inMode]
  cases array.get? (memory host) index with
  | none => exact .of_pure trivial
  | some old =>
    refine (mirrored_onAllocator (mirrored_modifyMemory _)).bind fun _ _ => ?_
    exact .of_pure trivial

theorem mirrored_rearrange (order : List T → List T) :
    (rearrange order : Step Object (GrowArray T × σ) Unit).MirrorsItself := by
  apply Step.Mirrored.get_bind
  rintro ⟨array, host⟩
  exact mirrored_onAllocator (mirrored_modifyMemory _)

theorem mirrored_clear : (clear : Step Object (GrowArray T × σ) Unit).MirrorsItself := by
  apply Step.Mirrored.get_bind
  rintro ⟨array, host⟩
  simp only [Moded.inMode_pair, memory_inMode]
  exact (Step.Mirrored.of_set ({ array with length := 0 }, host)).bind fun _ _ => .of_destroy _

theorem Call.mirrored (call : Call T α) :
    (call.operation : Step Object (GrowArray T × σ) α).MirrorsItself := by
  cases call with
  | push value => exact mirrored_push value
  | pop => exact mirrored_pop
  | get index =>
    apply Step.Mirrored.get_bind
    rintro ⟨array, host⟩
    simp only [Moded.inMode_pair, memory_inMode]
    exact .of_pure trivial
  | replace index value => exact mirrored_replace index value
  | rearrange order permutes => exact mirrored_rearrange order
  | reserve additional => exact mirrored_reserve additional
  | clear => exact mirrored_clear

theorem mirrored_createWithCapacity (capacity : Nat) :
    (createWithCapacity capacity : Step Object (GrowArray T × σ) Unit).MirrorsItself :=
  (Step.Mirrored.of_modify fun _ _ => rfl).bind fun _ _ => mirrored_reserve capacity

theorem mirrored_dispose : (dispose : Step Object (GrowArray T × σ) Unit).MirrorsItself := by
  refine mirrored_clear.bind fun _ _ => ?_
  apply Step.Mirrored.get_bind
  rintro ⟨array, host⟩
  simp only [Moded.inMode_pair]
  split
  · exact mirrored_onAllocator (mirrored_release _)
  · exact .of_pure trivial

end GrowArray

namespace Pool
open Allocator
variable {promise : α → Prop}

omit [Element Object T] in
theorem mirrored_onSlots {operation operation' : Step Object (GrowArray (Slot T) × σ) α}
    (mirrored : Step.Mirrored promise operation operation') :
    Step.Mirrored promise (onSlots operation : Step Object (Pool T × σ) α) (onSlots operation') :=
  mirrored.within (fun base => ⟨(base.1.slots, base.2), rfl, rfl⟩)
    fun base last => ⟨({ base.1 with slots := last.1 }, last.2), rfl, rfl⟩

omit [Element Object T] in
theorem mirrored_misused (misuse : PoolMisuse) :
    Step.Mirrored promise (misused misuse : Step Object (Pool T × σ) α) (misused misuse) :=
  (Step.Mirrored.of_log _).bind fun _ _ => .of_abort fun _ => Abort.noConfusion

theorem mirrored_validate {τ : Type} [Moded τ] (config : PoolConfig) :
    (config.validate : Step Object τ Unit).MirrorsItself := by
  unfold PoolConfig.validate
  split
  · exact .of_pure trivial
  · exact .of_refuse rfl

theorem mirrored_create (config : PoolConfig) :
    (create config : Step Object (Pool T × σ) Unit).MirrorsItself := by
  refine (mirrored_validate config).bind fun _ _ => ?_
  refine (Step.Mirrored.of_modify fun _ _ => rfl).bind fun _ _ => ?_
  refine (mirrored_onSlots (GrowArray.mirrored_createWithCapacity _)).bind fun _ _ => ?_
  exact .of_log _

theorem mirrored_reuseSlot (index : UInt32) (value : T) :
    (reuseSlot index value : Step Object (Pool T × σ) ResourceId).MirrorsItself := by
  apply Step.Mirrored.get_bind
  rintro ⟨pool, host⟩
  simp only [Moded.inMode_pair, memory_inMode]
  cases pool.slots.get? (memory host) index.toNat with
  | none => exact .of_abort fun _ => Abort.noConfusion
  | some slot =>
    obtain ⟨generation, state⟩ := slot
    cases state with
    | occupied _ => exact mirrored_misused _
    | free next =>
      refine (mirrored_onSlots (GrowArray.mirrored_replace _ _)).bind fun _ _ => ?_
      exact (Step.Mirrored.of_modify fun _ _ => rfl).bind fun _ _ => .of_pure trivial

omit [Element Object T] in
theorem mirrored_announceGrowth : (announceGrowth : Step Object (Pool T × σ) Unit).MirrorsItself := by
  apply Step.Mirrored.get_bind
  rintro ⟨pool, host⟩
  exact .of_log _

theorem mirrored_pushSlot (value : T) :
    (pushSlot value : Step Object (Pool T × σ) ResourceId).MirrorsItself := by
  apply Step.Mirrored.get_bind
  rintro ⟨pool, host⟩
  simp only [Moded.inMode_pair, failsFast_inMode]
  split
  · exact .of_refuseCapacity rfl
  · refine (mirrored_onSlots (GrowArray.mirrored_reserve 1)).bind fun _ _ => ?_
    refine (mirrored_announceGrowth.when _).bind fun _ _ => ?_
    exact (mirrored_onSlots (GrowArray.mirrored_push _)).bind fun _ _ => .of_pure trivial

theorem mirrored_insert (value : T) :
    (insert value : Step Object (Pool T × σ) ResourceId).MirrorsItself := by
  apply Step.Mirrored.owning
  apply Step.Mirrored.get_bind
  rintro ⟨pool, host⟩
  simp only [Moded.inMode_pair]
  have counts : ∀ {place : Step Object (Pool T × σ) ResourceId}, place.MirrorsItself →
      (do let id ← place
          Step.modify fun state => ({ state.1 with length := state.1.length + 1 }, state.2)
          Step.log (.slotAllocated id (pool.length + 1))
          pure id).MirrorsItself := by
    intro place mirrors
    refine mirrors.bind fun id _ => ?_
    refine (Step.Mirrored.of_modify fun _ _ => rfl).bind fun _ _ => ?_
    exact (Step.Mirrored.of_log _).bind fun _ _ => .of_pure trivial
  cases pool.freeHead with
  | some index => exact counts (mirrored_reuseSlot index value)
  | none => exact counts (mirrored_pushSlot value)

theorem mirrored_update (id : ResourceId) (change : T → T × α) :
    (update id change : Step Object (Pool T × σ) (Option α)).MirrorsItself := by
  apply Step.Mirrored.get_bind
  rintro ⟨pool, host⟩
  simp only [Moded.inMode_pair, memory_inMode]
  cases pool.get? (memory host) id with
  | none => exact .of_pure trivial
  | some value =>
    exact (mirrored_onSlots (GrowArray.mirrored_replace _ _)).bind fun _ _ => .of_pure trivial

theorem mirrored_remove? (id : ResourceId) :
    (remove? id : Step Object (Pool T × σ) (Option T)).MirrorsItself := by
  apply Step.Mirrored.get_bind
  rintro ⟨pool, host⟩
  simp only [Moded.inMode_pair, memory_inMode]
  cases pool.get? (memory host) id with
  | none => exact .of_pure trivial
  | some value =>
    refine (mirrored_onSlots (GrowArray.mirrored_replace _ _)).bind fun _ _ => ?_
    refine (Step.Mirrored.of_modify fun _ _ => rfl).bind fun _ _ => ?_
    exact (Step.Mirrored.of_log _).bind fun _ _ => .of_pure trivial

theorem mirrored_remove (id : ResourceId) :
    (remove id : Step Object (Pool T × σ) T).MirrorsItself := by
  refine (mirrored_remove? id).bind fun taken _ => ?_
  cases taken with
  | none => exact mirrored_misused _
  | some value => exact .of_pure trivial

theorem Call.mirrored (call : Call T α) :
    (call.operation : Step Object (Pool T × σ) α).MirrorsItself := by
  cases call with
  | insert value => exact mirrored_insert value
  | update id change => exact mirrored_update id change
  | remove? id => exact mirrored_remove? id
  | remove id => exact mirrored_remove id

theorem mirrored_dispose : (dispose : Step Object (Pool T × σ) Unit).MirrorsItself := by
  apply Step.Mirrored.get_bind
  rintro ⟨pool, host⟩
  refine ((Step.Mirrored.of_log _).when _).bind fun _ _ => ?_
  exact (Step.Mirrored.of_log _).bind fun _ _ => mirrored_onSlots GrowArray.mirrored_dispose

theorem mirrored_destroy : (destroy : Step Object (Pool T × σ) Nat).MirrorsItself := by
  apply Step.Mirrored.get_bind
  rintro ⟨pool, host⟩
  exact mirrored_dispose.bind fun _ _ => .of_pure trivial

end Pool
end Allotment
