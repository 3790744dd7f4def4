import Allotment.Proofs.Allocator.Effects
import Allotment.Proofs.GrowArray.Calls
import Allotment.Proofs.Pool.Refinement

namespace Allotment
open Step Effect
variable {Object σ T α : Type} [Allocator Object σ]

namespace Effect

/-- How many pools were torn down. -/
def teardowns (effects : List (Effect Object)) : Nat := effects.countP endsPool

@[simp] theorem teardowns_append (first second : List (Effect Object)) :
    teardowns (first ++ second) = teardowns first + teardowns second := List.countP_append

end Effect

/-- The operation tears no pool down. -/
abbrev Step.EndsNothing (operation : Step Object σ α) : Prop :=
  Emits (fun effect => effect.endsPool = false) operation

omit [Allocator Object σ] in
theorem Step.Emits.teardowns {operation : Step Object σ α} (ends : operation.EndsNothing) (state : σ) :
    teardowns (operation.run state).effects = 0 :=
  List.countP_eq_zero.mpr fun effect member => Bool.eq_false_iff.mp (ends state effect member)

omit [Allocator Object σ] in
theorem Step.Emits.endsNothing {operation : Step Object σ α} (discreet : operation.Discreet) :
    operation.EndsNothing := discreet.weaken fun _ => Incidental.endsPool

omit [Allocator Object σ] in
theorem Step.Emits.owned {operation : Step Object σ α} (ends : operation.EndsNothing)
    (objects : List Object) : (Step.owning objects operation).EndsNothing := ends.owning fun _ _ => rfl

namespace Allocator

theorem discreet_modifyMemory (change : Memory Object → Memory Object) :
    (modifyMemory change : Step Object σ Unit).Discreet := .of_modify _

variable [Element Object T]

theorem discreet_checkAlignment : (checkAlignment T : Step Object σ Unit).Discreet := by
  apply Emits.get_bind
  intro state
  split
  · exact .of_refuse _
  · exact .of_pure ()

omit [Allocator Object σ] in
theorem discreet_arrayBytes (count : Nat) (operation : String) :
    (arrayBytes T count operation : Step Object σ Nat).Discreet := by
  unfold arrayBytes
  split
  · exact .of_pure _
  · exact .of_refuse _

theorem discreet_resizeArray [DiscreetAllocator Object σ] (block : Option Nat)
    (oldCount newCount : Nat) :
    (resizeArray T block oldCount newCount : Step Object σ (Option Nat)).Discreet := by
  refine discreet_checkAlignment.bind fun _ => ?_
  exact (discreet_arrayBytes newCount _).bind fun _ => DiscreetAllocator.resize _ _ _

end Allocator

namespace GrowArray
open Allocator
variable [Element Object T] [DiscreetAllocator Object σ]

theorem discreet_growTo (newCapacity : Nat) :
    (growTo newCapacity : Step Object (GrowArray T × σ) Unit).Discreet := by
  refine .get_bind fun state => ?_
  refine (Emits.of_assert _ _).bind fun _ => ?_
  refine (discreet_resizeArray _ _ _).within.bind fun grown => ?_
  cases grown with
  | none => exact discreet_refuseCapacity _ _
  | some address => exact (discreet_log rfl).bind fun _ => .of_modify _

theorem discreet_reserve (additional : Nat) :
    (reserve additional : Step Object (GrowArray T × σ) Unit).Discreet := by
  apply Emits.get_bind
  intro state
  dsimp only
  split
  · exact .of_refuse _
  · split
    · exact .of_pure ()
    · exact discreet_growTo _

theorem endsNothing_push (value : T) :
    (push value : Step Object (GrowArray T × σ) Unit).EndsNothing := by
  refine Emits.owned (.get_bind fun state => ?_) _
  refine ((discreet_reserve 1).endsNothing.when _).bind fun _ => .get_bind fun state => ?_
  exact (Emits.of_modify _).within.bind fun _ => .of_modify _

omit [DiscreetAllocator Object σ] in
theorem discreet_replace (index : Nat) (value : T) :
    (replace index value : Step Object (GrowArray T × σ) (Option T)).Discreet := by
  apply Emits.get_bind
  intro state
  dsimp only
  split
  · exact .of_pure none
  · exact (discreet_modifyMemory _).within.bind fun _ => .of_pure _

theorem endsNothing_dispose : (dispose : Step Object (GrowArray T × σ) Unit).EndsNothing := by
  have clears : (clear : Step Object (GrowArray T × σ) Unit).EndsNothing := by
    refine .get_bind fun state => (Emits.of_set _).bind fun _ => ?_
    intro state effect member
    obtain ⟨object, _, rfl⟩ := List.mem_map.mp member
    rfl
  refine clears.bind fun _ => .get_bind fun state => ?_
  dsimp only
  split
  · exact (DiscreetAllocator.release _).endsNothing.within
  · exact .of_pure ()

end GrowArray

namespace Pool
variable [Element Object T]

omit [Allocator Object σ] [Element Object T] in
theorem discreet_misused (misuse : PoolMisuse) :
    (misused misuse : Step Object (Pool T × σ) α).Discreet := discreet_usageViolation _ _

theorem discreet_remove? (id : ResourceId) :
    (remove? id : Step Object (Pool T × σ) (Option T)).Discreet := by
  apply Emits.get_bind
  intro state
  dsimp only
  split
  · exact .of_pure none
  · refine (GrowArray.discreet_replace _ _).within.bind fun _ => ?_
    refine (Emits.of_modify _).bind fun _ => ?_
    exact (discreet_log rfl).bind fun _ => .of_pure _

theorem discreet_remove (id : ResourceId) : (remove id : Step Object (Pool T × σ) T).Discreet := by
  apply (discreet_remove? id).bind
  intro found
  cases found with
  | none => exact discreet_misused _
  | some value => exact .of_pure value

theorem discreet_update (id : ResourceId) (change : T → T × α) :
    (update id change : Step Object (Pool T × σ) (Option α)).Discreet := by
  apply Emits.get_bind
  intro state
  dsimp only
  split
  · exact .of_pure none
  · exact (GrowArray.discreet_replace _ _).within.bind fun _ => .of_pure _

theorem discreet_reuseSlot (index : UInt32) (value : T) :
    (reuseSlot index value : Step Object (Pool T × σ) ResourceId).Discreet := by
  apply Emits.get_bind
  intro state
  dsimp only
  split
  · exact .of_abort _
  · split
    · exact discreet_misused _
    · refine (GrowArray.discreet_replace _ _).within.bind fun _ => ?_
      exact (Emits.of_modify _).bind fun _ => .of_pure _

variable [DiscreetAllocator Object σ]

theorem endsNothing_pushSlot (value : T) :
    (pushSlot value : Step Object (Pool T × σ) ResourceId).EndsNothing := by
  have announces : (announceGrowth : Step Object (Pool T × σ) Unit).EndsNothing :=
    .get_bind fun _ => (discreet_log rfl).endsNothing
  apply Emits.get_bind
  intro state
  dsimp only
  split
  · exact (discreet_refuseCapacity _ _).endsNothing
  · refine (GrowArray.discreet_reserve 1).endsNothing.within.bind fun _ => ?_
    refine (Emits.when announces _).bind fun _ => ?_
    exact (GrowArray.endsNothing_push _).within.bind fun _ => .of_pure _

theorem endsNothing_insert (value : T) :
    (insert value : Step Object (Pool T × σ) ResourceId).EndsNothing := by
  refine Emits.owned (.get_bind fun state => ?_) _
  dsimp only
  split
  · refine (discreet_reuseSlot _ value).endsNothing.bind fun id => ?_
    exact (Emits.of_modify _).bind fun _ => (discreet_log rfl).endsNothing.bind fun _ => .of_pure id
  · refine (endsNothing_pushSlot value).bind fun id => ?_
    exact (Emits.of_modify _).bind fun _ => (discreet_log rfl).endsNothing.bind fun _ => .of_pure id

/-- No call on a pool tears a pool down. -/
theorem Call.endsNothing (call : Call T α) :
    (call.operation : Step Object (Pool T × σ) α).EndsNothing := by
  cases call with
  | insert value => exact endsNothing_insert value
  | update id change => exact (discreet_update id change).endsNothing
  | remove? id => exact (discreet_remove? id).endsNothing
  | remove id => exact (discreet_remove id).endsNothing

/-- What a pool that is disposed of logs: a warning, if it is to give one, and that it was torn down. -/
def farewell (pool : Pool T) : List (Effect Object) :=
  (if 0 < pool.length && pool.config.warnOnLeak then
    [.logged (.poolLeaked pool.length pool.slots.length)] else []) ++
    [.logged (.poolDestroyed pool.slots.length)]

omit [DiscreetAllocator Object σ] in
theorem run_dispose_slots (pool : Pool T) (host : σ) :
    dispose.run (pool, host) =
      ⟨(GrowArray.dispose.run (pool.slots, host)).result,
        ({ pool with slots := (GrowArray.dispose.run (pool.slots, host)).state.1 },
          (GrowArray.dispose.run (pool.slots, host)).state.2),
        pool.farewell ++ (GrowArray.dispose.run (pool.slots, host)).effects⟩ := by
  rw [dispose, Step.run_bind_of_quiet (Step.run_get _), farewell]
  dsimp only
  cases 0 < pool.length && pool.config.warnOnLeak with
  | false =>
    rw [Step.when_false, Step.run_bind_of_quiet (Step.run_pure _ _),
      Step.run_bind_of_ok (Step.run_log _ _)]
    rfl
  | true =>
    rw [Step.when_true, Step.run_bind_of_ok (Step.run_log _ _), Step.run_bind_of_ok (Step.run_log _ _)]
    rfl

/-- The slot array goes back to the allocator, if the pool has one. -/
def giveBack (pool : Pool T) : Step Object σ Unit :=
  if pool.slots.capacity = 0 then pure () else Allocator.release (some pool.slots.address)

omit [DiscreetAllocator Object σ] in
/-- A pool that is disposed of gives its slots back; the answer and the allocator's state are those of the
release. -/
theorem run_dispose (pool : Pool T) (host : σ) :
    dispose.run (pool, host) = ⟨(pool.giveBack.run host).result,
      ({ pool with slots.length := 0 }, (pool.giveBack.run host).state),
      (dispose.run (pool, host)).effects⟩ := by
  rw [run_dispose_slots, GrowArray.dispose, Step.run_bind_of_ok GrowArray.run_clear,
    Step.run_bind_of_quiet (Step.run_get _), giveBack]
  dsimp only
  by_cases none : pool.slots.capacity = 0
  · rw [if_pos none, if_neg (by omega)]
    rfl
  · rw [if_neg none, if_pos ⟨slot_sized, Nat.pos_of_ne_zero none⟩]
    rfl

omit [DiscreetAllocator Object σ] in
/-- A pool that is destroyed is disposed of; if the slots were taken back the answer is how many values were
leaked. -/
theorem run_destroy (pool : Pool T) (host : σ) :
    destroy.run (pool, host) = ⟨(pool.giveBack.run host).result.map fun _ => pool.length,
      ({ pool with slots.length := 0 }, (pool.giveBack.run host).state),
      (dispose.run (pool, host)).effects⟩ := by
  have ran := run_dispose pool host
  rw [destroy, Step.run_bind_of_quiet (Step.run_get _)]
  dsimp only
  cases answered : (pool.giveBack.run host).result with
  | error fault =>
    rw [answered] at ran
    exact Step.run_bind_of_error ran _
  | ok done =>
    rw [answered] at ran
    refine (Step.run_bind_of_ok ran _).trans ?_
    rw [Step.run_pure, List.append_nil]
    rfl

omit [Allocator Object σ] [DiscreetAllocator Object σ] [Element Object T] in
theorem giveBack_heap (pool : Pool T) (heap : Heap Object) : (pool.giveBack.run heap).result = .ok () := by
  rw [giveBack]
  split <;> rfl

omit [Allocator Object σ] [DiscreetAllocator Object σ] [Element Object T] in
theorem giveBack_general {η : Type} [SystemHeap Object η] (pool : Pool T) (state : General η) :
    (pool.giveBack.run state).result = .ok () := by
  rw [giveBack]
  split <;> rfl

/-- To dispose of a pool tears down one pool, even if its slots are not taken back. -/
theorem teardowns_dispose (pool : Pool T) (host : σ) :
    teardowns (dispose.run (pool, host)).effects = 1 := by
  have once : teardowns (pool.farewell : List (Effect Object)) = 1 := by
    rw [farewell]
    split <;> rfl
  rw [run_dispose_slots, teardowns_append, once, GrowArray.endsNothing_dispose.teardowns]

end Pool
end Allotment
