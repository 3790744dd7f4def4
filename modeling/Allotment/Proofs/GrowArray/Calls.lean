import Allotment.Proofs.Allocator.Bounded
import Allotment.Proofs.GrowArray.Growth

namespace Allotment.GrowArray
open Allocator Custody
variable {Object σ T α : Type} [Element Object T]

section Storing
variable {memory : Memory Object}

theorem load_storeAll_of_outside [LawfulElement Object T] (values : List T) (memory : Memory Object)
    {address other : Nat}
    (outside : other < address ∨ address + values.length * Element.size T ≤ other) :
    (storeAll memory address values).load other = memory.load other := by
  induction values generalizing memory address with
  | nil => rfl
  | cons value rest ih =>
    rw [List.length_cons, Nat.succ_mul] at outside
    rw [storeAll, ih _ (by omega), Element.store]
    refine Memory.load_storeRange_of_outside _ ?_
    rw [LawfulElement.length_encode]
    omega

private theorem load_storeAll [LawfulElement Object T] (values : List T) (memory : Memory Object)
    (address : Nat) {index : Nat} (inside : index < values.length) :
    Element.load T (storeAll memory address values) (address + index * Element.size T) =
      values[index] := by
  induction values generalizing memory address index with
  | nil => cases inside
  | cons value rest ih =>
    cases index with
    | zero =>
      have first : (storeAll memory address (value :: rest)).loadRange address (Element.size T) =
          (Element.store memory address value).loadRange address (Element.size T) :=
        Memory.loadRange_congr fun other _ below =>
          load_storeAll_of_outside rest _ (.inl below)
      rw [Nat.zero_mul, Nat.add_zero, Element.load, first]
      exact Element.load_store memory address value
    | succ index =>
      have shifted : address + (index + 1) * Element.size T =
          address + Element.size T + index * Element.size T := by
        rw [Nat.succ_mul]
        omega
      rw [shifted]
      exact ih _ _ (Nat.lt_of_succ_lt_succ inside)

private theorem toList_storeAll [LawfulElement Object T] (array : GrowArray T) {values : List T}
    (length : values.length = array.length) (memory : Memory Object) :
    array.toList (storeAll memory array.address values) = values := by
  apply List.ext_getElem (by simp [length])
  intro index inside inside'
  rw [getElem_toList]
  exact load_storeAll values memory array.address inside'

end Storing

/-- What may be called on an array. What is put in the place of an element, or in which order the
elements are put, is up to the caller. -/
inductive Call (T : Type) : Type → Type where
  | push (value : T) : Call T Unit
  | pop : Call T (Option T)
  | get (index : Nat) : Call T (Option T)
  | replace (index : Nat) (value : T) : Call T (Option T)
  | rearrange (order : List T → List T) (permutes : ∀ list, (order list).Perm list) : Call T Unit
  | reserve (additional : Nat) : Call T Unit
  | clear : Call T Unit

section Runs
variable [Allocator Object σ]

/-- Puts the elements in another order, in their places. -/
def rearrange (order : List T → List T) : Step Object (GrowArray T × σ) Unit := do
  let (array, _) ← Step.get
  onAllocator (modifyMemory fun memory => storeAll memory array.address (order (array.toList memory)))

theorem reverse_eq_rearrange :
    (reverse : Step Object (GrowArray T × σ) Unit) = rearrange List.reverse := rfl

namespace Call

/-- The operation behind a call. -/
def operation : Call T α → Step Object (GrowArray T × σ) α
  | push value => GrowArray.push value
  | pop => GrowArray.pop
  | get index => do
    let (array, host) ← Step.get
    pure (array.get? (memory host) index)
  | replace index value => GrowArray.replace index value
  | rearrange order _ => GrowArray.rearrange order
  | reserve additional => GrowArray.reserve additional
  | clear => GrowArray.clear

/-- What a list makes of a call: the answer and the list after it. -/
def onList : Call T α → List T → α × List T
  | push value, list => ((), list ++ [value])
  | pop, list => (list.getLast?, list.dropLast)
  | get index, list => (list[index]?, list)
  | replace index value, list => (list[index]?, list.set index value)
  | rearrange order _, list => ((), order list)
  | reserve _, list => ((), list)
  | clear, _ => ((), [])

/-- How many elements more than there are a call asks for room for. -/
def asks : Call T α → Nat
  | push _ => 1
  | reserve additional => additional
  | _ => 0

end Call

section Runs
variable {array : GrowArray T} {host : σ}

theorem run_pop_of_empty (empty : array.length = 0) :
    pop.run (array, host) = ⟨.ok none, (array, host), []⟩ := by
  rw [pop, Step.run_bind_of_quiet (Step.run_get _)]
  dsimp only
  rw [empty]
  rfl

/-- The array without its last element. -/
def shortened (array : GrowArray T) : GrowArray T := { array with length := array.length - 1 }

private theorem toList_shortened (array : GrowArray T) (memory : Memory Object) :
    array.shortened.toList memory = (array.toList memory).dropLast := by
  apply List.ext_getElem (by simp [shortened])
  intro index inside _
  rw [List.getElem_dropLast, getElem_toList, getElem_toList]
  rfl

theorem run_pop_of_filled (filled : array.length ≠ 0) :
    pop.run (array, host) =
      ⟨.ok (array.toList (memory host)).getLast?, (array.shortened, host), []⟩ := by
  obtain ⟨last, length⟩ := Nat.exists_eq_succ_of_ne_zero filled
  have found : (array.toList (memory host)).getLast? =
      some (Element.load T (memory host) (array.addressOf last)) := by
    rw [List.getLast?_eq_getElem?, length_toList, length, Nat.succ_sub_one,
      ← get?_eq_getElem?, get?, if_pos (by omega)]
  rw [found, pop, Step.run_bind_of_quiet (Step.run_get _)]
  dsimp only
  rw [length]
  have same : array.shortened = { array with length := last } := by
    rw [shortened, length]
    rfl
  rw [same]
  rfl

theorem run_replace_of_outside {index : Nat} (outside : array.length ≤ index) (value : T) :
    (replace index value).run (array, host) = ⟨.ok none, (array, host), []⟩ := by
  have missing : array.get? (memory host) index = none := if_neg (Nat.not_lt.mpr outside)
  rw [replace, Step.run_bind_of_quiet (Step.run_get _)]
  dsimp only
  rw [missing]
  rfl

/-- The host once the elements were put in another order. -/
def rearranged (array : GrowArray T) (host : σ) (order : List T → List T) : σ :=
  withMemory host (storeAll (memory host) array.address (order (array.toList (memory host))))

theorem run_rearrange (order : List T → List T) :
    (rearrange order).run (array, host) = ⟨.ok (), (array, array.rearranged host order), []⟩ := rfl

omit [Allocator Object σ] in
theorem load_rearranged_of_outside [LawfulElement Object T] (fits : array.length ≤ array.capacity)
    {order : List T → List T} (permutes : ∀ list, (order list).Perm list) (memory : Memory Object)
    {other : Nat} (outside : array.capacity ≠ 0 → other < array.address ∨
      array.address + Element.size T * array.capacity ≤ other) :
    (storeAll memory array.address (order (array.toList memory))).load other = memory.load other := by
  have below := Nat.mul_le_mul_right (Element.size T) fits
  rw [Nat.mul_comm array.capacity] at below
  refine load_storeAll_of_outside _ memory ?_
  rw [(permutes _).length_eq, length_toList]
  by_cases none : array.capacity = 0
  · rw [none, Nat.mul_zero] at below
    omega
  · exact (outside none).imp_right fun behind => by omega

theorem run_clear :
    clear.run (array, host) = ⟨.ok (), ({ array with length := 0 }, host),
      ((array.toList (memory host)).flatMap Element.destructors).map Effect.destroyed⟩ := by
  rw [clear, Step.run_bind_of_quiet (Step.run_get _)]
  rfl

theorem run_push_of_refused {fault : Fault} {last : GrowArray T × σ} {done : List (Effect Object)}
    (full : array.length = array.capacity)
    (ran : (reserve 1).run (array, host) = ⟨.error fault, last, done⟩) (value : T) :
    (push value).run (array, host) =
      ⟨.error fault, last, done ++ (Element.destructors value).map Effect.destroyed⟩ := by
  refine Step.run_owning_of_error ?_
  rw [Step.run_bind_of_quiet (Step.run_get _)]
  dsimp only
  rw [full, beq_self_eq_true, Step.when_true]
  exact Step.run_bind_of_error ran _

theorem run_push_of_grown {larger : GrowArray T} {last : σ} {done : List (Effect Object)}
    (full : array.length = array.capacity)
    (ran : (reserve 1).run (array, host) = ⟨.ok (), (larger, last), done⟩) (value : T) :
    (push value).run (array, host) =
      ⟨.ok (), (larger.extended, larger.written last larger.length value), done⟩ := by
  refine Step.run_owning_of_ok ?_
  rw [Step.run_bind_of_quiet (Step.run_get _)]
  dsimp only
  rw [full, beq_self_eq_true, Step.when_true, Step.run_bind_of_ok ran]
  exact congrArg (Outcome.mk _ _) (List.append_nil done)

end Runs

/-- What an answered call leads to: the answer and the elements are those a list gives, the room is what
was asked for, and everyone else is spared. -/
structure Answered [Custody σ] (array : GrowArray T) (host : σ) (call : Call T α) (answer : α)
    (after : GrowArray T) (last : σ) : Prop where
  answer : answer = (call.onList (array.toList (memory host))).1
  owned : after.Owned last
  toList : after.toList (memory last) = (call.onList (array.toList (memory host))).2
  capacity : after.capacity = array.capacityFor call.asks
  spares : array.Spares host last
  fresh : ∀ address size, array.Foreign address → Holds host address size → after.Foreign address

namespace Owned
variable [Custody σ] {array : GrowArray T} {host : σ}

omit [Allocator Object σ] in
private theorem shorter (owned : array.Owned host) {length : Nat} (fewer : length ≤ array.length) :
    ({ array with length := length } : GrowArray T).Owned host :=
  ⟨owned.sound, Nat.le_trans fewer owned.fits, owned.bytes, owned.held⟩

theorem answered_still (owned : array.Owned host) {call : Call T α} {answer : α} {length : Nat}
    (same : answer = (call.onList (array.toList (memory host))).1) (fewer : length ≤ array.length)
    (toList : ({ array with length := length } : GrowArray T).toList (memory host) =
      (call.onList (array.toList (memory host))).2)
    (roomy : array.length + call.asks ≤ array.capacity) :
    Answered array host call answer { array with length := length } host :=
  ⟨same, owned.shorter fewer, toList, (if_pos roomy).symm, owned.refused_refl.spares,
    fun _ _ foreign _ => foreign⟩

variable [LawfulAllocator Object σ] [LawfulMemory Object σ] [LawfulElement Object T]

theorem rearranged (owned : array.Owned host) {order : List T → List T}
    (permutes : ∀ list, (order list).Perm list) :
    array.Owned (array.rearranged host order) ∧
      array.toList (memory (array.rearranged host order)) = order (array.toList (memory host)) ∧
      array.Spares host (array.rearranged host order) := by
  have length : (order (array.toList (memory host))).length = array.length :=
    (permutes _).length_eq.trans (length_toList _ _)
  have toList : array.toList (memory (array.rearranged host order)) =
      order (array.toList (memory host)) := by
    rw [GrowArray.rearranged, LawfulCustody.memory_withMemory]
    exact array.toList_storeAll length _
  by_cases none : array.capacity = 0
  · have empty : array.length = 0 := Nat.le_zero.mp (none ▸ owned.fits)
    have nothing : order (array.toList (memory host)) = [] :=
      List.eq_nil_of_length_eq_zero (length.trans empty)
    have same : array.rearranged host order = host := by
      rw [GrowArray.rearranged, nothing]
      exact LawfulMemory.withMemory_memory host
    rw [same] at toList ⊢
    exact ⟨owned, toList, owned.refused_refl.spares⟩
  · obtain ⟨kept, spares⟩ := owned.of_memory none fun other outside =>
      load_rearranged_of_outside owned.fits permutes (memory host) fun _ => outside
    exact ⟨kept, toList, spares⟩

/-- Whatever is called on an array that owns its block: it lacks the room that is asked for and stays as
it is, or the call is answered as a list answers it. -/
theorem called (owned : array.Owned host) (sized : Element.size T ≠ 0) (call : Call T α) :
    (∃ fault last done, call.operation.run (array, host) = ⟨.error fault, (array, last), done⟩ ∧
        array.capacity < array.length + call.asks ∧ Refused array host last) ∨
      ∃ answer after last done, call.operation.run (array, host) =
          ⟨.ok answer, (after, last), done⟩ ∧ Answered array host call answer after last := by
  have roomy : array.length + 0 ≤ array.capacity := owned.fits
  cases call with
  | push value =>
    rcases Nat.lt_or_eq_of_le owned.fits with room | full
    · obtain ⟨kept, toList, spares⟩ := owned.pushed room value
      exact .inr ⟨_, _, _, _, run_push_of_room room value, rfl, kept, toList, (if_pos room).symm,
        spares, fun _ _ foreign _ => foreign⟩
    · rcases owned.reserved sized 1 with
        ⟨fault, last, done, ran, lacks, refused, _⟩ |
        ⟨larger, last, done, ran, relocated, length, capacity, _⟩
      · exact .inl ⟨_, _, _, run_push_of_refused full ran value, lacks, refused⟩
      · have enough := (array.capacity_le_capacityFor 1).2
        have room : larger.length < larger.capacity := by omega
        obtain ⟨kept, toList, spares⟩ := relocated.kept.owned.pushed room value
        refine .inr ⟨_, _, _, _, run_push_of_grown full ran value, rfl, kept, ?_, capacity,
          relocated.spares_trans spares, relocated.fresh⟩
        rw [toList, relocated.kept.toList]
        rfl
  | pop =>
    right
    by_cases empty : array.length = 0
    · have none : array.toList (memory host) = [] :=
        List.eq_nil_of_length_eq_zero ((length_toList _ _).trans empty)
      refine ⟨_, _, _, _, run_pop_of_empty empty, owned.answered_still ?_ (Nat.le_refl _) ?_ roomy⟩
      · rw [none]
        rfl
      · rw [none]
        rfl
    · refine ⟨_, _, _, _, run_pop_of_filled empty,
        owned.answered_still rfl (Nat.sub_le _ 1) ?_ roomy⟩
      exact array.toList_shortened (memory host)
  | get index =>
    exact .inr ⟨_, _, _, _, rfl, owned.answered_still (array.get?_eq_getElem? _ _) (Nat.le_refl _) rfl
      roomy⟩
  | replace index value =>
    right
    by_cases inside : index < array.length
    · obtain ⟨kept, spares⟩ := owned.written (Nat.lt_of_lt_of_le inside owned.fits) value
      exact ⟨_, _, _, _, run_replace inside value, array.get?_eq_getElem? _ _, kept,
        array.toList_written host index value, (if_pos roomy).symm, spares, fun _ _ foreign _ => foreign⟩
    · have behind := Nat.le_of_not_lt inside
      refine ⟨_, _, _, _, run_replace_of_outside behind value,
        owned.answered_still ?_ (Nat.le_refl _) ?_ roomy⟩
      · exact (List.getElem?_eq_none (by rwa [length_toList])).symm
      · exact (List.set_eq_of_length_le (by rwa [length_toList])).symm
  | rearrange order permutes =>
    obtain ⟨kept, toList, spares⟩ := owned.rearranged permutes
    exact .inr ⟨_, _, _, _, run_rearrange order, rfl, kept, toList, (if_pos roomy).symm, spares,
      fun _ _ foreign _ => foreign⟩
  | reserve additional =>
    rcases owned.reserved sized additional with
      ⟨fault, last, done, ran, full, refused, _⟩ |
      ⟨larger, last, done, ran, relocated, _, capacity, _⟩
    · exact .inl ⟨fault, last, done, ran, full, refused⟩
    · exact .inr ⟨_, _, _, _, ran, rfl, relocated.kept.owned, relocated.kept.toList, capacity,
        relocated.spares, relocated.fresh⟩
  | clear =>
    exact .inr ⟨_, _, _, _, run_clear, owned.answered_still rfl (Nat.zero_le _) rfl roomy⟩

end Owned
end Runs
end Allotment.GrowArray
