import Allotment.Proofs.GrowArray.Unsized
import Allotment.Proofs.SharedStack.Turn

namespace Allotment.GrowArray
open Allocator Custody
variable {Object T α : Type} [Element Object T] {array larger after : GrowArray T}
  {stack last : Stack Object}

/-- Where the block of the array starts, if it has one. Values that take no cells need none. -/
def own (array : GrowArray T) : List Nat :=
  if Element.size T ≠ 0 ∧ array.capacity ≠ 0 then [array.address] else []

theorem own_of_sized (sized : Element.size T ≠ 0) (roomy : array.capacity ≠ 0) :
    array.own = [array.address] := if_pos ⟨sized, roomy⟩

theorem own_of_unsized (unsized : Element.size T = 0) : array.own = [] :=
  if_neg fun (both : _ ∧ _) => absurd unsized both.1

theorem own_of_none (none : array.capacity = 0) : array.own = [] :=
  if_neg fun (both : _ ∧ _) => absurd none both.2

theorem own_empty : (GrowArray.empty T).own = [] := by
  by_cases unsized : Element.size T = 0
  · exact own_of_unsized unsized
  · exact own_of_none (if_neg unsized)

theorem own_moved (sized : Element.size T ≠ 0) {place newCapacity : Nat}
    (more : array.capacity < newCapacity) : (array.moved place newCapacity).own = [place] :=
  own_of_sized sized (show newCapacity ≠ 0 by omega)

theorem mem_own_iff {address : Nat} :
    address ∈ array.own ↔ Element.size T ≠ 0 ∧ array.capacity ≠ 0 ∧ address = array.address := by
  rw [own]
  split
  · next both => simp [both]
  · next neither =>
    simp only [List.not_mem_nil, false_iff]
    exact fun ⟨sized, roomy, _⟩ => neither ⟨sized, roomy⟩

/-- The array is in order on the stack: it owns its block, if it has one, and the stack is aligned
strictly enough for it. -/
structure Housed (array : GrowArray T) (stack : Stack Object) : Prop where
  fits : array.length ≤ array.capacity
  sized : Element.size T ≠ 0 → array.Owned stack ∧
    (array.capacity ≠ 0 → Element.alignment T ≤ stack.align)
  unsized : Element.size T = 0 → array.capacity = wordMax

theorem Housed.of_owned (sized : Element.size T ≠ 0) (owned : array.Owned stack)
    (aligned : array.capacity ≠ 0 → Element.alignment T ≤ stack.align) : array.Housed stack :=
  ⟨owned.fits, fun _ => ⟨owned, aligned⟩, fun unsized => (sized unsized).elim⟩

theorem Housed.of_unsized (unsized : Element.size T = 0) (capacity : array.capacity = wordMax)
    (inside : array.length ≤ wordMax) : array.Housed stack :=
  ⟨capacity ▸ inside, fun sized => (sized unsized).elim, fun _ => capacity⟩

theorem Housed.empty (sound : Sound stack) : (GrowArray.empty T).Housed stack := by
  by_cases unsized : Element.size T = 0
  · exact .of_unsized unsized (if_pos unsized) (Nat.zero_le _)
  · exact .of_owned unsized (.empty unsized sound) fun roomy => absurd (if_neg unsized) roomy

theorem Owned.live (owned : array.Owned stack) {address : Nat} (mine : address ∈ array.own) :
    stack.Live address := by
  obtain ⟨_, roomy, rfl⟩ := mem_own_iff.mp mine
  exact Stack.live_of_holds (owned.held roomy)

theorem Housed.live (housed : array.Housed stack) {address : Nat} (mine : address ∈ array.own) :
    stack.Live address :=
  (housed.sized (mem_own_iff.mp mine).1).1.live mine

theorem Housed.spared [LawfulElement Object T] (housed : array.Housed stack) {others others' : List Nat}
    (turn : Stack.Turn others others' stack last)
    (foreign : ∀ address ∈ array.own, address ∉ others) :
    array.Housed last ∧ array.toList last.memory = array.toList stack.memory := by
  by_cases unsized : Element.size T = 0
  · have capacity := housed.unsized unsized
    refine ⟨.of_unsized unsized capacity (capacity ▸ housed.fits), list_eq_of_unsized unsized ?_⟩
    rw [length_toList, length_toList]
  · obtain ⟨owned, aligned⟩ := housed.sized unsized
    have kept := owned.preserved_of_keeps turn.sound fun roomy => turn.kept _ _
      (foreign _ (mem_own_iff.mpr ⟨unsized, roomy, rfl⟩)) (owned.held roomy)
    refine ⟨.of_owned unsized kept.owned fun roomy => ?_, kept.toList⟩
    rw [turn.align]
    exact aligned roomy

/-- The array has the same block, and no cell outside it was changed. -/
structure Filled (array : GrowArray T) (stack : Stack Object) (after : GrowArray T)
    (last : Stack Object) : Prop where
  address : after.address = array.address
  capacity : after.capacity = array.capacity
  memory : ∃ memory', last = { stack with memory := memory' } ∧ ∀ other,
    (array.capacity ≠ 0 → other < array.address ∨
      array.address + Element.size T * array.capacity ≤ other) →
    memory'.load other = stack.memory.load other

namespace Owned
variable (owned : array.Owned stack) (sized : Element.size T ≠ 0)
include owned sized

private theorem turn_of_filled (filled : Filled array stack after last) :
    Stack.Turn array.own after.own stack last := by
  obtain ⟨address, capacity, memory', rfl, outside⟩ := filled
  have same : after.own = array.own := by rw [own, own, address, capacity]
  obtain ⟨blocks, valid⟩ := owned.sound
  rw [same]
  refine valid.turn_of_memory (fun _ mine => owned.live mine) fun other uncovered =>
    outside other fun roomy => ?_
  obtain ⟨block, live, start, fits⟩ := valid.holds_iff.mp (owned.held roomy)
  have missed := uncovered block live (mem_own_iff.mpr ⟨sized, roomy, start⟩)
  by_cases low : other < array.address
  · exact .inl low
  · right
    apply Nat.le_of_not_lt
    intro high
    exact missed ⟨by omega, by omega⟩

/-- A request for another block is a call at the array's own block, or at none. -/
private theorem turn_of_resize {blocks : List Extent} (valid : Stack.Session.Valid ⟨stack, blocks⟩)
    {newSize oldSize : Nat} {result : Except Fault (Option Nat)} {done : List (Effect Object)}
    (ran : (resize array.block? newSize oldSize).run stack = ⟨result, last, done⟩) :
    Stack.Turn array.own
      ((Stack.Call.resize array.block? newSize oldSize : Stack.Call Object).starts result array.own)
      stack last := by
  have turn := valid.turn_of_call (fun _ mine => owned.live mine)
    (.resize array.block? newSize oldSize) (fun bulk => bulk.elim) ?_ fun _ target => target.elim
  · have ran' : (Stack.Call.resize array.block? newSize oldSize).operation.run stack =
      ⟨result, last, done⟩ := ran
    rwa [Stack.Session.answer, Stack.Session.perform, ran'] at turn
  · intro address _ addressed
    rw [block?] at addressed
    split at addressed
    · next roomy => exact mem_own_iff.mpr ⟨sized, Nat.ne_of_gt roomy, addressed.symm⟩
    · exact addressed.elim

/-- A larger block is a new one, or the array's own where it was. -/
private theorem turn_of_granted {newCapacity place : Nat} {done : List (Effect Object)}
    (more : array.capacity < newCapacity)
    (ran : (resize array.block? (Element.size T * newCapacity) (Element.size T * array.capacity)).run
      stack = ⟨.ok (some place), last, done⟩) : Stack.Turn array.own [place] stack last := by
  obtain ⟨blocks, valid⟩ := owned.sound
  have turn := owned.turn_of_resize sized valid ran
  by_cases none : array.capacity = 0
  · rw [block?_of_none none, own_of_none none] at turn
    rwa [own_of_none none]
  · rw [block?_of_some none] at turn ran
    have asked : Element.size T * newCapacity ≠ 0 := Nat.mul_ne_zero sized (by omega)
    have answered : Stack.Session.answer ⟨stack, blocks⟩ (.resize (some array.address)
        (Element.size T * newCapacity) (Element.size T * array.capacity)) = .ok (some place) :=
      congrArg Outcome.result ran
    -- A stack resizes in place.
    have same := valid.answer_resize asked answered
    cases same
    rw [own_of_sized sized none] at turn ⊢
    exact turn

/-- To ask for another block is a turn of the array, and a stack that is not aligned strictly enough
grants none. -/
private theorem turn_of_asked (asked : Asked array stack larger last) :
    Stack.Turn array.own larger.own stack last ∧
      (larger.capacity ≠ 0 → array.capacity ≠ 0 ∨ Element.alignment T ≤ stack.align) := by
  have still : Stack.Turn array.own array.own stack stack := .refl owned.sound fun _ => owned.live
  cases asked with
  | nothing => exact ⟨still, .inl⟩
  | @refused newCapacity fault last done ran =>
    refine ⟨?_, .inl⟩
    rcases owned.run_enlarge newCapacity with ⟨fault', rejected⟩ | ⟨_, _, resized⟩
    · rw [rejected] at ran
      cases ran
      exact still
    · obtain ⟨blocks, valid⟩ := owned.sound
      have turn := owned.turn_of_resize sized valid (resized.symm.trans ran)
      rwa [Stack.Call.starts_of_error] at turn
  | @granted newCapacity place last done more ran =>
    rcases owned.run_enlarge newCapacity with ⟨fault, rejected⟩ | ⟨aligned, _, resized⟩
    · cases rejected.symm.trans ran
    · rw [own_moved sized more]
      exact ⟨owned.turn_of_granted sized more (resized.symm.trans ran), fun _ => .inr aligned⟩

end Owned

namespace Filled

theorem still (address : after.address = array.address) (capacity : after.capacity = array.capacity) :
    Filled array stack after stack :=
  ⟨address, capacity, stack.memory, rfl, fun _ _ => rfl⟩

variable [LawfulElement Object T]

theorem written {index : Nat} (inside : index < array.capacity) (value : T)
    (address : after.address = array.address) (capacity : after.capacity = array.capacity) :
    Filled array stack after (array.written stack index value) :=
  ⟨address, capacity, _, rfl, fun _ outside =>
    load_store_of_outside inside value (outside (by omega))⟩

theorem rearranged (fits : array.length ≤ array.capacity) {order : List T → List T}
    (permutes : ∀ list, (order list).Perm list) :
    Filled array stack array (array.rearranged stack order) :=
  ⟨rfl, rfl, _, rfl, fun _ outside => load_rearranged_of_outside fits permutes _ outside⟩

end Filled

/-- What a call on an array does to the stack: it asks for a block, if at all, and then writes to the
block the array has. -/
inductive Contact (array : GrowArray T) (stack : Stack Object) (after : GrowArray T)
    (last : Stack Object) : Prop where
  | made {larger : GrowArray T} {middle : Stack Object} (asked : Asked array stack larger middle)
      (owned : larger.Owned middle) (filled : Filled larger middle after last) :
      Contact array stack after last

private theorem state_dispose (array : GrowArray T) (stack : Stack Object) :
    (dispose.run (array, stack)).state.2 =
      match array.own with
      | [] => stack
      | address :: _ => ((Allocator.release (some address)).run stack).state := by
  rw [dispose, Step.run_bind_of_ok run_clear, Step.run_bind_of_quiet (Step.run_get _)]
  dsimp only
  rw [own]
  by_cases both : Element.size T ≠ 0 ∧ array.capacity ≠ 0
  · rw [if_pos both, if_pos ⟨both.1, Nat.pos_of_ne_zero both.2⟩]
    rfl
  · rw [if_neg both, if_neg fun other => both ⟨other.1, Nat.ne_of_gt other.2⟩]
    rfl

section Calls
variable [LawfulElement Object T]

theorem Owned.contact (owned : array.Owned stack) (sized : Element.size T ≠ 0) (call : Call T α) :
    Contact array stack (call.operation.run (array, stack)).state.1
      (call.operation.run (array, stack)).state.2 := by
  have still : Contact array stack array stack := .made .nothing owned (.still rfl rfl)
  cases call with
  | push value =>
    change Contact array stack ((push value).run (array, stack)).state.1
      ((push value).run (array, stack)).state.2
    rcases Nat.lt_or_eq_of_le owned.fits with room | full
    · rw [run_push_of_room room]
      exact .made .nothing owned (.written room value rfl rfl)
    · rcases owned.reserved sized 1 with ⟨fault, last, done, ran, _, refused, asked⟩ |
        ⟨larger, last, done, ran, relocated, length, capacity, asked⟩
      · rw [run_push_of_refused full ran]
        exact .made asked (owned.preserved_of_refused refused).owned (.still rfl rfl)
      · have enough := (array.capacity_le_capacityFor 1).2
        have room : larger.length < larger.capacity := by omega
        rw [run_push_of_grown full ran]
        exact .made asked relocated.kept.owned (.written room value rfl rfl)
  | pop =>
    change Contact array stack (pop.run (array, stack)).state.1 (pop.run (array, stack)).state.2
    by_cases empty : array.length = 0
    · rw [run_pop_of_empty empty]
      exact still
    · rw [run_pop_of_filled empty]
      exact .made .nothing owned (.still rfl rfl)
  | get index => exact still
  | replace index value =>
    change Contact array stack ((replace index value).run (array, stack)).state.1
      ((replace index value).run (array, stack)).state.2
    by_cases inside : index < array.length
    · rw [run_replace inside]
      exact .made .nothing owned (.written (Nat.lt_of_lt_of_le inside owned.fits) value rfl rfl)
    · rw [run_replace_of_outside (Nat.le_of_not_lt inside)]
      exact still
  | rearrange order permutes => exact .made .nothing owned (.rearranged owned.fits permutes)
  | reserve additional =>
    change Contact array stack ((reserve additional).run (array, stack)).state.1
      ((reserve additional).run (array, stack)).state.2
    rcases owned.reserved sized additional with ⟨fault, last, done, ran, _, refused, asked⟩ |
      ⟨larger, last, done, ran, relocated, _, _, asked⟩
    · rw [ran]
      exact .made asked (owned.preserved_of_refused refused).owned (.still rfl rfl)
    · rw [ran]
      exact .made asked relocated.kept.owned (.still rfl rfl)
  | clear => exact .made .nothing owned (.still rfl rfl)

/-- Whatever is called on an array in order is a turn of the array, which is in order afterwards. -/
theorem Housed.turn (housed : array.Housed stack) (sound : Sound stack) (call : Call T α) :
    (call.operation.run (array, stack)).state.1.Housed (call.operation.run (array, stack)).state.2 ∧
      Stack.Turn array.own (call.operation.run (array, stack)).state.1.own stack
        (call.operation.run (array, stack)).state.2 := by
  by_cases unsized : Element.size T = 0
  · have capacity := housed.unsized unsized
    have inside : array.length ≤ wordMax := capacity ▸ housed.fits
    have none : ∀ other : GrowArray T, other.own = [] := fun _ => own_of_unsized unsized
    have live : ∀ address ∈ ([] : List Nat), stack.Live address := nofun
    rw [none, none]
    rcases called_of_unsized stack unsized capacity inside call with
      ⟨fault, done, ran, _⟩ | ⟨answer, after, last, done, ran, answered, unasked, _⟩
    · rw [ran]
      exact ⟨housed, .refl sound live⟩
    · rw [ran]
      refine ⟨.of_unsized unsized (answered.capacity.trans capacity) answered.inside, ?_⟩
      cases unasked with
      | same => exact .refl sound live
      | rewritten loads =>
        obtain ⟨blocks, valid⟩ := sound
        exact valid.turn_of_memory live fun address _ => loads address
  · obtain ⟨owned, aligned⟩ := housed.sized unsized
    obtain @⟨larger, middle, asked, kept, filled⟩ := owned.contact unsized call
    obtain ⟨turn, strict⟩ := owned.turn_of_asked unsized asked
    have all := turn.trans (kept.turn_of_filled unsized filled)
    refine ⟨.of_owned unsized ?_ fun roomy => ?_, all⟩
    · rcases owned.called unsized call with
        ⟨fault, last, done, ran, _, refused⟩ | ⟨answer, after, last, done, ran, answered⟩
      · rw [ran]
        exact (owned.preserved_of_refused refused).owned
      · rw [ran]
        exact answered.owned
    · rw [all.align]
      exact (strict (filled.capacity ▸ roomy)).elim aligned id

/-- A call on an array in order is answered as a list answers it, or it asks for more room than there
is and leaves the array as it is. The array keeps its room if that suffices. -/
theorem Housed.called (housed : array.Housed stack) (call : Call T α) :
    (∃ fault last done, call.operation.run (array, stack) = ⟨.error fault, (array, last), done⟩ ∧
        array.capacity < array.length + call.asks) ∨
      ∃ answer after last done, call.operation.run (array, stack) = ⟨.ok answer, (after, last), done⟩ ∧
        (answer, after.toList last.memory) = call.onList (array.toList stack.memory) ∧
        (array.length + call.asks ≤ array.capacity → after.capacity = array.capacity) := by
  by_cases unsized : Element.size T = 0
  · have capacity := housed.unsized unsized
    have limit : wordMax < wordLimit := by decide
    rcases called_of_unsized stack unsized capacity (capacity ▸ housed.fits) call with
      ⟨fault, done, ran, large⟩ | ⟨answer, after, last, done, ran, answered, _, _⟩
    · exact .inl ⟨fault, stack, done, ran, by omega⟩
    · have toList : after.toList last.memory = (call.onList (array.toList stack.memory)).2 :=
        list_eq_of_unsized unsized (by rw [length_toList]; exact answered.length)
      exact .inr ⟨answer, after, last, done, ran, Prod.ext answered.answer toList,
        fun _ => answered.capacity⟩
  · rcases (housed.sized unsized).1.called unsized call with
      ⟨fault, last, done, ran, full, _⟩ | ⟨answer, after, last, done, ran, answered⟩
    · exact .inl ⟨fault, last, done, ran, full⟩
    · exact .inr ⟨answer, after, last, done, ran, Prod.ext answered.answer answered.toList,
        fun roomy => answered.capacity.trans (if_pos roomy)⟩

theorem reserve_new (sound : Sound stack) (capacity : Nat) :
    (∃ fault last done, (reserve capacity).run (.empty T, stack) =
        ⟨.error fault, (.empty T, last), done⟩ ∧ Stack.Turn [] [] stack last) ∨
      ∃ array last done, (reserve capacity).run (.empty T, stack) = ⟨.ok (), (array, last), done⟩ ∧
        array.Housed last ∧ array.toList last.memory = [] ∧ Stack.Turn [] array.own stack last := by
  have housed : (GrowArray.empty T).Housed stack := .empty sound
  have turn := housed.turn sound (.reserve capacity : Call T Unit)
  rw [own_empty] at turn
  rcases housed.called (.reserve capacity) with
    ⟨fault, last, done, ran, _⟩ | ⟨answer, array, last, done, ran, answered, _⟩
  · rw [ran, own_empty] at turn
    exact .inl ⟨fault, last, done, ran, turn.2⟩
  · rw [ran] at turn
    exact .inr ⟨array, last, done, ran, turn.1, congrArg Prod.snd answered, turn.2⟩

end Calls

/-- The fault of an array that has to grow while its block is not on top. -/
def growthFault (array : GrowArray T) (additional : Nat) : Fault :=
  if wordLimit ≤ array.length + additional then .refused (.sizeOverflow "AllocVec::try_reserve")
  else match arraySize? (Element.size T) (array.grownCapacity additional) with
    | none => .refused (.sizeOverflow "realloc_array")
    | some newSize => .aborted (.violation Stack.component (StackMisuse.growBelowTop array.address
        (Element.size T * array.capacity) newSize).details)

/-- An array whose block is not on top gets no larger one, and nothing changes. -/
theorem Housed.run_reserve_below (housed : array.Housed stack) {address : Nat}
    (mine : address ∈ array.own) (below : address ≠ stack.top) {additional : Nat}
    (more : array.capacity < array.length + additional) :
    ∃ done, (reserve additional).run (array, stack) =
      ⟨.error (array.growthFault additional), (array, stack), done⟩ := by
  obtain ⟨sized, roomy, rfl⟩ := mem_own_iff.mp mine
  obtain ⟨owned, aligned⟩ := housed.sized sized
  have strict : Element.alignment T ≤ alignment stack := aligned roomy
  by_cases large : wordLimit ≤ array.length + additional
  · rw [growthFault, if_pos large]
    exact ⟨_, run_reserve_of_overflow large⟩
  · have grows := lt_grownCapacity more
    rw [growthFault, if_neg large, run_reserve_of_full (Nat.lt_of_not_le large) more]
    cases bytes : arraySize? (Element.size T) (array.grownCapacity additional) with
    | none =>
      have ran := run_resizeArray_of_overflow array.block? array.capacity strict bytes
      exact ⟨_, run_growTo_of_error sized grows ran⟩
    | some newSize =>
      obtain ⟨rfl, _⟩ := Word.checkedMul?_eq_some_iff.mp bytes
      have larger : Element.size T * array.capacity <
          Element.size T * array.grownCapacity additional :=
        Nat.mul_lt_mul_of_pos_left grows (Nat.pos_of_ne_zero sized)
      have ran := run_resizeArray_of_size array.block? array.capacity strict bytes
      have present := block?_of_some roomy
      obtain ⟨blocks, valid⟩ := owned.sound
      have misuse := valid.resizeMisuse?_of_below (owned.live mine) below larger
      rw [owned.bytes, Option.getD_some, present] at ran
      have refused := ran.trans (Stack.run_resize_of_misuse (by omega) misuse)
      rw [← present] at refused
      exact ⟨_, run_growTo_of_error sized grows refused⟩

/-- A call that needs more room than there is while the array's block is not on top faults, and nothing
changes. -/
theorem Housed.run_below (housed : array.Housed stack) {address : Nat} (mine : address ∈ array.own)
    (below : address ≠ stack.top) (call : Call T α)
    (more : array.capacity < array.length + call.asks) :
    ∃ done, call.operation.run (array, stack) =
      ⟨.error (array.growthFault call.asks), (array, stack), done⟩ := by
  have fits := housed.fits
  cases call with
  | push value =>
    obtain ⟨_, refused⟩ := housed.run_reserve_below mine below more
    simp only [Call.asks] at more
    exact ⟨_, run_push_of_refused (by omega) refused value⟩
  | reserve additional => exact housed.run_reserve_below mine below more
  | _ =>
    simp only [Call.asks] at more
    omega

/-- To dispose of an array without a block, or with its block on top, is a turn of the array, which owns
nothing afterwards. -/
theorem Housed.turn_of_dispose (housed : array.Housed stack) (sound : Sound stack)
    (top : ∀ address ∈ array.own, stack.top = address) :
    Stack.Turn array.own [] stack (dispose.run (array, stack)).state.2 := by
  rw [state_dispose]
  cases starts : array.own with
  | nil => exact .refl sound nofun
  | cons address rest =>
    have mine : address ∈ array.own := starts ▸ List.mem_cons_self ..
    obtain ⟨sized, roomy, _⟩ := mem_own_iff.mp mine
    have single : rest = [] := by
      rw [own_of_sized sized roomy] at starts
      exact (List.cons.inj starts).2.symm
    obtain ⟨blocks, valid⟩ := sound
    rw [single]
    exact valid.turn_of_release (housed.live mine) (top address mine)

end Allotment.GrowArray
