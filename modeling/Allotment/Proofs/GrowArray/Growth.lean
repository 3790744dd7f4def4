import Allotment.Proofs.GrowArray.Contents

namespace Allotment

namespace Allocator
open Custody
variable {Object σ T : Type} [Allocator Object σ] [Element Object T]

section Resizing
variable {host : σ} {newCount : Nat} (block : Option Nat) (oldCount : Nat)

theorem run_checkAlignment_of_strict (strict : alignment host < Element.alignment T) :
    (checkAlignment T).run host = ⟨.error (.refused
      (.invalidAlignment (Element.alignment T) (alignment host))), host, []⟩ := by
  rw [checkAlignment, Step.run_bind_of_quiet (Step.run_get host), if_pos strict]
  rfl

theorem run_resizeArray_of_strict (strict : alignment host < Element.alignment T) (newCount : Nat) :
    (resizeArray T block oldCount newCount).run host = ⟨.error (.refused
      (.invalidAlignment (Element.alignment T) (alignment host))), host, []⟩ :=
  Step.run_bind_of_error (run_checkAlignment_of_strict strict) _

theorem run_checkAlignment (aligned : Element.alignment T ≤ alignment host) :
    (checkAlignment T).run host = ⟨.ok (), host, []⟩ := by
  rw [checkAlignment, Step.run_bind_of_quiet (Step.run_get host), if_neg (Nat.not_lt.mpr aligned)]
  rfl

/-- The alignment is checked first, then the byte size. Only then is the allocator asked. -/
theorem run_sized {α : Type} (T : Type) [Element Object T] (count : Nat) (operation : String)
    (ask : Nat → Step Object σ α) (host : σ) :
    (checkAlignment T >>= fun _ => arrayBytes T count operation >>= ask).run host =
      if alignment host < Element.alignment T then
        ⟨.error (.refused (.invalidAlignment (Element.alignment T) (alignment host))), host, []⟩
      else if wordLimit ≤ Element.size T * count then
        ⟨.error (.refused (.sizeOverflow operation)), host, []⟩
      else (ask (Element.size T * count)).run host := by
  split
  · next strict => exact Step.run_bind_of_error (run_checkAlignment_of_strict strict) _
  · next aligned =>
    rw [Step.run_bind_of_quiet (run_checkAlignment (Nat.le_of_not_lt aligned)), arrayBytes]
    rcases Nat.lt_or_ge (Element.size T * count) wordLimit with fits | large
    · have bytes : arraySize? (Element.size T) count = some (Element.size T * count) := if_pos fits
      rw [bytes, if_neg (Nat.not_le.mpr fits)]
      exact Step.run_bind_of_quiet (Step.run_pure _ host) _
    · have bytes : arraySize? (Element.size T) count = none := if_neg (Nat.not_lt.mpr large)
      rw [bytes, if_pos large]
      rfl

theorem run_resizeArray_of_overflow (aligned : Element.alignment T ≤ alignment host)
    (overflow : arraySize? (Element.size T) newCount = none) :
    (resizeArray T block oldCount newCount).run host =
      ⟨.error (.refused (.sizeOverflow "realloc_array")), host, []⟩ := by
  rw [resizeArray, Step.run_bind_of_quiet (run_checkAlignment aligned), arrayBytes, overflow]
  rfl

theorem run_resizeArray_of_size (aligned : Element.alignment T ≤ alignment host) {newSize : Nat}
    (bytes : arraySize? (Element.size T) newCount = some newSize) :
    (resizeArray T block oldCount newCount).run host =
      (resize block newSize ((arraySize? (Element.size T) oldCount).getD wordMax)).run host := by
  rw [resizeArray, Step.run_bind_of_quiet (run_checkAlignment aligned), arrayBytes, bytes]
  exact Step.run_bind_of_quiet (Step.run_pure newSize host) _

/-- Before the allocator is asked for another size, the alignment and the byte size are checked. -/
private theorem run_resizeArray (newCount : Nat) (host : σ) :
    (∃ fault, (resizeArray T block oldCount newCount).run host = ⟨.error fault, host, []⟩) ∨
      ∃ newSize, Element.alignment T ≤ alignment host ∧
        arraySize? (Element.size T) newCount = some newSize ∧
        (resizeArray T block oldCount newCount).run host =
          (resize block newSize ((arraySize? (Element.size T) oldCount).getD wordMax)).run host := by
  rcases Nat.lt_or_ge (alignment host) (Element.alignment T) with strict | aligned
  · exact .inl ⟨_, run_resizeArray_of_strict block oldCount strict newCount⟩
  · cases bytes : arraySize? (Element.size T) newCount with
    | none => exact .inl ⟨_, run_resizeArray_of_overflow block oldCount aligned bytes⟩
    | some newSize =>
      exact .inr ⟨newSize, aligned, rfl, run_resizeArray_of_size block oldCount aligned bytes⟩

end Resizing
end Allocator

namespace GrowArray
open Allocator Custody
variable {Object σ T : Type} [Element Object T] [Allocator Object σ]
  {array : GrowArray T} {host : σ}

/-- The block of an array that has one. -/
def block? (array : GrowArray T) : Option Nat :=
  if array.capacity > 0 then some array.address else none

omit [Element Object T] [Allocator Object σ] in
theorem block?_of_none (none : array.capacity = 0) : array.block? = .none := if_neg (by omega)

omit [Element Object T] [Allocator Object σ] in
theorem block?_of_some (some : array.capacity ≠ 0) : array.block? = .some array.address :=
  if_pos (Nat.pos_of_ne_zero some)

/-- What the array asks its allocator for when it grows. -/
def enlarge (array : GrowArray T) (newCapacity : Nat) : Step Object σ (Option Nat) :=
  resizeArray T array.block? array.capacity newCapacity

/-- The array in another block. -/
def moved (array : GrowArray T) (place newCapacity : Nat) : GrowArray T :=
  { array with address := place, capacity := newCapacity }

theorem run_asked {newCapacity : Nat} {result : Except Fault (Option Nat)} {last : σ}
    {done : List (Effect Object)}
    (ran : (array.enlarge newCapacity).run host = ⟨result, last, done⟩) :
    (onAllocator (resizeArray T array.block? array.capacity newCapacity)).run (array, host) =
      ⟨result, (array, last), done⟩ := by
  rw [onAllocator, Step.onSecond, Step.run_within]
  change ((array.enlarge newCapacity).run host).mapState _ = _
  rw [ran]
  rfl

theorem run_growTo_of_error {newCapacity : Nat} {last : σ} {fault : Fault}
    {done : List (Effect Object)} (sized : Element.size T ≠ 0) (more : array.capacity < newCapacity)
    (ran : (array.enlarge newCapacity).run host = ⟨.error fault, last, done⟩) :
    (growTo newCapacity).run (array, host) = ⟨.error fault, (array, last), done⟩ := by
  have holds : (Element.size T != 0 && array.capacity < newCapacity) = true := by simp [sized, more]
  rw [growTo, Step.run_bind_of_quiet (Step.run_get _)]
  dsimp only
  rw [holds, Step.run_bind_of_quiet (Step.run_assert_true _ _)]
  exact Step.run_bind_of_error (run_asked ran) _

theorem run_growTo_of_ok {newCapacity place : Nat} {last : σ} {done : List (Effect Object)}
    (sized : Element.size T ≠ 0) (more : array.capacity < newCapacity)
    (ran : (array.enlarge newCapacity).run host = ⟨.ok (some place), last, done⟩) :
    (growTo newCapacity).run (array, host) =
      ⟨.ok (), (array.moved place newCapacity, last),
        done ++ [.logged (.vectorGrown array.capacity newCapacity)]⟩ := by
  have holds : (Element.size T != 0 && array.capacity < newCapacity) = true := by simp [sized, more]
  rw [growTo, Step.run_bind_of_quiet (Step.run_get _)]
  dsimp only
  rw [holds, Step.run_bind_of_quiet (Step.run_assert_true _ _)]
  exact Step.run_bind_of_ok (run_asked ran) _

/-- Where an array finds no other block everyone keeps theirs, the array as well. -/
structure Refused [Custody σ] (array : GrowArray T) (host last : σ) : Prop where
  spares : array.Spares host last
  keeps : array.capacity ≠ 0 → Keeps host last array.address (Element.size T * array.capacity)

/-- The elements are in a block that is no one else's, and no one else's block was touched. -/
structure Relocated [Custody σ] (array : GrowArray T) (host : σ) (larger : GrowArray T) (last : σ) :
    Prop where
  kept : Preserved (array, host) (larger, last)
  spares : array.Spares host last
  fresh : ∀ address size, array.Foreign address → Holds host address size → larger.Foreign address

theorem Relocated.spares_trans [Custody σ] {larger : GrowArray T} {last final : σ}
    (relocated : Relocated array host larger last) (spares : larger.Spares last final) :
    array.Spares host final := by
  refine ⟨spares.sound, fun address size foreign held => ?_⟩
  have before := relocated.spares.kept address size foreign held
  exact before.trans (spares.kept address size (relocated.fresh address size foreign held)
    before.holds)

/-- What may come of growing: the array is as it was, or its elements are in another block. -/
inductive Enlarged [Custody σ] (array : GrowArray T) (host : σ) (newCapacity : Nat) :
    Outcome Object σ (Option Nat) → Prop where
  | refused {fault : Fault} {last : σ} {done : List (Effect Object)}
      (refused : Refused array host last) : Enlarged array host newCapacity ⟨.error fault, last, done⟩
  | granted {place : Nat} {last : σ} {done : List (Effect Object)}
      (relocated : Relocated array host (array.moved place newCapacity) last) :
      Enlarged array host newCapacity ⟨.ok (some place), last, done⟩

/-- What the array asked of its allocator: nothing, or another block, which it got or did not get. -/
inductive Asked (array : GrowArray T) (host : σ) : GrowArray T → σ → Prop where
  | nothing : Asked array host array host
  | refused {newCapacity : Nat} {fault : Fault} {last : σ} {done : List (Effect Object)}
      (ran : (array.enlarge newCapacity).run host = ⟨.error fault, last, done⟩) :
      Asked array host array last
  | granted {newCapacity place : Nat} {last : σ} {done : List (Effect Object)}
      (more : array.capacity < newCapacity)
      (ran : (array.enlarge newCapacity).run host = ⟨.ok (some place), last, done⟩) :
      Asked array host (array.moved place newCapacity) last

namespace Owned
variable [Custody σ] {newCapacity : Nat}

omit [Allocator Object σ] in
theorem within (owned : array.Owned host) {position : Nat}
    (inside : position < array.length * Element.size T) :
    position < Element.size T * array.capacity := by
  have below := Nat.mul_le_mul_right (Element.size T) owned.fits
  rw [Nat.mul_comm array.capacity] at below
  exact Nat.lt_of_lt_of_le inside below

/-- What is in the block is all that matters to an array. -/
theorem preserved_of_keeps (owned : array.Owned host) {last : σ} (sound : Sound last)
    (keeps : array.capacity ≠ 0 →
      Keeps host last array.address (Element.size T * array.capacity)) :
    Preserved (array, host) (array, last) := by
  refine ⟨⟨sound, owned.fits, owned.bytes, fun some => (keeps some).holds⟩, toList_congr rfl ?_⟩
  intro position inside
  have within := owned.within inside
  have some : array.capacity ≠ 0 := by
    intro none
    rw [none, Nat.mul_zero] at within
    omega
  exact (keeps some).load position within

theorem preserved_of_refused (owned : array.Owned host) {last : σ} (refused : Refused array host last) :
    Preserved (array, host) (array, last) :=
  owned.preserved_of_keeps refused.spares.sound refused.keeps

theorem refused_refl (owned : array.Owned host) : Refused array host host :=
  ⟨⟨owned.sound, fun _ _ _ held => ⟨held, fun _ _ => rfl⟩⟩, fun some =>
    ⟨owned.held some, fun _ _ => rfl⟩⟩

private theorem preserved_of_moved (owned : array.Owned host) (more : array.capacity < newCapacity)
    {last : σ} (sound : Sound last) {place newSize : Nat}
    (bytes : arraySize? (Element.size T) newCapacity = some newSize)
    (holds : Holds last place newSize)
    (agree : ∀ position, position < Element.size T * array.capacity →
      (memory last).load (place + position) = (memory host).load (array.address + position)) :
    Preserved (array, host) (array.moved place newCapacity, last) := by
  obtain ⟨rfl, _⟩ := Word.checkedMul?_eq_some_iff.mp bytes
  refine ⟨⟨sound, Nat.le_trans owned.fits (Nat.le_of_lt more), bytes, fun _ => holds⟩,
    toList_congr rfl fun position inside => agree position (owned.within inside)⟩

private theorem enlarged_of_acquired (owned : array.Owned host) (none : array.capacity = 0)
    (more : array.capacity < newCapacity) {newSize : Nat}
    (bytes : arraySize? (Element.size T) newCapacity = some newSize)
    {outcome : Outcome Object σ Nat} (acquired : Acquired host newSize outcome) :
    Enlarged array host newCapacity
      ⟨outcome.result.map some, outcome.state, outcome.effects⟩ := by
  have spares : array.Spares host outcome.state :=
    ⟨acquired.sound, fun address size _ held => acquired.kept address size held⟩
  rcases outcome with ⟨fault | place, last, done⟩
  · exact .refused ⟨spares, fun some => (some none).elim⟩
  · refine .granted ⟨owned.preserved_of_moved more acquired.sound bytes (acquired.holds place rfl) ?_,
      spares, fun address size _ held _ => acquired.fresh place rfl address size held⟩
    intro position inside
    rw [none, Nat.mul_zero] at inside
    omega

private theorem enlarged_of_resized (owned : array.Owned host) (more : array.capacity < newCapacity)
    (block : array.capacity ≠ 0) {newSize : Nat}
    (bytes : arraySize? (Element.size T) newCapacity = some newSize)
    {outcome : Outcome Object σ (Option Nat)}
    (resized : Resized host array.address newSize (Element.size T * array.capacity) outcome) :
    Enlarged array host newCapacity outcome := by
  obtain ⟨total, _⟩ := Word.checkedMul?_eq_some_iff.mp bytes
  have spares : array.Spares host outcome.state :=
    ⟨resized.sound, fun address size foreign held => resized.kept address size (foreign block) held⟩
  rcases outcome with ⟨fault | answer, last, done⟩
  · exact .refused ⟨spares, fun _ => resized.rejected fault rfl⟩
  · obtain ⟨place, rfl, holds, fresh, common⟩ := resized.moved answer rfl
    refine .granted ⟨owned.preserved_of_moved more resized.sound bytes holds ?_, spares,
      fun address size foreign held _ => fresh address size (foreign block) held⟩
    intro position inside
    have larger := Nat.mul_le_mul_left (Element.size T) (Nat.le_of_lt more)
    exact common position (by omega)

/-- A request for another block is rejected at once, or it is a resize to the bytes that the new capacity
takes. -/
theorem run_enlarge (owned : array.Owned host) (newCapacity : Nat) :
    (∃ fault, (array.enlarge newCapacity).run host = ⟨.error fault, host, []⟩) ∨
      Element.alignment T ≤ alignment host ∧
        arraySize? (Element.size T) newCapacity = some (Element.size T * newCapacity) ∧
        (array.enlarge newCapacity).run host = (resize array.block? (Element.size T * newCapacity)
          (Element.size T * array.capacity)).run host := by
  rcases run_resizeArray (T := T) array.block? array.capacity newCapacity host with
    refused | ⟨newSize, aligned, bytes, ran⟩
  · exact .inl refused
  · obtain ⟨rfl, _⟩ := Word.checkedMul?_eq_some_iff.mp bytes
    rw [owned.bytes, Option.getD_some] at ran
    exact .inr ⟨aligned, bytes, ran⟩

variable [LawfulAllocator Object σ]

/-- Where the allocator has no other block the array keeps its own; otherwise the elements are in the
new one. -/
theorem enlarged (owned : array.Owned host) (sized : Element.size T ≠ 0)
    (more : array.capacity < newCapacity) :
    Enlarged array host newCapacity ((array.enlarge newCapacity).run host) := by
  rcases owned.run_enlarge newCapacity with ⟨fault, ran⟩ | ⟨_, bytes, ran⟩
  · rw [ran]
    exact .refused owned.refused_refl
  · rw [ran]
    by_cases none : array.capacity = 0
    · rw [block?_of_none none, LawfulAllocator.resize_none, Step.run_map]
      exact owned.enlarged_of_acquired none more bytes (LawfulCustody.allocate owned.sound _)
    · have asked : Element.size T * newCapacity ≠ 0 := Nat.mul_ne_zero sized (by omega)
      rw [block?_of_some none]
      exact owned.enlarged_of_resized more none bytes
        (LawfulAllocator.resize owned.sound asked (owned.held none))

end Owned

/-- The capacity that is asked for when there is too little room. -/
def grownCapacity (array : GrowArray T) (additional : Nat) : Nat :=
  max (max (array.length + additional) (Word.saturatingMul array.capacity 2)) leastCapacity

/-- The capacity once there is room for more elements. -/
def capacityFor (array : GrowArray T) (additional : Nat) : Nat :=
  if array.length + additional ≤ array.capacity then array.capacity
  else array.grownCapacity additional

omit [Element Object T] in
theorem capacity_le_capacityFor (array : GrowArray T) (additional : Nat) :
    array.capacity ≤ array.capacityFor additional ∧
      array.length + additional ≤ array.capacityFor additional := by
  rw [capacityFor, grownCapacity]
  split <;> omega

omit [Element Object T] in
theorem lt_grownCapacity {additional : Nat} (more : array.capacity < array.length + additional) :
    array.capacity < array.grownCapacity additional := by
  rw [grownCapacity]
  omega

section Reserving
variable {additional : Nat}

theorem run_reserve_of_overflow (large : wordLimit ≤ array.length + additional) :
    (reserve additional).run (array, host) =
      ⟨.error (.refused (.sizeOverflow "AllocVec::try_reserve")), (array, host), []⟩ := by
  rw [reserve, Step.run_bind_of_quiet (Step.run_get _)]
  dsimp only
  rw [Word.checkedAdd?_eq_none_iff.mpr large]
  rfl

theorem run_reserve_of_roomy (small : array.length + additional < wordLimit)
    (roomy : array.length + additional ≤ array.capacity) :
    (reserve additional).run (array, host) = ⟨.ok (), (array, host), []⟩ := by
  rw [reserve, Step.run_bind_of_quiet (Step.run_get _)]
  dsimp only
  rw [Word.checkedAdd?_eq_some_iff.mpr ⟨rfl, small⟩]
  dsimp only
  rw [if_pos roomy]
  rfl

theorem run_reserve_of_full (small : array.length + additional < wordLimit)
    (more : array.capacity < array.length + additional) :
    (reserve additional).run (array, host) =
      (growTo (array.grownCapacity additional)).run (array, host) := by
  rw [reserve, Step.run_bind_of_quiet (Step.run_get _)]
  dsimp only
  rw [Word.checkedAdd?_eq_some_iff.mpr ⟨rfl, small⟩]
  dsimp only
  rw [if_neg (Nat.not_le.mpr more)]
  rfl

end Reserving

namespace Owned
variable [Custody σ] [LawfulAllocator Object σ]

omit [Allocator Object σ] [LawfulAllocator Object σ] in
theorem capacity_lt (owned : array.Owned host) (sized : Element.size T ≠ 0) :
    array.capacity < wordLimit := by
  obtain ⟨_, bytes⟩ := Word.checkedMul?_eq_some_iff.mp owned.bytes
  exact Nat.lt_of_le_of_lt (Nat.le_mul_of_pos_left _ (Nat.pos_of_ne_zero sized)) bytes

/-- An array that finds room for more elements holds the same ones; one that does not is as it was. -/
theorem reserved (owned : array.Owned host) (sized : Element.size T ≠ 0) (additional : Nat) :
    (∃ fault last done, (reserve additional).run (array, host) = ⟨.error fault, (array, last), done⟩ ∧
        array.capacity < array.length + additional ∧ Refused array host last ∧
        Asked array host array last) ∨
      ∃ larger last done, (reserve additional).run (array, host) = ⟨.ok (), (larger, last), done⟩ ∧
        Relocated array host larger last ∧ larger.length = array.length ∧
        larger.capacity = array.capacityFor additional ∧ Asked array host larger last := by
  by_cases large : wordLimit ≤ array.length + additional
  · have small := owned.capacity_lt sized
    exact .inl ⟨_, host, [], run_reserve_of_overflow large, by omega, owned.refused_refl, .nothing⟩
  · have small := Nat.lt_of_not_le large
    by_cases roomy : array.length + additional ≤ array.capacity
    · exact .inr ⟨array, host, [], run_reserve_of_roomy small roomy, ⟨⟨owned, rfl⟩,
        owned.refused_refl.spares, fun _ _ foreign _ => foreign⟩, rfl, (if_pos roomy).symm, .nothing⟩
    · have full := Nat.lt_of_not_le roomy
      have more := lt_grownCapacity full
      have capacity : array.capacityFor additional = array.grownCapacity additional := if_neg roomy
      have grown := owned.enlarged sized more
      rw [run_reserve_of_full small full, capacity]
      generalize ran : (array.enlarge (array.grownCapacity additional)).run host = outcome at grown
      cases grown with
      | refused refused =>
        exact .inl ⟨_, _, _, run_growTo_of_error sized more ran, full, refused, .refused ran⟩
      | granted relocated =>
        exact .inr ⟨_, _, _, run_growTo_of_ok sized more ran, relocated, rfl, rfl, .granted more ran⟩

end Owned
end GrowArray
end Allotment
