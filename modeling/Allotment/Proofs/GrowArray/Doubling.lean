import Mathlib.Order.Bounds.Basic
import Allotment.Proofs.GrowArray.Refinement

/-! How the capacity of an array grows while values are pushed, one at a time. It doubles, so it depends
on the greatest length the array ever had and on nothing else, and the allocator is asked for another
block once for each time it doubled. -/
namespace Allotment

/-- The new and the old size in a request for another size of a block. -/
def RecordedRequest.sizes? : RecordedRequest → Option (Nat × Nat)
  | resize _ newSize oldSize => some (newSize, oldSize)
  | _ => none

namespace GrowArray
open Allocator Custody
variable {Object σ T α : Type} [Element Object T] [Allocator Object σ]

/-- The capacity of a new array once it has grown a number of times. -/
def room : Nat → Nat
  | 0 => 0
  | count + 1 => leastCapacity * 2 ^ count

private theorem grownCapacity_of_room {array : GrowArray T} {count : Nat} (sized : Element.size T ≠ 0)
    (small : Element.size T * array.capacity < 2 ^ (63 : Nat)) (full : array.length = array.capacity)
    (capacity : array.capacity = room count) : array.grownCapacity 1 = room (count + 1) := by
  rw [grownCapacity_of_small sized small, full, capacity]
  cases count with
  | zero => rfl
  | succ count =>
    have positive : 0 < 2 ^ count := Nat.two_pow_pos count
    simp only [room, leastCapacity, Nat.pow_succ]
    omega

/-- A capacity that reaches a length, while all earlier ones do not, is the least of its form. -/
private theorem isLeast_room {peak count : Nat} (some : 1 ≤ peak) (reaches : peak ≤ room count)
    (earlier : ∀ before, before < count → room before < peak) :
    ∃ doublings, count = doublings + 1 ∧
      IsLeast {capacity | peak ≤ capacity ∧ ∃ exponent : Nat, capacity = 4 * 2 ^ exponent}
        (4 * 2 ^ doublings) := by
  cases count with
  | zero => exact absurd (Nat.le_trans some reaches) (by decide)
  | succ doublings =>
    refine ⟨doublings, rfl, ⟨reaches, doublings, rfl⟩, ?_⟩
    rintro capacity ⟨enough, exponent, rfl⟩
    have later : doublings ≤ exponent := by
      by_contra before
      have short : room (exponent + 1) < peak := earlier (exponent + 1) (by omega)
      exact absurd enough (Nat.not_le.mpr short)
    exact Nat.mul_le_mul_left 4 (Nat.pow_le_pow_right (by decide) later)

/-- A recorder asks for the block that the allocator behind it is asked for. Where that is granted, one
request was written down. -/
private theorem run_enlarge_recorded (array : GrowArray T) (newCapacity : Nat) (host : Recorded σ) :
    ∃ more, (array.enlarge newCapacity).run host = ((array.enlarge newCapacity).run host.inner).mapState
        (Recorded.mk · (host.requests ++ more)) ∧
      ∀ answer, ((array.enlarge newCapacity).run host.inner).result = .ok answer →
        more = [.resize array.block? (Element.size T * newCapacity)
          ((arraySize? (Element.size T) array.capacity).getD wordMax)] := by
  have recorded : (array.enlarge newCapacity).run host = _ := run_sized T newCapacity "realloc_array"
    (resize array.block? · ((arraySize? (Element.size T) array.capacity).getD wordMax)) host
  have plain : (array.enlarge newCapacity).run host.inner = _ :=
    run_sized T newCapacity "realloc_array"
      (resize array.block? · ((arraySize? (Element.size T) array.capacity).getD wordMax)) host.inner
  have same : alignment host = alignment host.inner := rfl
  rw [recorded, plain, same]
  split
  · exact ⟨[], by simp [Outcome.mapState], nofun⟩
  · split
    · exact ⟨[], by simp [Outcome.mapState], nofun⟩
    · exact ⟨_, Recorded.run_resize host .., fun _ _ => rfl⟩

/-- A push that was answered on a full array moved the elements into a block of the next capacity, for
one request. Behind the recorder the same happened. -/
private theorem push_recorded [Custody σ] [LawfulAllocator Object σ] {array : GrowArray T}
    {host : Recorded σ} (owned : array.Owned host.inner) (sized : Element.size T ≠ 0)
    (full : array.length = array.capacity) {value : T}
    (answered : ((push value).run (array, host)).result = .ok ()) :
    ∃ place last done, (push value).run (array, host.inner) =
        ⟨.ok (), ((array.moved place (array.grownCapacity 1)).extended,
          (array.moved place (array.grownCapacity 1)).written last array.length value), done⟩ ∧
      (push value).run (array, host) =
        ⟨.ok (), ((array.moved place (array.grownCapacity 1)).extended,
          (array.moved place (array.grownCapacity 1)).written
            (Recorded.mk last (host.requests ++ [.resize array.block?
              (Element.size T * array.grownCapacity 1) (Element.size T * array.capacity)]))
            array.length value), done⟩ := by
  have lacking : array.capacity < array.length + 1 := by omega
  have more := lt_grownCapacity lacking
  by_cases large : wordLimit ≤ array.length + 1
  · rw [run_push_of_refused full (run_reserve_of_overflow large)] at answered
    cases answered
  have reserved {τ : Type} [Allocator Object τ] (host : τ) :
      (reserve 1).run (array, host) = (growTo (array.grownCapacity 1)).run (array, host) :=
    run_reserve_of_full (Nat.lt_of_not_le large) lacking
  obtain ⟨requests, recorded, asked⟩ := run_enlarge_recorded array (array.grownCapacity 1) host
  have grown := owned.enlarged sized more
  generalize ran : (array.enlarge (array.grownCapacity 1)).run host.inner = outcome
    at grown recorded asked
  cases grown with
  | refused =>
    have failed := (reserved host).trans (run_growTo_of_error sized more recorded)
    rw [run_push_of_refused full failed] at answered
    cases answered
  | granted =>
    rw [asked _ rfl, owned.bytes, Option.getD_some] at recorded
    have plain := (reserved host.inner).trans (run_growTo_of_ok sized more ran)
    have written := (reserved host).trans (run_growTo_of_ok sized more recorded)
    exact ⟨_, _, _, run_push_of_grown full plain value, run_push_of_grown full written value⟩

/-- Pushes, pops, and clearings. -/
def Call.Fills : Call T α → Prop
  | push _ | pop | clear => True
  | _ => False

namespace Session
variable {session : Session T (Recorded σ)} {call : Call T α}

/-- The session as the allocator behind the recorder knows it. -/
def unrecorded (session : Session T (Recorded σ)) : Session T σ :=
  ⟨session.array, session.host.inner, session.contents⟩

/-- What a call does to the length, the capacity and the record: the array keeps its room, or it was full
and got more for one request. -/
inductive Paced (before after : Session T (Recorded σ)) : Prop where
  | kept (capacity : after.array.capacity = before.array.capacity)
      (inside : after.array.length ≤ before.array.capacity)
      (requests : after.host.requests = before.host.requests)
  | grown (full : before.array.length = before.array.capacity)
      (capacity : after.array.capacity = before.array.grownCapacity 1)
      (length : after.array.length = before.array.length + 1)
      (requests : after.host.requests = before.host.requests ++ [.resize before.array.block?
        (Element.size T * before.array.grownCapacity 1) (Element.size T * before.array.capacity)])

theorem paced_of_runs {answer : α} {array : GrowArray T}
    {last : Recorded σ} {done done' : List (Effect Object)}
    (ran : call.operation.run (session.array, session.host) = ⟨.ok answer, (array, last), done⟩)
    (plain : call.operation.run (session.array, session.host.inner) =
      ⟨.ok answer, (array, last.inner), done'⟩)
    (paced : session.Paced ⟨array, last, (call.onList session.contents).2⟩) :
    (session.perform call).unrecorded = session.unrecorded.perform call ∧
      session.Paced (session.perform call) := by
  have plain' : call.operation.run (session.unrecorded.array, session.unrecorded.host) = _ := plain
  rw [perform_of_ok ran, perform_of_ok plain']
  exact ⟨rfl, paced⟩

/-- Calls that are answered do the same without the recorder. -/
theorem Valid.paced [Custody σ] [LawfulAllocator Object σ] (valid : session.unrecorded.Valid)
    (sized : Element.size T ≠ 0) (fills : call.Fills) {answer : α}
    (answered : session.answer call = .ok answer) :
    (session.perform call).unrecorded = session.unrecorded.perform call ∧
      session.Paced (session.perform call) := by
  have fits : session.array.length ≤ session.array.capacity := valid.fits
  cases call with
  | push value =>
    rcases Nat.lt_or_eq_of_le fits with room | full
    · exact paced_of_runs (run_push_of_room room value) (run_push_of_room room value)
        (.kept rfl room rfl)
    · obtain ⟨place, last, done, plain, written⟩ :=
        push_recorded (valid.sized sized).1 sized full answered
      exact paced_of_runs written plain (.grown full rfl rfl rfl)
  | pop =>
    by_cases empty : session.array.length = 0
    · exact paced_of_runs (run_pop_of_empty empty) (run_pop_of_empty empty) (.kept rfl fits rfl)
    · exact paced_of_runs (run_pop_of_filled empty) (run_pop_of_filled empty)
        (.kept rfl (Nat.le_trans (Nat.sub_le ..) fits) rfl)
  | clear => exact paced_of_runs run_clear run_clear (.kept rfl (Nat.zero_le _) rfl)
  | _ => exact fills.elim

/-- A new array on which pushes, pops and clearings are called and answered, and the greatest length it had
so far. Others may use the allocator, but nobody writes to the block of the array or releases it. -/
inductive Filled [Custody σ] : Session T (Recorded σ) → Nat → Prop where
  | new {host : σ} (sound : Sound host) : Filled ⟨.empty T, ⟨host, []⟩, []⟩ 0
  | called {session : Session T (Recorded σ)} {peak : Nat} {α : Type} {call : Call T α} {answer : α}
      (filled : Filled session peak) (fills : call.Fills)
      (answered : session.answer call = .ok answer) :
      Filled (session.perform call) (max peak (session.perform call).array.length)
  | disturbed {session : Session T (Recorded σ)} {peak : Nat} {last : σ}
      (filled : Filled session peak) (sound : Sound last)
      (keeps : session.array.capacity ≠ 0 → Keeps session.host.inner last session.array.address
        (Element.size T * session.array.capacity)) :
      Filled { session with host := ⟨last, session.host.requests⟩ } peak

/-- The array has grown `count` times. Its room reaches the greatest length it had, and what it had before
did not. Each growth was one request that told the size before. -/
structure Doubled [Custody σ] (session : Session T (Recorded σ)) (peak count : Nat) : Prop where
  valid : session.unrecorded.Valid
  inside : session.array.length ≤ peak
  capacity : session.array.capacity = room count
  reaches : peak ≤ room count
  earlier : ∀ before, before < count → room before < peak
  requests : session.host.requests.map RecordedRequest.sizes? = (List.range count).map fun growth =>
    some (Element.size T * room (growth + 1), Element.size T * room growth)

section Filling
variable [Custody σ] {peak count : Nat}

private theorem Doubled.of_new {host : σ} (sized : Element.size T ≠ 0) (sound : Sound host) :
    Doubled ⟨.empty T, ⟨host, []⟩, []⟩ 0 0 :=
  ⟨.of_empty sound, Nat.le_refl _, if_neg sized, Nat.le_refl _, nofun, rfl⟩

variable [LawfulAllocator Object σ] [LawfulMemory Object σ] [BoundedAllocator Object σ]
  [LawfulElement Object T]

/-- An answered call keeps the number of growths, or adds one. -/
theorem Doubled.called (doubled : session.Doubled peak count) (sized : Element.size T ≠ 0)
    (fills : call.Fills) {answer : α} (answered : session.answer call = .ok answer) :
    ∃ count', (session.perform call).Doubled
      (max peak (session.perform call).array.length) count' := by
  obtain ⟨same, paced⟩ := doubled.valid.paced sized fills answered
  have valid : (session.perform call).unrecorded.Valid := same ▸ (doubled.valid.step call).1
  have reaches := doubled.reaches
  have capacity := doubled.capacity
  cases paced with
  | kept capacity' inside requests =>
    refine ⟨count, valid, Nat.le_max_right .., capacity'.trans capacity, by omega,
      fun before earlier => ?_, by rw [requests, doubled.requests]⟩
    exact Nat.lt_of_lt_of_le (doubled.earlier before earlier) (Nat.le_max_left ..)
  | grown full capacity' length requests =>
    have grown : session.array.grownCapacity 1 = room (count + 1) :=
      grownCapacity_of_room sized (doubled.valid.sized sized).2 full capacity
    have inside := doubled.inside
    have more : session.array.capacity < session.array.grownCapacity 1 := lt_grownCapacity (by omega)
    refine ⟨count + 1, valid, Nat.le_max_right .., capacity'.trans grown, by omega, ?_, ?_⟩
    · intro before earlier
      rcases Nat.lt_succ_iff_lt_or_eq.mp earlier with older | rfl
      · exact Nat.lt_of_lt_of_le (doubled.earlier before older) (Nat.le_max_left ..)
      · omega
    · simp [requests, doubled.requests, List.range_succ, RecordedRequest.sizes?, grown, capacity]

theorem Filled.doubled {session : Session T (Recorded σ)} (filled : session.Filled peak)
    (sized : Element.size T ≠ 0) : ∃ count, session.Doubled peak count := by
  induction filled with
  | new sound => exact ⟨0, .of_new sized sound⟩
  | called _ fills answered ih =>
    obtain ⟨_, doubled⟩ := ih
    exact doubled.called sized fills answered
  | @disturbed session peak last _ sound keeps ih =>
    obtain ⟨count, doubled⟩ := ih
    obtain ⟨owned, small⟩ := doubled.valid.sized sized
    have preserved := owned.preserved_of_keeps sound keeps
    refine ⟨count, ⟨?_, doubled.inside, doubled.capacity, doubled.reaches, doubled.earlier,
      doubled.requests⟩⟩
    exact .of_owned sized preserved.owned small (preserved.toList.trans doubled.valid.toList)

/-- While values are pushed, popped and cleared away the capacity is the least number of the form
`4 * 2 ^ k` that is not below the greatest length so far. The allocator was asked `k + 1` times, each time to
resize the block of the capacity before. -/
theorem Filled.doubling (filled : session.Filled peak) (sized : Element.size T ≠ 0)
    (some : 1 ≤ peak) :
    ∃ k : Nat, session.array.capacity = 4 * 2 ^ k ∧
      IsLeast {capacity | peak ≤ capacity ∧ ∃ exponent : Nat, capacity = 4 * 2 ^ exponent} (4 * 2 ^ k) ∧
      session.host.requests.length = k + 1 ∧
      session.host.requests.map RecordedRequest.sizes? = (List.range (k + 1)).map fun growth =>
        .some (Element.size T * room (growth + 1), Element.size T * room growth) := by
  obtain ⟨count, doubled⟩ := filled.doubled sized
  obtain ⟨k, rfl, least⟩ := isLeast_room some doubled.reaches doubled.earlier
  have requests := doubled.requests
  have length := congrArg List.length requests
  rw [List.length_map, List.length_map, List.length_range] at length
  exact ⟨k, doubled.capacity, least, length, requests⟩

/-- Five numbers are pushed, one is popped, and the rest is cleared away. The room is that of eight, for
two requests. -/
theorem doubling_of_five_numbers :
    ∃ session : Session UInt32 (Recorded (Heap Value)), session.Filled 5 ∧
      session.array.length = 0 ∧
      (∃ k : Nat, session.array.capacity = 4 * 2 ^ k ∧ session.host.requests.length = k + 1) ∧
      session.array.capacity = 8 ∧
      session.host.requests.map RecordedRequest.sizes? = [some (16, 0), some (32, 16)] := by
  have new : Filled ⟨.empty UInt32, ⟨(Heap.empty false : Heap Value), []⟩, []⟩ 0 :=
    .new (Heap.Orderly.empty false)
  have push (value : UInt32) : (Call.push value).Fills := trivial
  have pop : (Call.pop : Call UInt32 _).Fills := trivial
  have clear : (Call.clear : Call UInt32 _).Fills := trivial
  have four := (((new.called (push 1) rfl).called (push 2) rfl).called (push 3) rfl).called (push 4) rfl
  have cleared := ((four.called (push 5) rfl).called pop rfl).called clear rfl
  obtain ⟨k, capacity, _, length, _⟩ := cleared.doubling (by decide) (by decide)
  exact ⟨_, cleared, rfl, ⟨k, capacity, length⟩, rfl, rfl⟩

end Filling
end Session
end GrowArray
end Allotment
