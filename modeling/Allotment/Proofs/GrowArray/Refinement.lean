import Allotment.Element.Value
import Allotment.Proofs.Allocator.Bounded
import Allotment.Proofs.Allocator.Recorded
import Allotment.Proofs.GrowArray.Unsized

/-! A growable array refines a list with a capacity, over any allocator and whatever others do to the
allocator in between, as long as the array's block stays its own. -/
namespace Allotment.GrowArray
open Allocator Custody
variable {Object σ T α : Type} [Allocator Object σ] [Element Object T]

namespace Owned
variable [Custody σ] [LawfulAllocator Object σ] [BoundedAllocator Object σ] {array larger : GrowArray T}
  {host last : σ}

private theorem bytes_of_enlarged (owned : array.Owned host) (sized : Element.size T ≠ 0) {newCapacity : Nat}
    (more : array.capacity < newCapacity) {answer : Option Nat}
    (granted : ((array.enlarge newCapacity).run host).result = .ok answer) :
    Element.size T * newCapacity < 2 ^ (63 : Nat) := by
  rcases owned.run_enlarge newCapacity with ⟨fault, ran⟩ | ⟨_, _, ran⟩
  · rw [ran] at granted
    cases granted
  · rw [ran] at granted
    by_cases none : array.capacity = 0
    · rw [block?_of_none none, LawfulAllocator.resize_none, Step.run_map] at granted
      cases acquired : ((Allocator.allocate (Element.size T * newCapacity)).run host).result with
      | error fault => rw [acquired] at granted; cases granted
      | ok place => exact BoundedAllocator.allocate owned.sound acquired
    · have asked : Element.size T * newCapacity ≠ 0 := Nat.mul_ne_zero sized (by omega)
      rw [block?_of_some none] at granted
      exact BoundedAllocator.resize owned.sound asked (owned.held none) granted

private theorem bytes_of_reserved (owned : array.Owned host) (sized : Element.size T ≠ 0)
    (small : Element.size T * array.capacity < 2 ^ (63 : Nat)) {additional : Nat}
    (answered : ((reserve additional).run (array, host)).result = .ok ()) :
    Element.size T * array.capacityFor additional < 2 ^ (63 : Nat) := by
  rw [capacityFor]
  split
  · exact small
  · next lacking =>
    have full := Nat.lt_of_not_le lacking
    have more := lt_grownCapacity full
    by_cases large : wordLimit ≤ array.length + additional
    · rw [run_reserve_of_overflow large] at answered
      cases answered
    · rw [run_reserve_of_full (Nat.lt_of_not_le large) full] at answered
      rcases ran : (array.enlarge (array.grownCapacity additional)).run host with
        ⟨fault | answer, last, done⟩
      · rw [run_growTo_of_error sized more ran] at answered
        cases answered
      · exact owned.bytes_of_enlarged sized more (congrArg Outcome.result ran)

private theorem bytes_of_called (owned : array.Owned host) (sized : Element.size T ≠ 0)
    (small : Element.size T * array.capacity < 2 ^ (63 : Nat)) (call : Call T α) {answer : α}
    (answered : (call.operation.run (array, host)).result = .ok answer) :
    Element.size T * array.capacityFor call.asks < 2 ^ (63 : Nat) := by
  have still : array.capacityFor 0 = array.capacity := if_pos owned.fits
  cases call with
  | push value =>
    by_cases room : array.length < array.capacity
    · have same : array.capacityFor 1 = array.capacity := if_pos room
      exact same ▸ small
    · have full : array.length = array.capacity := by
        have fits := owned.fits
        omega
      rcases ran : (reserve 1).run (array, host) with ⟨fault | _, last, done⟩
      · have failed : ((GrowArray.push value).run (array, host)).result = .error fault :=
          congrArg Outcome.result (run_push_of_refused full ran value)
        cases failed.symm.trans answered
      · exact owned.bytes_of_reserved sized small (congrArg Outcome.result ran)
  | reserve additional => exact owned.bytes_of_reserved sized small answered
  | _ => exact still ▸ small

end Owned

theorem grownCapacity_of_small {array : GrowArray T} (sized : Element.size T ≠ 0)
    (small : Element.size T * array.capacity < 2 ^ (63 : Nat)) (additional : Nat) :
    array.grownCapacity additional =
      max (max (array.length + additional) (2 * array.capacity)) 4 := by
  have below : array.capacity < 2 ^ (63 : Nat) :=
    Nat.lt_of_le_of_lt (Nat.le_mul_of_pos_left _ (Nat.pos_of_ne_zero sized)) small
  have twice : Word.saturatingMul array.capacity 2 = 2 * array.capacity := by
    rw [Word.saturatingMul, wordMax, wordLimit]
    omega
  rw [grownCapacity, twice, leastCapacity]

private theorem capacityFor_of_small {array : GrowArray T} (sized : Element.size T ≠ 0)
    (small : Element.size T * array.capacity < 2 ^ (63 : Nat)) (additional : Nat) :
    array.capacityFor additional =
      if array.length + additional ≤ array.capacity then array.capacity
      else max (max (array.length + additional) (2 * array.capacity)) 4 := by
  rw [capacityFor, grownCapacity_of_small sized small]

omit [Element Object T] in
private theorem requests_of_unasked {host last : Recorded σ} (unasked : Unasked host last) :
    last.requests = host.requests := by
  cases unasked <;> rfl

theorem run_createWithCapacity (before : GrowArray T) (host : σ) (capacity : Nat) :
    (createWithCapacity capacity).run (before, host) = (reserve capacity).run (.empty T, host) :=
  Step.run_bind_of_quiet (Step.run_modify _ _) _

private theorem run_dispose_of_unsized (none : Element.size T = 0) (array : GrowArray T) (host : σ) :
    dispose.run (array, host) = clear.run (array, host) := by
  rw [dispose, Step.run_bind_of_ok run_clear, Step.run_bind_of_quiet (Step.run_get _), run_clear]
  dsimp only
  rw [if_neg fun filled => filled.1 none]
  exact congrArg (Outcome.mk _ _) (List.append_nil _)

/-- No call on an array of values without cells asks its allocator for anything, nor does building the
array or disposing of it. -/
structure NeverAsks (array : GrowArray T) (host : σ) (requests : List RecordedRequest) : Prop where
  called : ∀ {α : Type} (call : Call T α),
    (call.operation.run (array, (⟨host, requests⟩ : Recorded σ))).state.2.requests = requests
  created : ∀ before capacity, ((createWithCapacity capacity).run
    ((before : GrowArray T), (⟨host, requests⟩ : Recorded σ))).state.2.requests = requests
  disposed : (dispose.run (array, (⟨host, requests⟩ : Recorded σ))).state.2.requests = requests

theorem requests_called [LawfulElement Object T] (none : Element.size T = 0) {array : GrowArray T}
    (capacity : array.capacity = wordMax) (inside : array.length ≤ wordMax) (host : σ)
    (requests : List RecordedRequest) (call : Call T α) :
    (call.operation.run (array, (⟨host, requests⟩ : Recorded σ))).state.2.requests = requests := by
  rcases called_of_unsized (⟨host, requests⟩ : Recorded σ) none capacity inside call with
    ⟨fault, done, ran, _⟩ | ⟨answer, after, last, done, ran, _, unasked, _⟩
  · rw [ran]
  · rw [ran]
    exact requests_of_unasked unasked

private theorem neverAsks_of_unsized [LawfulElement Object T] (none : Element.size T = 0)
    {array : GrowArray T} (capacity : array.capacity = wordMax) (inside : array.length ≤ wordMax)
    (host : σ) (requests : List RecordedRequest) : array.NeverAsks host requests := by
  refine ⟨requests_called none capacity inside host requests, fun before capacity => ?_, ?_⟩
  · rw [run_createWithCapacity]
    exact requests_called none (if_pos none) (Nat.zero_le _) host requests (.reserve capacity)
  · rw [run_dispose_of_unsized none]
    exact requests_called none capacity inside host requests .clear

/-- An array, its allocator, and the list it stands for. -/
structure Session (T σ : Type) where
  array : GrowArray T
  host : σ
  contents : List T

namespace Session
variable {session : Session T σ}

/-- What a call answers. -/
def answer (session : Session T σ) (call : Call T α) : Except Fault α :=
  (call.operation.run (session.array, session.host)).result

/-- The session after a call. A fault is caught, and the list stays as it was. -/
def perform (session : Session T σ) (call : Call T α) : Session T σ :=
  let last := (call.operation.run (session.array, session.host)).state
  ⟨last.1, last.2,
    match session.answer call with
    | .ok _ => (call.onList session.contents).2
    | .error _ => session.contents⟩

/-- The sessions that begin with a new array, on an allocator in any state it can come to. -/
inductive Reachable [Custody σ] : Session T σ → Prop where
  | unreserved {host : σ} (sound : Sound host) : Reachable ⟨.empty T, host, []⟩
  | reserved {host last : σ} {before array : GrowArray T} {capacity : Nat}
      {done : List (Effect Object)} (sound : Sound host)
      (built : (createWithCapacity capacity).run (before, host) = ⟨.ok (), (array, last), done⟩) :
      Reachable ⟨array, last, []⟩
  | performed {session : Session T σ} {α : Type} (reached : Reachable session) (call : Call T α) :
      Reachable (session.perform call)
  /-- Others use the allocator, but nobody writes to the array's block or releases it. -/
  | disturbed {session : Session T σ} {last : σ} (reached : Reachable session) (sound : Sound last)
      (keeps : Element.size T ≠ 0 → session.array.capacity ≠ 0 →
        Keeps session.host last session.array.address
          (Element.size T * session.array.capacity)) :
      Reachable { session with host := last }

theorem perform_of_ok {call : Call T α} {answer : α} {array : GrowArray T} {host : σ}
    {done : List (Effect Object)}
    (ran : call.operation.run (session.array, session.host) = ⟨.ok answer, (array, host), done⟩) :
    session.perform call = ⟨array, host, (call.onList session.contents).2⟩ := by
  rw [perform, Session.answer, ran]

theorem perform_of_error {call : Call T α} {fault : Fault} {array : GrowArray T} {host : σ}
    {done : List (Effect Object)}
    (ran : call.operation.run (session.array, session.host) = ⟨.error fault, (array, host), done⟩) :
    session.perform call = ⟨array, host, session.contents⟩ := by
  rw [perform, Session.answer, ran]

/-- The elements are those of the list. Values that take cells lie in a block of the array's own; for
others there is room for as many as there are lengths. -/
structure Valid [Custody σ] (session : Session T σ) : Prop where
  toList : session.array.toList (memory session.host) = session.contents
  fits : session.array.length ≤ session.array.capacity
  sized : Element.size T ≠ 0 → session.array.Owned session.host ∧
    Element.size T * session.array.capacity < 2 ^ (63 : Nat)
  unsized : Element.size T = 0 → session.array.capacity = wordMax

/-- What a call leads to: the list's answer, with the room that was asked for, or a fault for want of
room that leaves the array, its elements and its block as they were. -/
inductive Stepped [Custody σ] (session : Session T σ) (call : Call T α) : Prop where
  | answered (answer : session.answer call = .ok (call.onList session.contents).1)
      (capacity : (session.perform call).array.capacity = session.array.capacityFor call.asks)
  | refused {fault : Fault} (answer : session.answer call = .error fault)
      (full : session.array.capacity < session.array.length + call.asks)
      (array : (session.perform call).array = session.array)
      (contents : (session.perform call).contents = session.contents)
      (keeps : Element.size T ≠ 0 → session.array.capacity ≠ 0 →
        Keeps session.host (session.perform call).host session.array.address
          (Element.size T * session.array.capacity))

section New
variable [Custody σ]

theorem Valid.of_owned (sized : Element.size T ≠ 0) (owned : session.array.Owned session.host)
    (small : Element.size T * session.array.capacity < 2 ^ (63 : Nat))
    (toList : session.array.toList (memory session.host) = session.contents) : session.Valid :=
  ⟨toList, owned.fits, fun _ => ⟨owned, small⟩, fun none => (sized none).elim⟩

theorem Valid.of_empty {host : σ} (sound : Sound host) : Valid ⟨.empty T, host, []⟩ := by
  refine ⟨rfl, Nat.zero_le _, fun sized => ⟨.empty sized sound, ?_⟩, fun none => if_pos none⟩
  have capacity : (GrowArray.empty T).capacity = 0 := if_neg sized
  rw [capacity, Nat.mul_zero]
  decide

end New

variable [Custody σ] [LawfulAllocator Object σ] [LawfulMemory Object σ] [BoundedAllocator Object σ]
  [LawfulElement Object T]

/-- Whatever is called, the array stands for the list after it. -/
theorem Valid.step (valid : session.Valid) (call : Call T α) :
    (session.perform call).Valid ∧ session.Stepped call := by
  by_cases none : Element.size T = 0
  · have capacity := valid.unsized none
    have inside : session.array.length ≤ wordMax := capacity ▸ valid.fits
    rcases called_of_unsized session.host none capacity inside call with
      ⟨fault, done, ran, large⟩ | ⟨answer, after, last, done, ran, answered, _, small⟩
    · have limit : wordMax < wordLimit := by decide
      refine ⟨?_, .refused (congrArg Outcome.result ran) ?_ ?_ ?_ fun sized => (sized none).elim⟩
      · rw [perform_of_error ran]
        exact valid
      · omega
      · rw [perform_of_error ran]
      · rw [perform_of_error ran]
    · have roomy : session.array.length + call.asks ≤ session.array.capacity := by
        have limit : wordMax + 1 = wordLimit := by decide
        omega
      have list := valid.toList
      refine ⟨?_, .answered ?_ ?_⟩
      · rw [perform_of_ok ran]
        refine ⟨list_eq_of_unsized none ?_, ?_, fun sized => (sized none).elim,
          fun _ => answered.capacity.trans capacity⟩
        · rw [length_toList, answered.length, list]
        · exact Nat.le_trans answered.inside (Nat.le_of_eq (answered.capacity.trans capacity).symm)
      · rw [Session.answer, ran, ← list, answered.answer]
      · rw [perform_of_ok ran, capacityFor, if_pos roomy]
        exact answered.capacity
  · obtain ⟨owned, small⟩ := valid.sized none
    rcases owned.called none call with
      ⟨fault, last, done, ran, full, refused⟩ | ⟨answer, after, last, done, ran, answered⟩
    · have preserved := owned.preserved_of_refused refused
      refine ⟨?_, .refused (congrArg Outcome.result ran) full ?_ ?_ ?_⟩
      · rw [perform_of_error ran]
        exact .of_owned none preserved.owned small (preserved.toList.trans valid.toList)
      · rw [perform_of_error ran]
      · rw [perform_of_error ran]
      · rw [perform_of_error ran]
        exact fun _ => refused.keeps
    · have bytes := owned.bytes_of_called none small call (congrArg Outcome.result ran)
      rw [← answered.capacity] at bytes
      have list := valid.toList
      refine ⟨?_, .answered ?_ ?_⟩
      · rw [perform_of_ok ran, ← list]
        exact .of_owned none answered.owned bytes answered.toList
      · rw [Session.answer, ran, ← list, answered.answer]
      · rw [perform_of_ok ran]
        exact answered.capacity

omit [LawfulAllocator Object σ] [LawfulMemory Object σ] [BoundedAllocator Object σ] in
/-- With values that take no cells only the word range limits the length. -/
theorem Valid.fails_iff (valid : session.Valid) (none : Element.size T = 0) (call : Call T α) :
    (∃ fault, session.answer call = .error fault) ↔
      wordLimit ≤ session.array.length + call.asks := by
  have capacity := valid.unsized none
  have inside : session.array.length ≤ wordMax := capacity ▸ valid.fits
  rcases called_of_unsized session.host none capacity inside call with
    ⟨fault, done, ran, large⟩ | ⟨answer, after, last, done, ran, _, _, small⟩
  · have failed : session.answer call = .error fault := congrArg Outcome.result ran
    exact ⟨fun _ => large, fun _ => ⟨fault, failed⟩⟩
  · have answered : session.answer call = .ok answer := congrArg Outcome.result ran
    constructor
    · rintro ⟨fault, failed⟩
      cases answered.symm.trans failed
    · intro large
      omega

theorem valid_of_createWithCapacity {host last : σ} {before array : GrowArray T} {capacity : Nat}
    {done : List (Effect Object)} (sound : Sound host)
    (built : (createWithCapacity capacity).run (before, host) = ⟨.ok (), (array, last), done⟩) :
    Valid ⟨array, last, []⟩ := by
  rw [run_createWithCapacity] at built
  have ran : (Call.reserve capacity).operation.run (GrowArray.empty T, host) =
      ⟨.ok (), (array, last), done⟩ := built
  have valid := ((Valid.of_empty (T := T) sound).step (.reserve capacity)).1
  rwa [perform_of_ok ran] at valid

theorem Reachable.valid (reached : session.Reachable) : session.Valid := by
  induction reached with
  | unreserved sound => exact .of_empty sound
  | reserved sound built => exact valid_of_createWithCapacity sound built
  | performed _ call ih => exact (ih.step call).1
  | @disturbed session last _ sound keeps ih =>
    by_cases none : Element.size T = 0
    · refine ⟨list_eq_of_unsized none ?_, ih.fits, fun sized => (sized none).elim, ih.unsized⟩
      rw [← ih.toList, length_toList, length_toList]
    · obtain ⟨owned, small⟩ := ih.sized none
      have preserved := owned.preserved_of_keeps sound (keeps none)
      exact .of_owned none preserved.owned small (preserved.toList.trans ih.toList)

/-- An array is a list with a capacity: every call is answered as the list answers it, or asked for more
room than there was and changed nothing. Room is only ever added, and arrays of values without cells ask the
allocator for nothing. -/
theorem Reachable.refines_list (reached : session.Reachable) :
    session.array.toList (memory session.host) = session.contents ∧
      session.array.length ≤ session.array.capacity ∧
      (∀ {α : Type} (call : Call T α),
        session.array.capacity ≤ (session.perform call).array.capacity ∧
        (session.answer call = .ok (call.onList session.contents).1 ∨
          ∃ fault, session.answer call = .error fault ∧
            session.array.capacity < session.array.length + call.asks ∧
            (session.perform call).array = session.array ∧
            (session.perform call).contents = session.contents ∧
            (Element.size T ≠ 0 → session.array.capacity ≠ 0 →
              Keeps session.host (session.perform call).host session.array.address
                (Element.size T * session.array.capacity)))) ∧
      (∀ additional, session.answer (.reserve additional) = .ok () →
        (session.perform (.reserve additional)).array.capacity =
          if session.array.length + additional ≤ session.array.capacity then session.array.capacity
          else max (max (session.array.length + additional) (2 * session.array.capacity)) 4) ∧
      (Element.size T = 0 →
        (∀ {α : Type} (call : Call T α), (∃ fault, session.answer call = .error fault) ↔
          wordLimit ≤ session.array.length + call.asks) ∧
        ∀ requests, session.array.NeverAsks session.host requests) := by
  have valid := reached.valid
  refine ⟨valid.toList, valid.fits, ?_, ?_, ?_⟩
  · intro α call
    cases (valid.step call).2 with
    | answered answer capacity =>
      rw [capacity]
      exact ⟨(session.array.capacity_le_capacityFor call.asks).1, .inl answer⟩
    | refused answer full array contents keeps =>
      rw [array]
      exact ⟨Nat.le_refl _, .inr ⟨_, answer, full, rfl, contents, keeps⟩⟩
  · intro additional answered
    cases (valid.step (.reserve additional)).2 with
    | refused answer => cases answer.symm.trans answered
    | answered _ capacity =>
      rw [capacity]
      by_cases none : Element.size T = 0
      · have limit : wordMax + 1 = wordLimit := by decide
        have all := valid.unsized none
        have roomy : session.array.length + additional ≤ session.array.capacity := by
          by_contra large
          have asks : (Call.reserve additional : Call T Unit).asks = additional := rfl
          obtain ⟨fault, failed⟩ := (valid.fails_iff none (.reserve additional)).mpr (by omega)
          cases answered.symm.trans failed
        change session.array.capacityFor additional = _
        rw [capacityFor, if_pos roomy, if_pos roomy]
      · exact capacityFor_of_small none (valid.sized none).2 additional
  · intro none
    have capacity := valid.unsized none
    exact ⟨fun call => valid.fails_iff none call,
      neverAsks_of_unsized none capacity (capacity ▸ valid.fits) session.host⟩

/-- An array on a stack of 64 bytes has room for four numbers. Room for seventeen would take more bytes
than there are: that is refused, and the array holds what it held. -/
theorem refines_list_of_full_stack :
    ∃ session : Session UInt32 (Stack Value), session.Reachable ∧
      session.array.toList (memory session.host) = [7] ∧ session.array.capacity = 4 ∧
      (∃ fault, session.answer (.reserve 16) = .error fault) ∧
      (session.perform (.reserve 16)).array = session.array ∧
      Keeps session.host (session.perform (.reserve 16)).host session.array.address 16 ∧
      (session.perform (.reserve 3)).array.capacity = 4 := by
  have empty : Reachable ⟨.empty UInt32,
      (.empty ⟨64, 8, rfl, by decide, by decide, rfl, by decide⟩ .debug : Stack Value), []⟩ :=
    .unreserved (Stack.Session.Valid.of_empty _ _).sound
  have reached := empty.performed (.push 7)
  obtain ⟨contents, _, calls, reserved, _⟩ := reached.refines_list
  refine ⟨_, reached, contents, rfl, ⟨_, rfl⟩, ?_⟩
  rcases (calls (.reserve 16)).2 with answered | ⟨_, _, _, array, _, keeps⟩
  · cases answered
  · exact ⟨array, keeps (by decide) (by decide), reserved 3 rfl⟩

end Session
end Allotment.GrowArray
