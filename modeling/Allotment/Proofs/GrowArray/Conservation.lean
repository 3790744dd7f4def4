import Allotment.Proofs.GrowArray.Refinement
import Allotment.Proofs.Pool.Teardown

/-! Where the values of an array go. Each value that was put to an array is in it, or left it in exactly
one way: it found no room, it was handed back to the caller, or it was destroyed with all others when the
array was cleared or disposed of. The destructors that run are those of the values that were not handed
back. -/
namespace Allotment

/-- What came in is gone or still there, and a turn that keeps this balance leaves it so. -/
theorem balance_trans {T : Type} {taken gone held entering leaving after : List T}
    (balance : taken.Perm (gone ++ held)) (turn : (entering ++ held).Perm (leaving ++ after)) :
    (taken ++ entering).Perm (gone ++ leaving ++ after) := by
  have later := balance.append_right entering
  rw [List.append_assoc] at later ⊢
  exact later.trans ((List.perm_append_comm.trans turn).append_left gone)

namespace GrowArray
open Allocator Custody Effect
variable {Object σ T α : Type}

/-- How a value left an array, or did not get into it. -/
inductive Departure (T : Type) where
  /-- There was no room for it. -/
  | refused (value : T)
  | popped (value : T)
  /-- Another value was put in its place. -/
  | replaced (value : T)
  | cleared (value : T)
  /-- The array was disposed of. -/
  | disposed (value : T)

namespace Departure

def value : Departure T → T
  | refused value | popped value | replaced value | cleared value | disposed value => value

/-- The objects whose destructors run. A value that is handed back is not destroyed. -/
def destroys [Element Object T] : Departure T → List Object
  | refused value | cleared value | disposed value => Element.destructors value
  | popped _ | replaced _ => []

private theorem value_map_cleared (values : List T) : (values.map cleared).map value = values := by
  rw [List.map_map]
  exact List.map_id values

private theorem value_map_disposed (values : List T) : (values.map disposed).map value = values := by
  rw [List.map_map]
  exact List.map_id values

variable [Element Object T]

private theorem destroys_map_cleared (values : List T) :
    (values.map cleared).flatMap destroys = values.flatMap Element.destructors :=
  List.flatMap_map ..

private theorem destroys_map_disposed (values : List T) :
    (values.map disposed).flatMap destroys = values.flatMap Element.destructors :=
  List.flatMap_map ..

end Departure

namespace Call

/-- The values that a call takes from the caller, by its answer. A value that is to be put where there is
no element stays with the caller. -/
def enters : Call T α → Except Fault α → List T
  | push value, _ => [value]
  | replace _ value, .ok (some _) => [value]
  | _, _ => []

/-- What leaves an array of these contents in a call, by its answer. -/
def departs (contents : List T) : Call T α → Except Fault α → List (Departure T)
  | push value, .error _ => [.refused value]
  | pop, .ok (some value) => [.popped value]
  | replace _ _, .ok (some value) => [.replaced value]
  | clear, .ok _ => contents.map .cleared
  | _, _ => []

private theorem balance_onList (call : Call T α) (list : List T) :
    (call.enters (.ok (call.onList list).1) ++ list).Perm
      ((call.departs list (.ok (call.onList list).1)).map Departure.value ++ (call.onList list).2) := by
  cases call with
  | push value => exact List.perm_append_comm
  | pop =>
    rcases List.eq_nil_or_concat list with rfl | ⟨first, last, rfl⟩
    · exact .refl []
    · have rotated : (first ++ [last]).Perm ([last] ++ first) := List.perm_append_comm
      rw [onList, List.concat_eq_append, List.getLast?_concat, List.dropLast_concat]
      exact rotated
  | get index => exact .refl list
  | replace index value =>
    rw [onList]
    by_cases inside : index < list.length
    · rw [List.getElem?_eq_getElem inside]
      have old := List.getElem_cons_eraseIdx_perm inside
      have new := List.set_perm_cons_eraseIdx inside value
      exact (old.symm.cons value).trans ((List.Perm.swap _ _ _).trans (new.symm.cons _))
    · have behind := Nat.le_of_not_lt inside
      rw [List.getElem?_eq_none behind, List.set_eq_of_length_le behind]
      exact .refl list
  | rearrange order permutes => exact (permutes list).symm
  | reserve additional => exact .refl list
  | clear =>
    rw [departs, Departure.value_map_cleared]
    exact List.perm_append_comm

/-- A call that fails leaves every value where it was, but for the one it was to put in. -/
private theorem balance_error (call : Call T α) (fault : Fault) (list : List T) :
    (call.enters (.error fault) ++ list).Perm
      ((call.departs list (.error fault)).map Departure.value ++ list) := by
  cases call <;> exact .refl _

end Call

section Destruction
variable [Allocator Object σ] [Element Object T] {array : GrowArray T} {host : σ}

/-- The array is emptied in order, and what is left to do destroys nothing, whether the block is taken
back or not. -/
theorem destroyed_dispose [DiscreetAllocator Object σ] (array : GrowArray T) (host : σ) :
    destroyedObjects (dispose.run (array, host)).effects =
        (array.toList (memory host)).flatMap Element.destructors ∧
      (dispose.run (array, host)).state.1.length = 0 := by
  rw [dispose, Step.run_bind_of_ok run_clear, Step.run_bind_of_quiet (Step.run_get _)]
  dsimp only
  rw [destroyedObjects_append, destroyedObjects_destroyed]
  split
  · have quiet : destroyedObjects
        ((Allocator.releaseArray array.address : Step Object σ Unit).run host).effects = [] :=
      destroyedObjects_of_incidental (DiscreetAllocator.release _ host)
    refine ⟨?_, rfl⟩
    change _ ++ destroyedObjects
      ((Allocator.releaseArray array.address : Step Object σ Unit).run host).effects = _
    rw [quiet, List.append_nil]
  · exact ⟨List.append_nil _, rfl⟩

/-- The destructors that run in a call are those of what leaves the array without being handed back. -/
theorem destroyed_call [DiscreetAllocator Object σ] (fits : array.length ≤ array.capacity)
    (call : Call T α) :
    destroyedObjects (call.operation.run (array, host)).effects =
      (call.departs (array.toList (memory host))
        (call.operation.run (array, host)).result).flatMap Departure.destroys := by
  have quiet (additional : Nat) : destroyedObjects
      ((GrowArray.reserve additional).run (array, host)).effects = [] :=
    destroyedObjects_of_incidental (discreet_reserve additional _)
  cases call with
  | push value =>
    rcases Nat.lt_or_eq_of_le fits with room | full
    · rw [Call.operation, run_push_of_room room]
      rfl
    · have grown := quiet 1
      rcases ran : (GrowArray.reserve 1).run (array, host) with ⟨fault | _, ⟨larger, last⟩, done⟩ <;>
        rw [ran] at grown
      · rw [Call.operation, run_push_of_refused full ran, destroyedObjects_append, grown,
          destroyedObjects_destroyed]
        exact (List.append_nil _).symm
      · rw [Call.operation, run_push_of_grown full ran]
        exact grown
  | pop =>
    rw [Call.operation]
    by_cases none : array.length = 0
    · rw [run_pop_of_empty none]
      rfl
    · rw [run_pop_of_filled none]
      cases (array.toList (memory host)).getLast? <;> rfl
  | get index => rfl
  | replace index value =>
    have kept := destroyedObjects_of_incidental (discreet_replace index value (array, host))
    rw [Call.operation, kept]
    rcases ((GrowArray.replace index value).run (array, host)).result with fault | _ | old <;> rfl
  | rearrange order permutes => rfl
  | reserve additional => exact quiet additional
  | clear =>
    rw [Call.operation, run_clear, destroyedObjects_destroyed, Call.departs,
      Departure.destroys_map_cleared]

end Destruction

namespace Session
variable [Allocator Object σ] [Element Object T] [Custody σ] {session : Session T σ} {taken : List T}
  {departed : List (Departure T)} {destroyed : List Object}

/-- The runs of an array on any allocator, with the values that were put to it so far, how values left it,
and the objects whose destructors ran in its calls. Faults are caught, and others use the allocator in
between. -/
inductive History : Session T σ → List T → List (Departure T) → List Object → Prop where
  | unreserved {host : σ} (sound : Sound host) : History ⟨.empty T, host, []⟩ [] [] []
  | reserved {host last : σ} {before array : GrowArray T} {capacity : Nat}
      {done : List (Effect Object)} (sound : Sound host)
      (built : (createWithCapacity capacity).run (before, host) = ⟨.ok (), (array, last), done⟩) :
      History ⟨array, last, []⟩ [] [] (destroyedObjects done)
  | performed {session : Session T σ} {taken : List T} {departed : List (Departure T)}
      {destroyed : List Object} {α : Type} (history : History session taken departed destroyed)
      (call : Call T α) :
      History (session.perform call) (taken ++ call.enters (session.answer call))
        (departed ++ call.departs session.contents (session.answer call))
        (destroyed ++
          destroyedObjects (call.operation.run (session.array, session.host)).effects)
  | disturbed {session : Session T σ} {taken : List T} {departed : List (Departure T)}
      {destroyed : List Object} {last : σ} (history : History session taken departed destroyed)
      (sound : Sound last)
      (keeps : Element.size T ≠ 0 → session.array.capacity ≠ 0 →
        Keeps session.host last session.array.address
          (Element.size T * session.array.capacity)) :
      History { session with host := last } taken departed destroyed

namespace History

theorem reachable (history : History session taken departed destroyed) : session.Reachable := by
  induction history with
  | unreserved sound => exact .unreserved sound
  | reserved sound built => exact .reserved sound built
  | performed _ call ih => exact .performed ih call
  | disturbed _ sound keeps ih => exact .disturbed ih sound keeps

variable [LawfulAllocator Object σ] [LawfulMemory Object σ] [BoundedAllocator Object σ]
  [LawfulElement Object T]

theorem balance (history : History session taken departed destroyed) :
    taken.Perm (departed.map Departure.value ++ session.contents) := by
  induction history with
  | unreserved => exact .refl []
  | reserved => exact .refl []
  | @performed session taken departed destroyed _ history call ih =>
    rw [List.map_append]
    refine balance_trans ih ?_
    cases answered : session.answer call with
    | ok answer =>
      have valid := history.reachable.valid
      have listed : answer = (call.onList session.contents).1 := by
        cases (valid.step call).2 with
        | answered same =>
          rw [same] at answered
          exact (Except.ok.inj answered).symm
        | refused failed =>
          rw [failed] at answered
          cases answered
      rw [perform, answered, listed]
      exact call.balance_onList session.contents
    | error fault =>
      rw [perform, answered]
      exact call.balance_error fault session.contents
  | disturbed _ _ _ ih => exact ih

variable [DiscreetAllocator Object σ]

theorem destroyed_eq (history : History session taken departed destroyed) :
    destroyed = departed.flatMap Departure.destroys := by
  induction history with
  | unreserved => rfl
  | @reserved host last before array capacity done sound built =>
    have quiet := destroyedObjects_of_incidental (discreet_reserve capacity (GrowArray.empty T, host))
    rwa [← run_createWithCapacity before, built] at quiet
  | performed history call ih =>
    have valid := history.reachable.valid
    rw [List.flatMap_append, ← ih, destroyed_call valid.fits call, valid.toList]
    rfl
  | disturbed _ _ _ ih => exact ih

/-- Each value that was put to an array left it once or is still in it. The destructors that run are those of
the values that were not handed back, in the order in which they left. -/
theorem each_value_once (history : History session taken departed destroyed) :
    session.array.toList (memory session.host) = session.contents ∧
    taken.Perm (departed.map Departure.value ++ session.contents) ∧
    destroyed = departed.flatMap Departure.destroys ∧
    (∀ additional, destroyedObjects
      ((reserve additional).run (session.array, session.host)).effects = []) ∧
    (∀ value, session.answer (.push value) = .ok () →
      destroyedObjects ((push value).run (session.array, session.host)).effects = []) ∧
    destroyedObjects (clear.run (session.array, session.host)).effects =
      session.contents.flatMap Element.destructors ∧
    destroyedObjects (dispose.run (session.array, session.host)).effects =
      session.contents.flatMap Element.destructors ∧
    (dispose.run (session.array, session.host)).state.1.length = 0 ∧
    taken.Perm ((departed ++ session.contents.map Departure.disposed).map Departure.value) ∧
    destroyed ++ destroyedObjects (dispose.run (session.array, session.host)).effects =
      (departed ++ session.contents.map Departure.disposed).flatMap Departure.destroys := by
  have valid := history.reachable.valid
  have balance := history.balance
  have eq := history.destroyed_eq
  obtain ⟨disposed, empty⟩ := destroyed_dispose session.array session.host
  rw [valid.toList] at disposed
  refine ⟨valid.toList, balance, eq, fun additional => ?_, fun value answered => ?_, ?_, disposed, empty,
    ?_, ?_⟩
  · exact destroyed_call valid.fits (.reserve additional)
  · have destroyed : _ = ((Call.push value).departs _ (session.answer (.push value))).flatMap _ :=
      destroyed_call valid.fits (.push value)
    rwa [answered] at destroyed
  · rw [run_clear, destroyedObjects_destroyed, valid.toList]
  · rwa [List.map_append, Departure.value_map_disposed]
  · rw [List.flatMap_append, Departure.destroys_map_disposed, disposed, eq]

/-- A stack of 64 bytes with an array of two marks, one of which was replaced and the other popped. -/
def twoMarks : Session Tracked (Stack Value) :=
  ((((⟨.empty Tracked, .empty ⟨64, 8, rfl, by decide, by decide, rfl, by decide⟩ .debug, []⟩ :
    Session Tracked (Stack Value)).perform (.push ⟨1⟩)).perform (.push ⟨2⟩)).perform
      (.replace 0 ⟨3⟩)).perform .pop

/-- A block was pushed above that of the array, which was then filled until it found no room. -/
def covered : Session Tracked (Stack Value) :=
  ((({ twoMarks with host := ((Stack.push 8).run twoMarks.host).state }.perform
    (.push ⟨4⟩)).perform (.push ⟨5⟩)).perform (.push ⟨6⟩)).perform (.push ⟨7⟩)

/-- The block of the array cannot be taken back, since it is not on top: that is a misuse, and by then the
four marks in it have been destroyed in order. -/
theorem each_value_once_of_covered :
    ∃ taken departed destroyed, History covered taken departed destroyed ∧
      taken = [⟨1⟩, ⟨2⟩, ⟨3⟩, ⟨4⟩, ⟨5⟩, ⟨6⟩, ⟨7⟩] ∧
      departed = [.replaced ⟨1⟩, .popped ⟨2⟩, .refused ⟨7⟩] ∧ destroyed = [.tracked ⟨7⟩] ∧
      (dispose.run (covered.array, covered.host)).result = .error (.aborted
        (.violation Stack.component (StackMisuse.releaseOutOfOrder 8 32).details)) ∧
      destroyedObjects (dispose.run (covered.array, covered.host)).effects =
        [.tracked ⟨3⟩, .tracked ⟨4⟩, .tracked ⟨5⟩, .tracked ⟨6⟩] ∧
      taken.Perm ((departed ++ covered.contents.map Departure.disposed).map Departure.value) := by
  have empty : History (⟨.empty Tracked,
      .empty ⟨64, 8, rfl, by decide, by decide, rfl, by decide⟩ .debug, []⟩ :
      Session Tracked (Stack Value)) [] [] [] := .unreserved (Stack.Session.Valid.of_empty _ _).sound
  have two : History twoMarks _ _ _ :=
    (((empty.performed (.push ⟨1⟩)).performed (.push ⟨2⟩)).performed (.replace 0 ⟨3⟩)).performed .pop
  obtain ⟨owned, _⟩ := two.reachable.valid.sized (by decide)
  have acquired := LawfulCustody.allocate owned.sound 8
  have above := two.disturbed acquired.sound fun _ some => acquired.kept _ _ (owned.held some)
  have full : History covered _ _ _ :=
    (((above.performed (.push ⟨4⟩)).performed (.push ⟨5⟩)).performed (.push ⟨6⟩)).performed
      (.push ⟨7⟩)
  obtain ⟨_, _, _, _, _, _, disposed, _, all, _⟩ := full.each_value_once
  refine ⟨_, _, _, full, ?_, ?_, ?_, ?_, ?_, all⟩
  · rfl
  · rfl
  · rfl
  · rfl
  · rw [disposed]
    rfl

end History
end Session
end GrowArray
end Allotment
