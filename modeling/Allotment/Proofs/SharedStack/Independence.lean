import Allotment.Element.Value
import Allotment.Proofs.SharedStack.Session

namespace Allotment.SharedStack
open Allocator Custody
variable {Object : Type} {session : SharedStack Object}

/-- What each of the parties that share a stack can rely on, whatever the others do. -/
structure Independent (session : SharedStack Object) : Prop where
  /-- Another party's turn leaves a container as it is, with all that can be seen of it. -/
  spared : ∀ {party : Option Nat} {next : SharedStack Object}, session.Moves party next →
    ∀ {name : Nat} {container : Container Object}, party ≠ some name →
      session.containers name = some container →
        next.containers name = some container ∧
          container.view next.stack.memory = container.view session.stack.memory
  /-- What a call that needs no new storage leads to depends only on what is seen of the container, and
  for a full pool on whether the stack fails fast. -/
  answered : ∀ {name : Nat} {container : Container Object},
    session.containers name = some container →
      ∀ {α : Type} (call : container.kind.Call α),
        call.Roomy (container.view session.stack.memory) →
          session.outcome container call =
            call.onView (failsFast session.stack) (container.view session.stack.memory)
  /-- So it is the same in any other session that shows the same container, such as one where the
  container is alone. -/
  alone : ∀ {name : Nat} {container : Container Object},
    session.containers name = some container →
      ∀ {other : SharedStack Object} {place : Nat} {carrier : container.kind.Carrier},
        other.Reachable → other.containers place = some ⟨container.kind, carrier⟩ →
          failsFast other.stack = failsFast session.stack →
          container.kind.view carrier other.stack.memory = container.view session.stack.memory →
            ∀ {α : Type} (call : container.kind.Call α),
              call.Roomy (container.view session.stack.memory) →
                session.outcome container call = other.outcome ⟨container.kind, carrier⟩ call
  /-- A container whose block is not on top cannot grow: that is a misuse of the stack, or more bytes
  than a word counts, and nothing changes. -/
  below : ∀ {name : Nat} {container : Container Object},
    session.containers name = some container →
      ∀ {address : Nat}, address ∈ container.own → address ≠ session.stack.top →
        ∀ {α : Type} (call : container.kind.Call α),
          ¬ call.Roomy (container.view session.stack.memory) →
            (session.outcome container call).1 = .error (call.growthFault container.carrier) ∧
              session.afterCall name container call = session
  /-- Once there are no containers and no raw blocks, nothing is handed out. -/
  restored : (∀ name, session.containers name = none) → session.raw = [] →
    session.stack.offsets = ⟨0, 0⟩

private theorem put_self {name : Nat} {container : Container Object}
    (placed : session.containers name = some container) :
    session.put name (some container) session.stack = session := by
  rw [put, ← placed, Function.update_eq_self]

namespace Valid
variable (valid : session.Valid) {name : Nat} {container : Container Object}
  (placed : session.containers name = some container)
include valid placed

theorem outcome_of_roomy {α : Type} (call : container.kind.Call α)
    (roomy : call.Roomy (container.view session.stack.memory)) :
    session.outcome container call =
      call.onView (failsFast session.stack) (container.view session.stack.memory) :=
  (valid.housed name container placed).answered call roomy

theorem unchanged_below {address : Nat} (mine : address ∈ container.own)
    (below : address ≠ session.stack.top) {α : Type} (call : container.kind.Call α)
    (needs : ¬ call.Roomy (container.view session.stack.memory)) :
    (session.outcome container call).1 = .error (call.growthFault container.carrier) ∧
      session.afterCall name container call = session := by
  obtain ⟨done, ran⟩ := (valid.housed name container placed).run_below mine below call needs
  rw [outcome, afterCall, ran]
  exact ⟨rfl, put_self placed⟩

end Valid

/-- In every session that begins with a new stack, whichever containers are built on it and whatever is
done with them and with raw blocks, in any order, the parties are independent. -/
theorem Reachable.independent (reached : session.Reachable) : session.Independent := by
  have valid := reached.valid
  refine ⟨?_, ?_, ?_, ?_, ?_⟩
  · intro party next moves name container foreign placed
    have moved := valid.moved moves
    exact ⟨(moved.containers name foreign).trans placed, (moved.spared valid foreign placed).2⟩
  · intro name container placed α call roomy
    exact valid.outcome_of_roomy placed call roomy
  · intro name container placed other place carrier reached' placed' same shown α call roomy
    have shown' : Container.view ⟨container.kind, carrier⟩ other.stack.memory =
      container.view session.stack.memory := shown
    have theirs := reached'.valid.outcome_of_roomy placed' call
    rw [shown', same] at theirs
    rw [valid.outcome_of_roomy placed call roomy, theirs roomy]
  · intro name container placed address mine below α call needs
    exact valid.unchanged_below placed mine below call needs
  · intro bare raw
    refine valid.offsets_of_bare fun party => ?_
    cases party with
    | none => exact raw
    | some name => exact own_vacant (bare name)

/-- An array's block lies on a raw block, and a pool's on the array's. The array has room for four
numbers and takes a second one, but it cannot get room for more. Once the pool and the array are disposed
of and the raw block is given back, nothing is handed out. -/
theorem independent_of_pool_above_array :
    ∃ (session last : SharedStack Value) (array : GrowArray UInt32), session.Reachable ∧
      session.raw = [8] ∧ session.containers 0 = some ⟨.array UInt32, array⟩ ∧ array.own = [24] ∧
      session.stack.top = 48 ∧ array.toList session.stack.memory = [7] ∧
      session.outcome ⟨.array UInt32, array⟩ (.array (.push 8)) =
        (.ok (), (⟨[7, 8], 4⟩ : ArrayView UInt32)) ∧
      (session.outcome ⟨.array UInt32, array⟩ (.array (.reserve 4))).1 = .error (.aborted
        (.violation Stack.component (StackMisuse.growBelowTop 24 16 32).details)) ∧
      session.afterCall 0 ⟨.array UInt32, array⟩ (.array (.reserve 4)) = session ∧
      last.Reachable ∧ last.stack.offsets = ⟨0, 0⟩ := by
  have built : (Stack.create 256 8 .debug : Step Value Unit (Stack Value)).run () =
      ⟨.ok (.empty ⟨256, 8, rfl, by decide, by decide, rfl, by decide⟩ .debug), (),
        [.logged (.stackCreated 256 8 .debug)]⟩ := rfl
  have acquired := (Reachable.created built).moved (.raw (.allocate 8)
    ⟨fun bulk => bulk.elim, fun _ addressed => addressed.elim, fun _ target => target.elim⟩)
  have pushed := (acquired.moved (.built 0 rfl (.array UInt32) none)).moved
    (.called 0 ⟨.array UInt32, GrowArray.empty UInt32⟩ rfl (.array (.push 7)))
  have reached := (pushed.moved (.built 1 rfl (.pool UInt32) none)).moved
    (.called 1 ⟨.pool UInt32, Pool.empty UInt32 .standard⟩ rfl (.pool (.insert 5)))
  have emptied := (reached.moved (.disposed 1 ⟨.pool UInt32,
      (⟨⟨48, 4, 1⟩, none, 1, .standard⟩ : Pool UInt32)⟩ rfl (by decide))).moved
    (.disposed 0 ⟨.array UInt32, (⟨24, 4, 1⟩ : GrowArray UInt32)⟩ rfl (by decide))
  have released := emptied.moved (.raw (.release (some 8))
    ⟨fun bulk => bulk.elim, by rintro _ _ (_ | _ | _) ⟨⟩, fun _ target => target.elim⟩)
  obtain ⟨_, answered, _, below, _⟩ := reached.independent
  obtain ⟨refused, unchanged⟩ := below
    (show containers _ 0 = some ⟨.array UInt32, (⟨24, 4, 1⟩ : GrowArray UInt32)⟩ from rfl)
    (show 24 ∈ _ by decide) (by decide) (.array (.reserve 4)) (by decide)
  have fault : (⟨24, 4, 1⟩ : GrowArray UInt32).growthFault 4 = .aborted
      (.violation Stack.component (StackMisuse.growBelowTop 24 16 32).details) := rfl
  refine ⟨_, _, ⟨24, 4, 1⟩, reached, rfl, rfl, rfl, rfl, rfl, ?_, ?_, unchanged, released, ?_⟩
  · exact answered (show containers _ 0 = some _ from rfl) _ (by decide)
  · exact refused.trans (congrArg Except.error fault)
  · refine released.independent.restored ?_ rfl
    rintro (_ | _ | _) <;> rfl

end Allotment.SharedStack
