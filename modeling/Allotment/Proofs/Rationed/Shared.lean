import Mathlib.Logic.Function.Basic
import Allotment.Proofs.Rationed.Blocks
import Allotment.Proofs.Rationed.Containers

namespace Allotment.Rationed
open Allocator Custody
variable {Object σ : Type} {kinds : Nat → ContainerKind Object}

/-- Who can own blocks: the holder of a raw block, or a container. -/
inductive Party where
  | holder (name : Nat)
  | container (name : Nat)

/-- An allocator, the raw blocks on it and the containers. What kind a container is of goes by its name. -/
structure Shared (kinds : Nat → ContainerKind Object) (σ : Type) where
  host : σ
  raw : Nat → Option RawBlock
  containers : (name : Nat) → Option (kinds name).Carrier

/-- What is seen of the raw blocks and of the containers, and how many blocks are live. -/
@[ext]
structure View (kinds : Nat → ContainerKind Object) where
  raw : Nat → Option (BlockView Object)
  containers : (name : Nat) → Option (kinds name).View
  live : Nat

namespace View

/-- Another raw block is under a name, or none. -/
def putRaw (view : View kinds) (name : Nat) (block : Option (BlockView Object)) : View kinds :=
  { view with
    raw := Function.update view.raw name block
    live := view.live + block.toList.length - (view.raw name).toList.length }

/-- Another container is under a name, or none. -/
def putContainer (view : View kinds) (name : Nat) (container : Option (kinds name).View) : View kinds :=
  { view with
    containers := Function.update view.containers name container
    live := view.live + container.elim 0 (kinds name).blocks -
      (view.containers name).elim 0 (kinds name).blocks }

end View

namespace Shared

def own (shared : Shared kinds σ) : Party → List Nat
  | .holder name => ((shared.raw name).map RawBlock.address).toList
  | .container name => (shared.containers name).elim [] (kinds name).own

def putRaw (shared : Shared kinds σ) (name : Nat) (block : Option RawBlock) (host : σ) :
    Shared kinds σ :=
  { shared with host, raw := Function.update shared.raw name block }

def putContainer (shared : Shared kinds σ) (name : Nat) (container : Option (kinds name).Carrier)
    (host : σ) : Shared kinds σ :=
  { shared with host, containers := Function.update shared.containers name container }

variable [Allocator Object σ] [Rationed σ]

def view (shared : Shared kinds σ) : View kinds where
  raw name := (shared.raw name).map (RawBlock.view · (memory shared.host))
  containers name := (shared.containers name).map ((kinds name).view · (memory shared.host))
  live := live shared.host

variable [Custody σ]

/-- Every raw block is held, every container is in order, and no block belongs to two. -/
structure Valid (shared : Shared kinds σ) : Prop where
  ready : Ready shared.host
  held : ∀ name block, shared.raw name = some block → block.Held shared.host
  inOrder : ∀ name carrier, shared.containers name = some carrier →
    (kinds name).InOrder carrier shared.host
  apart : ∀ party other address, address ∈ shared.own party → address ∈ shared.own other →
    party = other

variable {shared next : Shared kinds σ} {party : Party} {name : Nat}

omit [Allocator Object σ] [Rationed σ] [Custody σ] in
theorem own_holder {block : Option RawBlock} (placed : shared.raw name = block) :
    shared.own (.holder name) = (block.map RawBlock.address).toList := by
  rw [own, placed]

omit [Allocator Object σ] [Rationed σ] [Custody σ] in
theorem own_container {container : Option (kinds name).Carrier}
    (placed : shared.containers name = container) :
    shared.own (.container name) = container.elim [] (kinds name).own := by
  rw [own, placed]

theorem Valid.holds (valid : shared.Valid) {address : Nat} (mine : address ∈ shared.own party) :
    ∃ size, Holds shared.host address size := by
  cases party with
  | holder name =>
    obtain ⟨_, placed, rfl⟩ := Option.mem_toList.mp mine |> Option.map_eq_some_iff.mp
    exact ⟨_, (valid.held name _ placed).holds⟩
  | container name =>
    cases placed : shared.containers name with
    | none =>
      rw [own_container placed] at mine
      cases mine
    | some carrier =>
      rw [own_container placed] at mine
      exact (valid.inOrder name carrier placed).holds mine

/-- A party took its turn: what others have is untouched, and what it has itself is in order. -/
structure Moved (shared : Shared kinds σ) (party : Party) (next : Shared kinds σ) : Prop where
  turn : Turn (shared.own party) (next.own party) shared.host next.host
  raw : ∀ name, party ≠ .holder name → next.raw name = shared.raw name
  containers : ∀ name, party ≠ .container name → next.containers name = shared.containers name
  held : ∀ name block, party = .holder name → next.raw name = some block → block.Held next.host
  inOrder : ∀ name carrier, party = .container name → next.containers name = some carrier →
    (kinds name).InOrder carrier next.host

namespace Moved

theorem own_eq (moved : shared.Moved party next) {other : Party} (foreign : party ≠ other) :
    next.own other = shared.own other := by
  cases other with
  | holder name => rw [own, own, moved.raw name foreign]
  | container name => rw [own, own, moved.containers name foreign]

variable (moved : shared.Moved party next) (valid : shared.Valid)
include moved valid

/-- Nobody else's block is touched. -/
theorem kept {other : Party} (foreign : party ≠ other) {address size : Nat}
    (mine : address ∈ shared.own other) (held : Holds shared.host address size) :
    Keeps shared.host next.host address size :=
  moved.turn.kept address size (fun own => foreign (valid.apart _ _ address own mine)) held

theorem spared_holder (foreign : party ≠ .holder name) {block : RawBlock}
    (placed : shared.raw name = some block) :
    block.Held next.host ∧ block.view (memory next.host) = block.view (memory shared.host) := by
  have held := valid.held name block placed
  refine held.kept (moved.kept valid foreign ?_ held.holds)
  rw [own_holder placed]
  exact List.mem_singleton_self _

theorem spared_container (foreign : party ≠ .container name) {carrier : (kinds name).Carrier}
    (placed : shared.containers name = some carrier) :
    (kinds name).InOrder carrier next.host ∧
      (kinds name).view carrier (memory next.host) = (kinds name).view carrier (memory shared.host) := by
  refine (valid.inOrder name carrier placed).spared moved.turn.sound ?_
  intro address mine size held
  refine moved.kept valid foreign ?_ held
  rw [own_container placed]
  exact mine

theorem apart_of_mine {other : Party} {address : Nat} (mine : address ∈ next.own party)
    (others : address ∈ next.own other) : party = other := by
  by_contra foreign
  rw [moved.own_eq foreign] at others
  obtain ⟨size, held⟩ := valid.holds others
  have outside : address ∉ shared.own party := fun old =>
    foreign (valid.apart _ _ address old others)
  exact moved.turn.fresh address size outside held mine

/-- Turns keep everything in order. -/
theorem valid_after : next.Valid := by
  refine ⟨⟨moved.turn.sound, moved.turn.lenient valid.ready.lenient⟩, ?_, ?_, ?_⟩
  · intro name block placed
    by_cases mine : party = .holder name
    · exact moved.held name block mine placed
    · rw [moved.raw name mine] at placed
      exact (moved.spared_holder valid mine placed).1
  · intro name carrier placed
    by_cases mine : party = .container name
    · exact moved.inOrder name carrier mine placed
    · rw [moved.containers name mine] at placed
      exact (moved.spared_container valid mine placed).1
  -- The party that moved gained no block that another kept, and the others own what they owned.
  · intro first second address mine others
    by_cases first' : party = first
    · exact first' ▸ moved.apart_of_mine valid (first'.symm ▸ mine) others
    · by_cases second' : party = second
      · exact (second' ▸ moved.apart_of_mine valid (second'.symm ▸ others) mine).symm
      · rw [moved.own_eq first'] at mine
        rw [moved.own_eq second'] at others
        exact valid.apart first second address mine others

end Moved

section Puts
variable {last : σ}

theorem moved_holder {old block : Option RawBlock} (placed : shared.raw name = old)
    (turn : Turn (old.map RawBlock.address).toList (block.map RawBlock.address).toList shared.host last)
    (held : ∀ new, block = some new → new.Held last) :
    shared.Moved (.holder name) (shared.putRaw name block last) := by
  have here : (shared.putRaw name block last).raw name = block := Function.update_self ..
  refine ⟨?_, fun other foreign => ?_, fun _ _ => rfl, ?_, nofun⟩
  · rw [own_holder placed, own_holder here]
    exact turn
  · exact Function.update_of_ne (fun same => foreign (congrArg Party.holder same.symm)) ..
  · rintro _ new ⟨⟩ found
    exact held new (here.symm.trans found)

theorem moved_container {old container : Option (kinds name).Carrier}
    (placed : shared.containers name = old)
    (turn : Turn (old.elim [] (kinds name).own) (container.elim [] (kinds name).own) shared.host last)
    (inOrder : ∀ carrier, container = some carrier → (kinds name).InOrder carrier last) :
    shared.Moved (.container name) (shared.putContainer name container last) := by
  have here : (shared.putContainer name container last).containers name = container :=
    Function.update_self ..
  refine ⟨?_, fun _ _ => rfl, fun other foreign => ?_, nofun, ?_⟩
  · rw [own_container placed, own_container here]
    exact turn
  · exact Function.update_of_ne (fun same => foreign (congrArg Party.container same.symm)) ..
  · rintro _ carrier ⟨⟩ found
    exact inOrder carrier (here.symm.trans found)

namespace Valid
variable (valid : shared.Valid)
include valid

/-- After the turn of a holder all looks as it did, but for its block. -/
theorem view_putRaw {old block : Option RawBlock} (placed : shared.raw name = old)
    (turn : Turn (old.map RawBlock.address).toList (block.map RawBlock.address).toList shared.host last)
    (held : ∀ new, block = some new → new.Held last) :
    (shared.putRaw name block last).Valid ∧ (shared.putRaw name block last).view =
      shared.view.putRaw name (block.map (RawBlock.view · (memory last))) := by
  have moved := moved_holder placed turn held
  refine ⟨moved.valid_after valid, View.ext (funext fun other => ?_) (funext fun other => ?_) ?_⟩
  · by_cases same : other = name
    · subst same
      simp only [Shared.view, putRaw, View.putRaw, Function.update_self]
    · simp only [Shared.view, putRaw, View.putRaw, Function.update_of_ne same]
      refine Option.map_congr fun found present => ?_
      exact (moved.spared_holder valid (by rintro ⟨⟩; exact same rfl) present).2
  · refine Option.map_congr fun found present => ?_
    exact (moved.spared_container valid nofun present).2
  · have counted := turn.counted
    simp only [Shared.view, putRaw, View.putRaw, placed, Option.toList_map, List.length_map] at counted ⊢
    omega

theorem view_putContainer {old container : Option (kinds name).Carrier}
    (placed : shared.containers name = old)
    (turn : Turn (old.elim [] (kinds name).own) (container.elim [] (kinds name).own) shared.host last)
    (inOrder : ∀ carrier, container = some carrier → (kinds name).InOrder carrier last) :
    (shared.putContainer name container last).Valid ∧ (shared.putContainer name container last).view =
      shared.view.putContainer name (container.map ((kinds name).view · (memory last))) := by
  have moved := moved_container placed turn inOrder
  have count (any : Option (kinds name).Carrier) (memory : Memory Object) :
      (any.map ((kinds name).view · memory)).elim 0 (kinds name).blocks =
        (any.elim [] (kinds name).own).length := by
    cases any with
    | none => rfl
    | some carrier => exact (kinds name).blocks_view carrier memory
  refine ⟨moved.valid_after valid, View.ext (funext fun other => ?_) (funext fun other => ?_) ?_⟩
  · refine Option.map_congr fun found present => ?_
    exact (moved.spared_holder valid nofun present).2
  · by_cases same : other = name
    · subst same
      simp only [Shared.view, putContainer, View.putContainer, Function.update_self]
    · simp only [Shared.view, putContainer, View.putContainer, Function.update_of_ne same]
      refine Option.map_congr fun found present => ?_
      exact (moved.spared_container valid (by rintro ⟨⟩; exact same rfl) present).2
  · have counted := turn.counted
    simp only [Shared.view, putContainer, View.putContainer, placed, count] at counted ⊢
    omega

end Valid
end Puts
end Shared
end Allotment.Rationed
