import Allotment.Proofs.Rationed.Shared

/-! Programs on a rationed allocator: raw blocks, arrays and pools, in any order, with every fault caught, and
with each move up to what the earlier ones answered. What a program is answered and what is seen at its end
follow from the ration and from what was seen at its start; so two allocators of one ration cannot be told
apart. -/
namespace Allotment.Rationed
open Allocator Custody
variable {Object σ τ α : Type} {kinds : Nat → ContainerKind Object}

/-- What a program may do next. -/
inductive Move (kinds : Nat → ContainerKind Object) : Type → Type 1 where
  /-- A request for the raw block under a name; it is answered whether there is one then. -/
  | request (name : Nat) (request : Request) : Move kinds Bool
  | store (name position : Nat) (cell : Cell Object) : Move kinds Unit
  /-- A byte that the holder of a block knows is read. -/
  | load (name position : Nat) : Move kinds (Cell Object)
  | build (name : Nat) (plan : (kinds name).Plan) : Move kinds Unit
  | call {α : Type} (name : Nat) (call : (kinds name).Call α) : Move kinds α
  | retire (name : Nat) : Move kinds (kinds name).Receipt

namespace Shared
variable [Allocator Object σ]

/-- What a move is answered, and all there is after it. A move that makes no sense is passed over: a request
that its block does not permit, a byte outside a block or one that was never written, a container that is
missing, or that is in the way of a new one. -/
def perform (shared : Shared kinds σ) : Move kinds α → Option (Except Fault α) × Shared kinds σ
  | .request name request =>
    if request.permitted ((shared.raw name).map RawBlock.size) then
      let ran := (request.operation ((shared.raw name).map RawBlock.address)).run shared.host
      (some (ran.result.map Option.isSome),
        shared.putRaw name (request.block (shared.raw name) ran.result) ran.state)
    else (none, shared)
  | .store name position cell =>
    match shared.raw name with
    | some block =>
      if position < block.size then
        (some (.ok ()), shared.putRaw name (some (block.written position)) (withMemory shared.host
          ((memory shared.host).store (block.address + position) cell)))
      else (none, shared)
    | none => (none, shared)
  | .load name position =>
    match shared.raw name with
    | some block => ((block.cells (memory shared.host) position).map .ok, shared)
    | none => (none, shared)
  | .build name plan =>
    match shared.containers name with
    | some _ => (none, shared)
    | none =>
      let ran := ((kinds name).assemble plan).run ((kinds name).blank, shared.host)
      (some ran.result,
        shared.putContainer name (ran.result.toOption.map fun _ => ran.state.1) ran.state.2)
  | .call name call =>
    match shared.containers name with
    | some carrier =>
      let ran := call.step.run (carrier, shared.host)
      (some ran.result, shared.putContainer name (some ran.state.1) ran.state.2)
    | none => (none, shared)
  | .retire name =>
    match shared.containers name with
    | some carrier =>
      let ran := (kinds name).retire.run (carrier, shared.host)
      (some ran.result, shared.putContainer name none ran.state.2)
    | none => (none, shared)

end Shared

/-- What a move is answered, and what is seen after it, by the ration and by what was seen before. -/
def View.perform (ration : Ration) (view : View kinds) :
    Move kinds α → Option (Except Fault α) × View kinds
  | .request name request =>
    if request.permitted ((view.raw name).map BlockView.size) then
      let (answer, block) := request.onView ration (view.raw name)
      (some answer, view.putRaw name block)
    else (none, view)
  | .store name position cell =>
    match view.raw name with
    | some block =>
      if position < block.size then
        (some (.ok ()), view.putRaw name (some (block.written position cell)))
      else (none, view)
    | none => (none, view)
  | .load name position =>
    match view.raw name with
    | some block => ((block.cells position).map .ok, view)
    | none => (none, view)
  | .build name plan =>
    match view.containers name with
    | some _ => (none, view)
    | none =>
      let built := (kinds name).assembleOnRation ration plan
      (some (built.map fun _ => ()), view.putContainer name built.toOption)
  | .call name call =>
    match view.containers name with
    | some container =>
      let (answer, after) := call.onRation ration container
      (some answer, view.putContainer name (some after))
    | none => (none, view)
  | .retire name =>
    match view.containers name with
    | some container =>
      (some (.ok ((kinds name).receipt container)), view.putContainer name none)
    | none => (none, view)

/-- A program makes a move, and goes on by what it is answered, or it is done. -/
inductive Program (kinds : Nat → ContainerKind Object) : Type 1 where
  | done
  | next {α : Type} (move : Move kinds α) (follow : Option (Except Fault α) → Program kinds)

/-- An answer, with its type. -/
abbrev Answer : Type 1 := Σ α : Type, Option (Except Fault α)

namespace Program

/-- The answers that a program gets, and all there is at its end. -/
def run [Allocator Object σ] : Program kinds → Shared kinds σ → List Answer × Shared kinds σ
  | done, shared => ([], shared)
  | next move follow, shared =>
    let ran := (follow (shared.perform move).1).run (shared.perform move).2
    (⟨_, (shared.perform move).1⟩ :: ran.1, ran.2)

/-- The answers that a program gets, and what is seen at its end, by the ration. -/
def onView (ration : Ration) : Program kinds → View kinds → List Answer × View kinds
  | done, view => ([], view)
  | next move follow, view =>
    let ran := (follow (view.perform ration move).1).onView ration (view.perform ration move).2
    (⟨_, (view.perform ration move).1⟩ :: ran.1, ran.2)

end Program

variable [Allocator Object σ] [Custody σ] [Rationed σ] [RationedAllocator Object σ]

namespace Shared
variable {shared : Shared kinds σ}

/-- A move leaves all in order, and its answer and what is seen then are those of the rule. -/
def Follows (shared : Shared kinds σ) (move : Move kinds α) : Prop :=
  (shared.perform move).2.Valid ∧
    ((shared.perform move).1, (shared.perform move).2.view) = shared.view.perform (ration σ) move

variable {name : Nat}

omit [Custody σ] [RationedAllocator Object σ] in
theorem view_raw {block : Option RawBlock} (placed : shared.raw name = block) :
    shared.view.raw name = block.map (RawBlock.view · (memory shared.host)) :=
  congrArg (Option.map _) placed

omit [Custody σ] [RationedAllocator Object σ] in
theorem view_containers {container : Option (kinds name).Carrier}
    (placed : shared.containers name = container) :
    shared.view.containers name = container.map ((kinds name).view · (memory shared.host)) :=
  congrArg (Option.map _) placed

namespace Valid
variable (valid : shared.Valid)
include valid

theorem follows_request (request : Request) : shared.Follows (.request name request) := by
  have sizes : (shared.view.raw name).map BlockView.size = (shared.raw name).map RawBlock.size :=
    Option.map_map ..
  rw [Follows, perform, View.perform, sizes]
  split
  · next permitted =>
    have served := request.served valid.ready (valid.held name) permitted
    obtain ⟨onView, held⟩ := served.onView (valid.held name)
    have turn := served.turn
    rw [← request.address_block] at turn
    obtain ⟨valid', seen⟩ := valid.view_putRaw rfl turn held
    have rule : request.onView (ration σ) (shared.view.raw name) = _ := onView.symm
    rw [rule]
    exact ⟨valid', congrArg (Prod.mk _) seen⟩
  · exact ⟨valid, rfl⟩

theorem follows_store (position : Nat) (cell : Cell Object) :
    shared.Follows (.store name position cell) := by
  cases placed : shared.raw name with
  | none =>
    simp only [Follows, perform, View.perform, placed, view_raw placed, Option.map_none]
    exact ⟨valid, trivial⟩
  | some block =>
    have size : (block.view (memory shared.host)).size = block.size := rfl
    simp only [Follows, perform, View.perform, placed, view_raw placed, Option.map_some, size]
    by_cases inside : position < block.size
    · obtain ⟨turn, held, written⟩ :=
        (valid.held name block placed).store valid.ready.sound inside cell rfl
      have turn' : Turn ((some block).map RawBlock.address).toList
          ((some (block.written position)).map RawBlock.address).toList shared.host _ := turn
      have alone : ∀ new, some (block.written position) = some new → new.Held _ :=
        fun new same => Option.some.inj same ▸ held
      obtain ⟨valid', seen⟩ := valid.view_putRaw placed turn' alone
      rw [Option.map_some, written] at seen
      rw [if_pos inside, if_pos inside]
      exact ⟨valid', congrArg (Prod.mk _) seen⟩
    · rw [if_neg inside, if_neg inside]
      exact ⟨valid, rfl⟩

omit [RationedAllocator Object σ] in
theorem follows_load (position : Nat) : shared.Follows (.load name position) := by
  cases placed : shared.raw name with
  | none =>
    simp only [Follows, perform, View.perform, placed, view_raw placed, Option.map_none]
    exact ⟨valid, trivial⟩
  | some block =>
    simp only [Follows, perform, View.perform, placed, view_raw placed, Option.map_some]
    exact ⟨valid, rfl⟩

theorem follows_build (plan : (kinds name).Plan) : shared.Follows (.build name plan) := by
  cases placed : shared.containers name with
  | some carrier =>
    simp only [Follows, perform, View.perform, placed, view_containers placed, Option.map_some]
    exact ⟨valid, trivial⟩
  | none =>
    simp only [Follows, perform, View.perform, placed, view_containers placed, Option.map_none]
    rcases (kinds name).assembled plan valid.ready with
      ⟨fault, carrier, last, done, ran, rule, turn⟩ | ⟨carrier, last, done, ran, rule, inOrder, turn⟩
    · have turn' : Turn ((none : Option (kinds name).Carrier).elim [] (kinds name).own)
          ((none : Option (kinds name).Carrier).elim [] (kinds name).own) shared.host last := turn
      obtain ⟨valid', seen⟩ := valid.view_putContainer placed turn' nofun
      rw [ran, rule]
      exact ⟨valid', congrArg (Prod.mk _) seen⟩
    · have turn' : Turn ((none : Option (kinds name).Carrier).elim [] (kinds name).own)
          ((some carrier).elim [] (kinds name).own) shared.host last := turn
      have alone : ∀ new, some carrier = some new → (kinds name).InOrder new last :=
        fun new same => Option.some.inj same ▸ inOrder
      obtain ⟨valid', seen⟩ := valid.view_putContainer placed turn' alone
      rw [ran, rule]
      exact ⟨valid', congrArg (Prod.mk _) seen⟩

theorem follows_call (call : (kinds name).Call α) : shared.Follows (.call name call) := by
  cases placed : shared.containers name with
  | none =>
    simp only [Follows, perform, View.perform, placed, view_containers placed, Option.map_none]
    exact ⟨valid, trivial⟩
  | some carrier =>
    simp only [Follows, perform, View.perform, placed, view_containers placed, Option.map_some]
    obtain ⟨rule, inOrder, turn⟩ := (valid.inOrder name carrier placed).called valid.ready call
    generalize call.step.run (carrier, shared.host) = ran at rule inOrder turn ⊢
    have turn' : Turn ((some carrier).elim [] (kinds name).own)
        ((some ran.state.1).elim [] (kinds name).own) shared.host ran.state.2 := turn
    have alone : ∀ new, some ran.state.1 = some new → (kinds name).InOrder new ran.state.2 :=
      fun new same => Option.some.inj same ▸ inOrder
    obtain ⟨valid', seen⟩ := valid.view_putContainer placed turn' alone
    rw [← rule]
    exact ⟨valid', congrArg (Prod.mk _) seen⟩

theorem follows_retire : shared.Follows (.retire name) := by
  cases placed : shared.containers name with
  | none =>
    simp only [Follows, perform, View.perform, placed, view_containers placed, Option.map_none]
    exact ⟨valid, trivial⟩
  | some carrier =>
    simp only [Follows, perform, View.perform, placed, view_containers placed, Option.map_some]
    obtain ⟨counted, turn⟩ := (valid.inOrder name carrier placed).retired valid.ready.sound
    have turn' : Turn ((some carrier).elim [] (kinds name).own)
        ((none : Option (kinds name).Carrier).elim [] (kinds name).own) shared.host _ := turn
    obtain ⟨valid', seen⟩ := valid.view_putContainer placed turn' nofun
    rw [counted]
    exact ⟨valid', congrArg (Prod.mk _) seen⟩

theorem follows (move : Move kinds α) : shared.Follows move := by
  cases move with
  | request name request => exact valid.follows_request request
  | store name position cell => exact valid.follows_store position cell
  | load name position => exact valid.follows_load position
  | build name plan => exact valid.follows_build plan
  | call name call => exact valid.follows_call call
  | retire name => exact valid.follows_retire

end Valid
end Shared

/-- A program leaves all in order, and its answers and what is seen at its end are those of the rule. -/
theorem Program.run_view (program : Program kinds) {shared : Shared kinds σ} (valid : shared.Valid) :
    (program.run shared).2.Valid ∧ ((program.run shared).1, (program.run shared).2.view) =
      program.onView (ration σ) shared.view := by
  induction program generalizing shared with
  | done => exact ⟨valid, rfl⟩
  | next move follow ih =>
    obtain ⟨valid', rule⟩ := valid.follows move
    obtain ⟨last, rest⟩ := ih (shared.perform move).1 valid'
    refine ⟨last, ?_⟩
    rw [run, onView, ← rule, ← rest]

end Allotment.Rationed
