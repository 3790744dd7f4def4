import Allotment.Proofs.Rationed.Pools

namespace Allotment.ContainerKind
open Allocator Custody Rationed
variable {Object σ α : Type}

/-- What there is to know of a container that is retired: of a pool, how many values it held. -/
@[reducible]
def Receipt : ContainerKind Object → Type
  | array _ => Unit
  | pool _ => Nat

section Operations
variable [Allocator Object σ]

/-- Builds a container on an allocator, in place of a blank one. -/
def assemble : (kind : ContainerKind Object) → kind.Plan → Step Object (kind.Carrier × σ) Unit
  | array _, none => pure ()
  | array _, some capacity => GrowArray.createWithCapacity capacity
  | pool _, none => pure ()
  | pool _, some config => Pool.create config

/-- The operation behind a call, on any allocator. -/
def Call.step {kind : ContainerKind Object} : Call kind α → Step Object (kind.Carrier × σ) α
  | array call => call.operation
  | pool call => call.operation

/-- Gives back what the container has of the allocator. -/
def retire : (kind : ContainerKind Object) → Step Object (kind.Carrier × σ) kind.Receipt
  | array _ => GrowArray.dispose
  | pool _ => Pool.destroy

end Operations

/-- What the owner sees of a container that is to be built, by the ration. -/
def assembleOnRation (ration : Ration) :
    (kind : ContainerKind Object) → kind.Plan → Except Fault kind.View
  | array T, none => .ok ((GrowArray.empty T).view .blank)
  | array T, some capacity =>
    ((GrowArray.empty T).roomVerdict ration capacity).map fun _ =>
      ⟨[], (GrowArray.empty T).capacityFor capacity⟩
  | pool T, none => .ok ((Pool.empty T .standard).view .blank)
  | pool T, some config => Pool.createOnRation T ration config

/-- What the owner sees of a call, by the ration. -/
def Call.onRation {kind : ContainerKind Object} (ration : Ration) :
    Call kind α → kind.View → Except Fault α × kind.View
  | array call, view => call.onRation ration view
  | pool call, view => call.onRation ration view

/-- What there is to know of the container when it is retired. -/
def receipt : (kind : ContainerKind Object) → kind.View → kind.Receipt
  | array _, _ => ()
  | pool _, view => view.table.length

/-- How many blocks a container has that looks like this. -/
def blocks : (kind : ContainerKind Object) → kind.View → Nat
  | array _, view => view.frame.own.length
  | pool _, view => view.frame.own.length

theorem blocks_view (kind : ContainerKind Object) (carrier : kind.Carrier) (memory : Memory Object) :
    kind.blocks (kind.view carrier memory) = (kind.own carrier).length := by
  cases kind with
  | array T => exact GrowArray.length_own rfl
  | pool T => exact GrowArray.length_own rfl

variable [Allocator Object σ] [Custody σ] {host last : σ}

/-- The container is in order on its allocator. -/
def InOrder : (kind : ContainerKind Object) → kind.Carrier → σ → Prop
  | array _, carrier, host => carrier.InOrder host
  | pool _, carrier, host => carrier.InOrder host

section Turns
variable {kind : ContainerKind Object} {carrier : kind.Carrier}

theorem InOrder.spared (inOrder : kind.InOrder carrier host) (sound : Sound last)
    (kept : ∀ address ∈ kind.own carrier, ∀ size, Holds host address size →
      Keeps host last address size) :
    kind.InOrder carrier last ∧ kind.view carrier (memory last) = kind.view carrier (memory host) := by
  cases kind with
  | array T => exact GrowArray.InOrder.spared inOrder sound kept
  | pool T => exact Pool.InOrder.spared inOrder sound kept

theorem InOrder.holds (inOrder : kind.InOrder carrier host) {address : Nat}
    (mine : address ∈ kind.own carrier) : ∃ size, Holds host address size := by
  cases kind with
  | array T =>
    obtain ⟨sized, roomy, rfl⟩ := GrowArray.mem_own_iff.mp mine
    exact ⟨_, (GrowArray.InOrder.sized inOrder sized).held roomy⟩
  | pool T =>
    obtain ⟨sized, roomy, rfl⟩ := GrowArray.mem_own_iff.mp mine
    exact ⟨_, ((Pool.InOrder.slots inOrder).sized sized).held roomy⟩

variable [Rationed σ] [RationedAllocator Object σ]

/-- Every call is answered by the rule, and is a turn of its container. -/
theorem InOrder.called (inOrder : kind.InOrder carrier host) (ready : Ready host)
    (call : Call kind α) :
    Played kind.view kind.InOrder kind.own carrier host
      (call.onRation (ration σ) (kind.view carrier (memory host))) (call.step.run (carrier, host)) := by
  cases call with
  | array call => exact GrowArray.InOrder.called inOrder ready call
  | pool call => exact Pool.InOrder.called inOrder ready call

theorem assembled (kind : ContainerKind Object) (plan : kind.Plan) (ready : Ready host) :
    (∃ fault carrier last done, (kind.assemble plan).run (kind.blank, host) =
        ⟨.error fault, (carrier, last), done⟩ ∧
        kind.assembleOnRation (ration σ) plan = .error fault ∧ Turn [] [] host last) ∨
      ∃ carrier last done, (kind.assemble plan).run (kind.blank, host) =
        ⟨.ok (), (carrier, last), done⟩ ∧
        kind.assembleOnRation (ration σ) plan = .ok (kind.view carrier (memory last)) ∧
        kind.InOrder carrier last ∧ Turn [] (kind.own carrier) host last := by
  have still (nothing : List Nat) (none : nothing = []) : Turn [] nothing host host := by
    rw [none]
    exact .refl ready.sound []
  cases kind with
  | array T =>
    cases plan with
    | none => exact .inr ⟨_, _, _, rfl, rfl, GrowArray.InOrder.empty ready.sound, still _ GrowArray.own_empty⟩
    | some capacity =>
      rcases GrowArray.built (T := T) ready capacity with
        ⟨fault, array, last, done, ran, verdict, turn⟩ |
        ⟨array, last, done, ran, verdict, seen, order, turn⟩
      · exact .inl ⟨_, _, _, _, (GrowArray.run_createWithCapacity _ _ _).trans ran,
          congrArg (Except.map _) verdict, turn⟩
      · refine .inr ⟨_, _, _, (GrowArray.run_createWithCapacity _ _ _).trans ran, ?_, order, turn⟩
        exact (congrArg (Except.map _) verdict).trans (congrArg Except.ok seen.symm)
  | pool T =>
    cases plan with
    | none =>
      exact .inr ⟨_, _, _, rfl, rfl, Pool.InOrder.empty ready.sound .standard, still _ GrowArray.own_empty⟩
    | some config => exact Pool.created ready config _

/-- A container that is retired gives its block back, and everyone knows of it what was seen. -/
theorem InOrder.retired (inOrder : kind.InOrder carrier host) (sound : Sound host) :
    (kind.retire.run (carrier, host)).result =
        .ok (kind.receipt (kind.view carrier (memory host))) ∧
      Turn (kind.own carrier) [] host (kind.retire.run (carrier, host)).state.2 := by
  cases kind with
  | array T => exact GrowArray.InOrder.disposed inOrder sound
  | pool T => exact Pool.InOrder.destroyed inOrder sound

end Turns
end Allotment.ContainerKind
