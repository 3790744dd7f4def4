import Allotment.Element.Value
import Allotment.Proofs.Rationed.ProcessHeap
import Allotment.Proofs.Rationed.Program

/-! Two runs of one program, on two allocators of one ration. In the one blocks may stay in their place when
they are resized, in the other they may move: the program sees no difference. So the defaults for clearing and
resizing are as good as those of the heap of the C library. -/
namespace Allotment.Rationed
open Allocator Custody
variable {Object σ τ η α : Type} {kinds : Nat → ContainerKind Object}

namespace Shared

/-- An allocator with no party on it. -/
def fresh (host : σ) : Shared kinds σ := ⟨host, fun _ => none, fun _ => none⟩

variable [Allocator Object σ] [Custody σ]

/-- The raw block under a name is to get another size. If it gets it, the first bytes that both sizes have in
common are the same, wherever it lies then; if it does not, the block stays live and all its bytes are the
same. -/
structure Resizes (shared : Shared kinds σ) (name newSize oldSize : Nat) (block : RawBlock)
    (answer : Option (Except Fault Bool)) (next : Shared kinds σ) : Prop where
  met : answer = some (.ok true) → ∃ new, next.raw name = some new ∧ new.size = newSize ∧
    Holds next.host new.address newSize ∧ ∀ position, position < min oldSize newSize →
      (memory next.host).load (new.address + position) =
        (memory shared.host).load (block.address + position)
  refused : ∀ fault, answer = some (.error fault) → next.raw name = some block ∧
    Keeps shared.host next.host block.address block.size

/-- What a move does to the bytes of a block that it resizes. -/
def Retains (shared : Shared kinds σ) : {α : Type} → Move kinds α → Prop
  | _, .request name (.resize newSize oldSize) =>
    ∀ block, shared.raw name = some block → oldSize ≤ block.size →
      shared.Resizes name newSize oldSize block
        (shared.perform (.request name (.resize newSize oldSize))).1
        (shared.perform (.request name (.resize newSize oldSize))).2
  | _, _ => True

end Shared

/-- Two runs of one program go together: all looks the same before every move and at the end, every move is
answered the same, and no block loses bytes on either side when it is resized. -/
def Program.Agrees [Allocator Object σ] [Custody σ] [Rationed σ] [Allocator Object τ] [Custody τ]
    [Rationed τ] : Program kinds → Shared kinds σ → Shared kinds τ → Prop
  | done, first, second => first.view = second.view
  | next move follow, first, second =>
    first.view = second.view ∧ (first.perform move).1 = (second.perform move).1 ∧
      (first.Retains move ∧ second.Retains move) ∧
      (follow (first.perform move).1).Agrees (first.perform move).2 (second.perform move).2

variable [Allocator Object σ] [Custody σ] [Rationed σ] [RationedAllocator Object σ]
variable [Allocator Object τ] [Custody τ] [Rationed τ] [RationedAllocator Object τ]

namespace Shared
variable {shared : Shared kinds σ}

omit [RationedAllocator Object σ] in
theorem Valid.fresh {host : σ} (ready : Ready host) : (fresh host : Shared kinds σ).Valid := by
  refine ⟨ready, nofun, nofun, fun party other address mine _ => ?_⟩
  cases party <;> cases mine

theorem Valid.resizes (valid : shared.Valid) {name newSize oldSize : Nat} {block : RawBlock}
    (placed : shared.raw name = some block) (fits : oldSize ≤ block.size) :
    shared.Resizes name newSize oldSize block
      (shared.perform (.request name (.resize newSize oldSize))).1
      (shared.perform (.request name (.resize newSize oldSize))).2 := by
  have permitted : (Request.resize newSize oldSize).permitted (some block.size) = true :=
    decide_eq_true fits
  obtain ⟨moved, kept⟩ := Request.kept_of_resize valid.ready (valid.held name block placed) fits rfl
  simp only [perform, placed, Option.map_some, if_pos permitted]
  generalize ((Request.resize newSize oldSize).operation (some block.address)).run shared.host = ran
    at moved kept ⊢
  rcases ran with ⟨fault | _ | place, last, done⟩
  · refine ⟨fun met => ?_, fun _ _ => ⟨Function.update_self .., kept fault rfl⟩⟩
    cases met
  · refine ⟨fun met => ?_, fun _ refused => ?_⟩
    · cases met
    · cases refused
  · obtain ⟨there, common⟩ := moved place rfl
    refine ⟨fun _ => ⟨_, Function.update_self .., rfl, there, common⟩, fun _ refused => ?_⟩
    cases refused

theorem Valid.retains (valid : shared.Valid) (move : Move kinds α) : shared.Retains move := by
  cases move with
  | request name request =>
    cases request with
    | resize newSize oldSize => exact fun block placed fits => valid.resizes placed fits
    | _ => trivial
  | _ => trivial

end Shared

namespace Program
open Shared

/-- What looks the same on two allocators of one ration goes on looking the same. -/
theorem agrees (program : Program kinds) (same : Rationed.ration σ = Rationed.ration τ)
    {first : Shared kinds σ} {second : Shared kinds τ} (valid : first.Valid) (valid' : second.Valid)
    (alike : first.view = second.view) : program.Agrees first second := by
  induction program generalizing first second with
  | done => exact alike
  | next move follow ih =>
    obtain ⟨next, rule⟩ := valid.follows move
    obtain ⟨next', rule'⟩ := valid'.follows move
    rw [same, alike, ← rule'] at rule
    obtain ⟨answers, views⟩ := Prod.mk.inj rule
    refine ⟨alike, answers, ⟨valid.retains move, valid'.retains move⟩, ?_⟩
    exact ih _ next next' views

variable [SystemHeap Object η] [HeapLedger η] [HeapRation η] [RationedHeap Object η]

/-- A program runs the same over the allocator on the heap of the C library and over a wrapper that passes on
only acquiring and releasing. It is answered the same and sees the same, by the sizes that the heap meets. -/
theorem run_forwarding (program : Program kinds) {first second : η} (sound : HeapLedger.Sound first)
    (sound' : HeapLedger.Sound second)
    (level : (HeapLedger.blocks first).length = (HeapLedger.blocks second).length) :
    let native : Shared kinds (General η) := .fresh ⟨false, first⟩
    let defaults : Shared kinds (Forwarding (General η)) := .fresh ⟨⟨false, second⟩⟩
    (program.run native).1 = (program.run defaults).1 ∧
      (program.run native).2.view = (program.run defaults).2.view ∧
      program.Agrees native defaults ∧
      ((program.run native).1, (program.run native).2.view) =
        program.onView ⟨Heap.blockAlign, fun size => HeapRation.meets η (max size 1)⟩ native.view := by
  intro native defaults
  have valid : native.Valid := .fresh ⟨sound, rfl⟩
  have valid' : defaults.Valid := .fresh ⟨sound', rfl⟩
  have alike : native.view = defaults.view :=
    congrArg (View.mk (fun _ => none) fun _ => none) level
  have same : Rationed.ration (General η) = Rationed.ration (Forwarding (General η)) := rfl
  have rule := (program.run_view valid).2
  have rule' := (program.run_view valid').2
  rw [← same, ← alike, ← rule] at rule'
  obtain ⟨answers, views⟩ := Prod.mk.inj rule'
  exact ⟨answers.symm, views.symm, program.agrees same valid valid' alike, rule⟩

/-- Two bytes are cleared, one is written, and they become four; the written byte is there, and a terabyte is
not to be had. An array and a pool get a value each. -/
theorem run_forwarding_of_nine_moves :
    let kinds : Nat → ContainerKind Value
      | 0 => .array UInt32
      | _ => .pool UInt64
    let moves (follow : Program kinds) : Program kinds :=
      .next (.request 0 (.allocateZeroed 2)) fun _ => .next (.store 0 1 (.byte 7)) fun _ =>
        .next (.request 0 (.resize 4 2)) fun _ => .next (.load 0 1) fun _ =>
        .next (.request 0 (.resize (2 ^ (41 : Nat)) 4)) fun _ => follow
    let program := moves <| .next (.build 0 none) fun _ => .next (.call 0 (.array (.push 5))) fun _ =>
      .next (.build 1 none) fun _ => .next (.call 1 (.pool (.insert 9))) fun _ => .done
    let heap : Heap Value := Heap.empty false
    let native : Shared kinds (General (Heap Value)) := .fresh ⟨false, heap⟩
    let defaults : Shared kinds (Forwarding (General (Heap Value))) := .fresh ⟨⟨false, heap⟩⟩
    HeapLedger.Sound heap ∧ (program.run native).1 = (program.run defaults).1 ∧
      (program.run native).2.view = (program.run defaults).2.view ∧ program.Agrees native defaults ∧
      (program.run defaults).1 = [⟨Bool, some (.ok true)⟩, ⟨Unit, some (.ok ())⟩,
        ⟨Bool, some (.ok true)⟩, ⟨Cell Value, some (.ok (.byte 7))⟩,
        ⟨Bool, some (.error (.refused (.allocationFailed (2 ^ (41 : Nat)) 16)))⟩,
        ⟨Unit, some (.ok ())⟩, ⟨Unit, some (.ok ())⟩, ⟨Unit, some (.ok ())⟩,
        ⟨ResourceId, some (.ok ⟨0, 0⟩)⟩] ∧
      (program.run defaults).2.view.live = 3 := by
  intro kinds moves program heap native defaults
  have sound : HeapLedger.Sound heap := Heap.Orderly.empty false
  obtain ⟨answers, views, agrees, rule⟩ := run_forwarding program sound sound rfl
  obtain ⟨answered, seen⟩ := Prod.mk.inj rule
  refine ⟨sound, answers, views, agrees, ?_, ?_⟩
  · rw [← answers, answered]
    rfl
  · rw [← views, seen]
    rfl

end Program
end Allotment.Rationed
