import Allotment.Proofs.Rationed.Turn

/-! Raw blocks of a rationed allocator. What a caller can tell of its block are the size and the bytes it
put there itself, had cleared, or brought along from a block it resized. A request is answered, and these
bytes change, by a rule that knows no address. -/
namespace Allotment.Rationed
open Allocator Custody
variable {Object σ : Type}

/-- A block in a caller's hands, and which of its bytes the caller knows. -/
structure RawBlock where
  address : Nat
  size : Nat
  known : Nat → Bool

/-- What a caller can tell of its block, wherever that lies. -/
structure BlockView (Object : Type) where
  size : Nat
  cells : Nat → Option (Cell Object)

namespace RawBlock

def cells (block : RawBlock) (memory : Memory Object) (position : Nat) : Option (Cell Object) :=
  if block.known position then some (memory.load (block.address + position)) else none

def view (block : RawBlock) (memory : Memory Object) : BlockView Object :=
  ⟨block.size, block.cells memory⟩

/-- The block once one of its bytes was written. -/
def written (block : RawBlock) (position : Nat) : RawBlock :=
  { block with known := fun other => other == position || block.known other }

end RawBlock

/-- What the caller can tell of its block once it wrote one of its bytes. -/
def BlockView.written (block : BlockView Object) (position : Nat) (cell : Cell Object) :
    BlockView Object :=
  { block with cells := fun other => if other = position then some cell else block.cells other }

/-- What a caller may ask an allocator for, with a block in its hands or without one. -/
inductive Request where
  | allocate (size : Nat)
  | allocateZeroed (size : Nat)
  | resize (newSize oldSize : Nat)
  | release

namespace Request

/-- The operation behind a request, and what is in the caller's hands if it does not fail. -/
def operation [Allocator Object σ] (request : Request) (block : Option Nat) :
    Step Object σ (Option Nat) :=
  match request with
  | allocate size => some <$> Allocator.allocate size
  | allocateZeroed size => some <$> Allocator.allocateZeroed size
  | resize newSize oldSize => Allocator.resize block newSize oldSize
  | release => Allocator.release block >>= fun _ => pure none

/-- How many bytes are asked for. -/
def size : Request → Nat
  | allocate size => size
  | allocateZeroed size => size
  | resize newSize _ => newSize
  | release => 0

/-- A caller with a block does not lose it for another, and gives an old size that is not above the size it
asked for. -/
def permitted (request : Request) (held : Option Nat) : Bool :=
  match request with
  | allocate _ => held.isNone
  | allocateZeroed _ => held.isNone
  | resize _ oldSize => held.all fun size => oldSize ≤ size
  | release => true

/-- Which bytes of the new block are known, by those that were known of the old one. -/
def known (request : Request) (old : Nat → Bool) (position : Nat) : Bool :=
  match request with
  | allocateZeroed size => position < size
  | resize newSize oldSize => position < min oldSize newSize && old position
  | _ => false

/-- The bytes that are known of the new block, by those that were known of the old one. -/
def brought (request : Request) (old : Nat → Option (Cell Object)) (position : Nat) :
    Option (Cell Object) :=
  match request with
  | allocateZeroed size => if position < size then some Cell.zero else none
  | resize newSize oldSize => if position < min oldSize newSize then old position else none
  | _ => none

/-- Whether the caller has a block after the request, or why it gets none. -/
def verdict (request : Request) (ration : Ration) (held : Bool) : Except Fault Bool :=
  match request with
  | resize newSize _ =>
    if held && newSize == 0 then .ok false else (ration.verdict newSize).map fun _ => true
  | release => .ok false
  | _ => (ration.verdict request.size).map fun _ => true

/-- What the caller can tell of its block after a request: the verdict, and what became of the block. -/
def onView (request : Request) (ration : Ration) (old : Option (BlockView Object)) :
    Except Fault Bool × Option (BlockView Object) :=
  (request.verdict ration old.isSome,
    match request.verdict ration old.isSome with
    | .ok true => some ⟨request.size, request.brought (old.elim (fun _ => none) BlockView.cells)⟩
    | .ok false => none
    | .error _ => old)

/-- The block in the caller's hands after a request. -/
def block (request : Request) (old : Option RawBlock) : Except Fault (Option Nat) → Option RawBlock
  | .ok (some place) =>
    some ⟨place, request.size, request.known (old.elim (fun _ => false) RawBlock.known)⟩
  | .ok none => none
  | .error _ => old

theorem address_block (request : Request) (old : Option RawBlock)
    (result : Except Fault (Option Nat)) :
    (request.block old result).map RawBlock.address = holding (old.map RawBlock.address) result := by
  rcases result with fault | _ | place <;> rfl

end Request

variable [Allocator Object σ] [Custody σ] [Rationed σ]

/-- The caller holds the block, and knows no byte behind it. -/
structure RawBlock.Held (block : RawBlock) (state : σ) : Prop where
  holds : Holds state block.address block.size
  inside : ∀ position, block.known position = true → position < block.size

omit [Rationed σ] in
theorem RawBlock.Held.kept {block : RawBlock} {before after : σ} (held : block.Held before)
    (keeps : Keeps before after block.address block.size) :
    block.Held after ∧ block.view (memory after) = block.view (memory before) := by
  refine ⟨⟨keeps.holds, held.inside⟩, congrArg (BlockView.mk _) (funext fun position => ?_)⟩
  rw [cells, cells]
  split
  · next known => rw [keeps.load position (held.inside position known)]
  · rfl

/-- What comes of a request: the verdict, a turn of the caller, and a block with what was brought along. One
that fails leaves the caller its block. -/
structure Request.Served (request : Request) (block : Option RawBlock) (before : σ)
    (outcome : Outcome Object σ (Option Nat)) : Prop where
  verdict : outcome.result.map Option.isSome = request.verdict (ration σ) block.isSome
  turn : Turn (block.map RawBlock.address).toList
    (holding (block.map RawBlock.address) outcome.result).toList before outcome.state
  rejected : ∀ fault, outcome.result = .error fault → ∀ held, block = some held →
    Keeps before outcome.state held.address held.size
  holds : ∀ place, outcome.result = .ok (some place) → Holds outcome.state place request.size
  brought : ∀ place, outcome.result = .ok (some place) → ∀ position,
    (if request.known (block.elim (fun _ => false) RawBlock.known) position then
        some ((memory outcome.state).load (place + position)) else none) =
      request.brought (block.elim (fun _ => none) (RawBlock.cells · (memory before))) position

namespace Request
variable [RationedAllocator Object σ] {state : σ} {request : Request} {block : Option RawBlock}

omit [RationedAllocator Object σ] in
/-- A first block, of which so much is known as is said of new ones. -/
theorem served_of_acquired {outcome : Outcome Object σ Nat}
    (acquired : Acquired state request.size outcome) (ruled : Ruled state request.size 1 outcome)
    (verdict : request.verdict (ration σ) false = ((ration σ).verdict request.size).map fun _ => true)
    (brought : ∀ place, outcome.result = .ok place → ∀ position,
      (if request.known (fun _ => false) position then
          some ((memory outcome.state).load (place + position)) else none) =
        request.brought (fun _ => none) position) :
    request.Served none state ⟨outcome.result.map some, outcome.state, outcome.effects⟩ := by
  refine ⟨?_, Turn.of_acquired acquired ruled, nofun, ?_, ?_⟩
  · rw [Option.isSome_none, verdict, ← ruled.verdict]
    cases outcome.result <;> rfl
  · intro place answered
    cases answer : outcome.result with
    | error fault => rw [answer] at answered; cases answered
    | ok fresh =>
      rw [answer] at answered
      cases answered
      exact acquired.holds _ answer
  · intro place answered
    cases answer : outcome.result with
    | error fault => rw [answer] at answered; cases answered
    | ok fresh =>
      rw [answer] at answered
      cases answered
      exact brought _ answer

theorem served_allocate (ready : Ready state) (size : Nat) :
    (allocate size).Served none state (((allocate size).operation none).run state) := by
  rw [operation, Step.run_map]
  exact served_of_acquired (LawfulCustody.allocate ready.sound size)
    (RationedCustody.ruled_allocate ready size) rfl fun _ _ _ => rfl

theorem served_allocateZeroed (ready : Ready state) (size : Nat) :
    (allocateZeroed size).Served none state (((allocateZeroed size).operation none).run state) := by
  have zeroed := RationedAllocator.zeroed ready.sound size
  rw [operation, Step.run_map]
  refine served_of_acquired zeroed.toAcquired (RationedAllocator.ruled_allocateZeroed ready size) rfl ?_
  intro place answered position
  by_cases inside : position < size
  · simp only [known, Request.brought, inside, decide_true, if_true,
      zeroed.zero place answered position inside]
  · simp only [known, Request.brought, inside, decide_false, if_false, Bool.false_eq_true]

theorem served_resize_new (ready : Ready state) (newSize oldSize : Nat) :
    (resize newSize oldSize).Served none state
      (((resize newSize oldSize).operation none).run state) := by
  rw [operation, LawfulAllocator.resize_none, Step.run_map]
  refine served_of_acquired (LawfulCustody.allocate ready.sound newSize)
    (RationedCustody.ruled_allocate ready newSize) rfl ?_
  intro place _ position
  simp only [known, Request.brought, Bool.and_false, Bool.false_eq_true, if_false, ite_self]

theorem served_of_release (sound : Sound state) {held : RawBlock} (alive : held.Held state)
    (verdict : request.verdict (ration σ) true = .ok false) :
    request.Served (some held) state
      ((Allocator.release (some held.address) >>= fun _ => pure none : Step Object σ _).run state) := by
  have turn := Turn.of_release sound alive.holds
  have taken := (RationedCustody.released sound alive.holds).1
  rcases ran : (Allocator.release (some held.address)).run state with ⟨fault | _, last, done⟩ <;>
    rw [ran] at taken turn
  · cases taken
  · rw [Step.run_bind_of_ok ran]
    exact ⟨verdict.symm, turn, nofun, nofun, nofun⟩

theorem served_resize (ready : Ready state) {held : RawBlock} (alive : held.Held state)
    {newSize oldSize : Nat} (asked : newSize ≠ 0) (fits : oldSize ≤ held.size) :
    (resize newSize oldSize).Served (some held) state
      (((resize newSize oldSize).operation (some held.address)).run state) := by
  have holds : Holds state held.address oldSize :=
    (inferInstance : RationedCustody Object σ).narrowed alive.holds fits
  have resized := LawfulAllocator.resize ready.sound asked holds
  have mine : ∀ address, some held.address = some address → Holds state address oldSize :=
    fun _ same => Option.some.inj same ▸ holds
  obtain ⟨verdict, turn⟩ := Turn.of_resize ready mine fun _ => asked
  refine ⟨?_, turn, ?_, ?_, ?_⟩
  · refine verdict.trans ?_
    simp only [Request.verdict, Option.isSome_some, Bool.true_and, beq_iff_eq, if_neg asked]
  · rintro fault failed _ ⟨⟩
    exact RationedAllocator.rejected ready.sound asked alive.holds fits failed
  · intro place answered
    obtain ⟨_, same, there, _⟩ := resized.moved _ answered
    cases same
    exact there
  · intro place answered position
    obtain ⟨_, same, _, _, common⟩ := resized.moved _ answered
    cases same
    simp only [known, Request.brought, Option.elim_some, RawBlock.cells]
    by_cases within : position < min oldSize newSize
    · simp only [within, decide_true, Bool.true_and, if_true]
      exact congrArg (fun cell => if held.known position then some cell else none)
        (common position within)
    · simp only [within, decide_false, Bool.false_and, Bool.false_eq_true, if_false]

/-- Whatever is permitted is served. -/
theorem served (ready : Ready state) (held : ∀ old, block = some old → old.Held state)
    (permitted : request.permitted (block.map RawBlock.size) = true) :
    request.Served block state
      ((request.operation (block.map RawBlock.address)).run state) := by
  cases request with
  | allocate size =>
    cases block with
    | none => exact served_allocate ready size
    | some old => cases permitted
  | allocateZeroed size =>
    cases block with
    | none => exact served_allocateZeroed ready size
    | some old => cases permitted
  | resize newSize oldSize =>
    cases block with
    | none => exact served_resize_new ready newSize oldSize
    | some old =>
      by_cases asked : newSize = 0
      · rw [asked, Option.map_some, operation, RationedAllocator.resize_zero]
        exact served_of_release ready.sound (held old rfl) rfl
      · exact served_resize ready (held old rfl) asked (of_decide_eq_true permitted)
  | release =>
    cases block with
    | none =>
      rw [Option.map_none, operation, RationedCustody.release_none]
      exact ⟨rfl, .refl ready.sound [], nofun, nofun, nofun⟩
    | some old => exact served_of_release ready.sound (held old rfl) rfl

omit [RationedAllocator Object σ] in
/-- What the caller can tell after a request follows from what it could tell before. -/
theorem Served.onView {outcome : Outcome Object σ (Option Nat)}
    (served : request.Served block state outcome) (held : ∀ old, block = some old → old.Held state) :
    (outcome.result.map Option.isSome,
        (request.block block outcome.result).map (RawBlock.view · (memory outcome.state))) =
      request.onView (ration σ) (block.map (RawBlock.view · (memory state))) ∧
      ∀ new, request.block block outcome.result = some new → new.Held outcome.state := by
  have verdict := served.verdict
  have elim : (block.map (RawBlock.view · (memory state))).elim (fun _ => none) BlockView.cells =
      block.elim (fun _ => none) (RawBlock.cells · (memory state)) := by
    cases block <;> rfl
  rw [Request.onView, Option.isSome_map, elim, ← verdict]
  rcases outcome with ⟨fault | _ | place, last, done⟩
  · cases block with
    | none => exact ⟨rfl, nofun⟩
    | some old =>
      obtain ⟨alive, view⟩ := (held old rfl).kept (served.rejected fault rfl old rfl)
      refine ⟨congrArg (fun seen => (_, some seen)) view, ?_⟩
      rintro _ ⟨⟩
      exact alive
  · exact ⟨rfl, nofun⟩
  · refine ⟨?_, ?_⟩
    · exact congrArg (fun cells => (_, some (BlockView.mk request.size cells)))
        (funext (served.brought place rfl))
    · rintro _ ⟨⟩
      refine ⟨served.holds place rfl, fun position => ?_⟩
      cases request with
      | allocateZeroed size => exact of_decide_eq_true
      | resize newSize oldSize =>
        intro known
        have inside := of_decide_eq_true (Bool.and_eq_true_iff.mp known).1
        exact Nat.lt_of_lt_of_le inside (Nat.min_le_right ..)
      | _ => nofun

/-- What comes of asking for another size: the first bytes that both sizes have in common come along, known
or not, and a block that gets no other size is all as it was. -/
theorem kept_of_resize (ready : Ready state) {held : RawBlock} (alive : held.Held state)
    {newSize oldSize : Nat} (fits : oldSize ≤ held.size) {outcome : Outcome Object σ (Option Nat)}
    (ran : ((resize newSize oldSize).operation (some held.address)).run state = outcome) :
    (∀ place, outcome.result = .ok (some place) → Holds outcome.state place newSize ∧
        ∀ position, position < min oldSize newSize →
          (memory outcome.state).load (place + position) =
            (memory state).load (held.address + position)) ∧
      ∀ fault, outcome.result = .error fault → Keeps state outcome.state held.address held.size := by
  subst ran
  have permitted : (resize newSize oldSize).permitted ((some held).map RawBlock.size) = true :=
    decide_eq_true fits
  have served := served ready (fun old same => Option.some.inj same ▸ alive) permitted
  refine ⟨fun place answered => ⟨served.holds place answered, ?_⟩, fun fault failed =>
    served.rejected fault failed held rfl⟩
  intro position common
  have asked : newSize ≠ 0 := by omega
  obtain ⟨_, same, _, _, agree⟩ := (LawfulAllocator.resize ready.sound asked
    ((inferInstance : RationedCustody Object σ).narrowed alive.holds fits)).moved _ answered
  cases same
  exact agree position common

end Request

theorem RawBlock.Held.store [RationedAllocator Object σ] {state : σ} {block : RawBlock}
    (held : block.Held state) (sound : Sound state) {position : Nat} (inside : position < block.size)
    (cell : Cell Object) {last : σ}
    (stored : withMemory state ((memory state).store (block.address + position) cell) = last) :
    Turn [block.address] [block.address] state last ∧ (block.written position).Held last ∧
      (block.written position).view (memory last) =
        (block.view (memory state)).written position cell := by
  subst stored
  have outside : ∀ other, other < block.address ∨ block.address + block.size ≤ other →
      ((memory state).store (block.address + position) cell).load other =
        (memory state).load other := by
    intro other apart
    rw [Memory.load_store, if_neg (by omega)]
  refine ⟨Turn.of_written sound held.holds outside,
    ⟨(LawfulCustody.written sound held.holds outside).2 _ _ held.holds, fun other known => ?_⟩,
    congrArg (BlockView.mk _) (funext fun other => ?_)⟩
  · rcases Bool.or_eq_true_iff.mp known with same | old
    · exact eq_of_beq same ▸ inside
    · exact held.inside other old
  · simp only [cells, written, view, LawfulCustody.memory_withMemory, Memory.load_store]
    by_cases same : other = position
    · simp only [same, beq_self_eq_true, Bool.true_or, if_true]
    · have differ : block.address + other ≠ block.address + position := by omega
      simp only [same, differ, beq_false_of_ne same, Bool.false_or, if_false]

end Allotment.Rationed
