import Allotment.Proofs.Stack.Placement
import Allotment.Proofs.Stack.Rejection

namespace Allotment.Stack
variable {Object : Type} {stack : Stack Object}

private theorem offsets_failed (stack : Stack Object) : stack.failed.offsets = stack.offsets :=
  offsets_counted ..

private theorem memory_failed (stack : Stack Object) : stack.failed.memory = stack.memory :=
  memory_counted ..

private theorem capacity_popped (stack : Stack Object) (offset : Nat) :
    (stack.popped offset).capacity = stack.capacity :=
  congrArg StackShape.capacity (shape_popped stack offset)

/-- Neither way touches the header of the block, nor what is below it: the short way leaves it alone, and
the long way writes the same offsets again. -/
private theorem bytes_resized_eq_bytes_pushed {offset stop stop' : Nat} (room : headerSize ≤ offset)
    (ordered : offset ≤ stack.used) (later : offset ≤ stop)
    (top_lt : (stack.headerAt offset).top < 2 ^ (32 : Nat))
    (used_lt : (stack.headerAt offset).used < 2 ^ (32 : Nat)) :
    (stack.resized stop).memory.bytes (offset - headerSize) headerSize =
      ((stack.popped offset).pushed offset stop').memory.bytes (offset - headerSize) headerSize := by
  have kept : (stack.resized stop).headerAt offset = stack.headerAt offset :=
    headerAt_congr room fun address _ last => load_resized_of_lt (by omega)
  have offsets := offsets_popped stack offset
  have written : ((stack.popped offset).pushed offset stop').headerAt offset =
      stack.headerAt offset := by
    rw [headerAt_pushed room, offsets]
    · rwa [← congrArg Header.top offsets] at top_lt
    · rwa [← congrArg Header.used offsets] at used_lt
  rw [← bytes_headerAt, ← bytes_headerAt, kept, written]

namespace Session
variable {session : Session Object} {block : Extent} {rest : List Extent}

/-- Two sessions have the same live blocks and offsets, the same header in front of `start`, and the same
bytes below that. -/
structure AgreeBelow (start : Nat) (one other : Session Object) : Prop where
  blocks : one.blocks = other.blocks
  offsets : one.stack.offsets = other.stack.offsets
  header : one.stack.memory.bytes (start - headerSize) headerSize =
    other.stack.memory.bytes (start - headerSize) headerSize
  below : ∀ address, address + headerSize < start →
    one.stack.memory.load address = other.stack.memory.load address

namespace Valid
variable (valid : session.Valid) (live : session.blocks = block :: rest)
include valid live

/-- The stack below the block on top has its next place where that block starts. -/
theorem isPlace_popped : (session.stack.popped block.start).IsPlace block.start := by
  have chain := valid.chain
  rw [live] at chain
  generalize session.stack.offsets = offsets at chain
  cases chain with
  | cons _ header room near aligned _ =>
    have align : (session.stack.popped block.start).align = session.stack.align :=
      congrArg StackShape.align (shape_popped ..)
    have used : (session.stack.popped block.start).used =
        (session.stack.headerAt block.start).used :=
      congrArg Header.used (offsets_popped session.stack block.start)
    rw [IsPlace, align, used, header]
    exact isLeast_of_near aligned room near

private theorem header_lt : (session.stack.headerAt block.start).top < 2 ^ (32 : Nat) ∧
    (session.stack.headerAt block.start).used < 2 ^ (32 : Nat) := by
  have small : session.stack.capacity < 2 ^ (32 : Nat) := session.stack.shape.capacity_lt
  have inside := valid.inside
  have chain := valid.chain
  have used := (valid.top_offsets live).2.1
  rw [live] at chain
  generalize session.stack.offsets = offsets at chain
  cases chain with
  | cons chained header room _ _ ordered =>
    have order := chained.top_le_used
    rw [header]
    omega

theorem answer_release : session.answer (.release (some block.start)) = .ok none :=
  valid.release_top (by rw [live]; rfl) rfl

/-- Giving back the block on top takes it off, in whichever way that is called. -/
theorem perform_release {call : Call Object} (released : call.released? = some block.start) :
    session.perform call = ⟨session.stack.popped block.start, rest⟩ := by
  obtain ⟨top, _, nonzero⟩ := valid.top_offsets live
  rw [← top] at released
  rw [perform_of_ok (Call.run_of_release valid.ordered valid.backed nonzero released),
    Call.ledger_of_released released, top, valid.filter_top live]

variable {newSize : Nat} (oldSize : Nat) (asked : newSize ≠ 0)
include asked

theorem resized_top (fits : block.start + newSize ≤ session.stack.capacity) :
    session.answer (.resize (some block.start) newSize oldSize) = .ok (some block.start) ∧
      session.perform (.resize (some block.start) newSize oldSize) =
        ⟨session.stack.resized (block.start + newSize),
          ⟨block.start, block.start + newSize⟩ :: rest⟩ := by
  obtain ⟨top, _, nonzero⟩ := valid.top_offsets live
  have ran : (Call.resize (some session.stack.top) newSize oldSize).operation.run session.stack = _ :=
    run_resize_of_top valid.ordered oldSize asked nonzero (by rw [top]; exact fits)
  rw [top] at ran
  refine ⟨congrArg Outcome.result ran, ?_⟩
  rw [perform_of_ok ran, live, Call.ledger, Call.moveEnd, if_pos rfl]

theorem resized_full (full : session.stack.capacity < block.start + newSize) :
    session.answer (.resize (some block.start) newSize oldSize) =
        .error ((session.stack.roomError newSize).fault session.stack.config.failFast) ∧
      session.perform (.resize (some block.start) newSize oldSize) =
        ⟨session.stack.failed, session.blocks⟩ := by
  obtain ⟨top, _, nonzero⟩ := valid.top_offsets live
  have ran : (Call.resize (some session.stack.top) newSize oldSize).operation.run session.stack = _ :=
    run_resize_of_full valid.ordered oldSize asked nonzero (by rw [top]; exact full)
  rw [top] at ran
  exact ⟨congrArg Outcome.result ran, perform_of_error ran⟩

omit asked in
private theorem agreeBelow_replaced (newSize : Nat) :
    AgreeBelow block.start
      ⟨session.stack.resized (block.start + newSize), ⟨block.start, block.start + newSize⟩ :: rest⟩
      ⟨(session.stack.popped block.start).pushed block.start (block.start + newSize),
        ⟨block.start, block.start + newSize⟩ :: rest⟩ := by
  obtain ⟨top, used, _⟩ := valid.top_offsets live
  obtain ⟨room, ordered, _⟩ := valid.chain.bounds (live ▸ List.mem_cons_self ..)
  obtain ⟨top_lt, used_lt⟩ := valid.header_lt live
  refine ⟨rfl, ?_, bytes_resized_eq_bytes_pushed room (by omega) (by omega) top_lt used_lt, ?_⟩
  · rw [offsets_resized, offsets_pushed, top]
  · intro address below
    calc (session.stack.resized (block.start + newSize)).memory.load address
      _ = session.stack.memory.load address := load_resized_of_lt (by omega)
      _ = (session.stack.popped block.start).memory.load address :=
        (load_popped_of_lt (by omega)).symm
      _ = ((session.stack.popped block.start).pushed block.start
          (block.start + newSize)).memory.load address := (load_pushed_of_lt below).symm

end Valid

/-- To resize the block on top comes to the same as to give it back and to acquire one of the new size,
up to what is above the header. If that one is refused, the resize leaves the block as it was. -/
theorem Reachable.replacement (reached : session.Reachable) (live : session.blocks = block :: rest)
    {newSize : Nat} (oldSize : Nat) (asked : newSize ≠ 0) :
    session.answer (.release (some block.start)) = .ok none ∧
    ((∃ answer, session.answer (.resize (some block.start) newSize oldSize) = .ok answer) ↔
      ∃ answer, (session.perform (.release (some block.start))).answer (.allocate newSize) =
        .ok answer) ∧
    (∀ answer, (session.perform (.release (some block.start))).answer (.allocate newSize) =
        .ok answer →
      answer = some block.start ∧
      session.answer (.resize (some block.start) newSize oldSize) = .ok (some block.start) ∧
      AgreeBelow block.start (session.perform (.resize (some block.start) newSize oldSize))
        ((session.perform (.release (some block.start))).perform (.allocate newSize))) ∧
    ∀ fault, (session.perform (.release (some block.start))).answer (.allocate newSize) =
        .error fault →
      (session.perform (.resize (some block.start) newSize oldSize)).blocks = session.blocks ∧
      (session.perform (.resize (some block.start) newSize oldSize)).stack.offsets =
        session.stack.offsets ∧
      (session.perform (.resize (some block.start) newSize oldSize)).stack.memory =
        session.stack.memory := by
  have valid := reached.valid
  have released : (Call.release (some block.start) : Call Object).released? = some block.start := rfl
  have requested : (Call.allocate newSize : Call Object).request? = some newSize := rfl
  have valid' := valid.perform (confined_of_released released)
  have isPlace := valid.isPlace_popped live
  rw [valid.perform_release live released] at valid' ⊢
  refine ⟨valid.answer_release live, ?_⟩
  by_cases fits : block.start + newSize ≤ session.stack.capacity
  · obtain ⟨resized, short⟩ := valid.resized_top live oldSize asked fits
    obtain ⟨granted, long⟩ := valid'.granted isPlace requested (by rw [capacity_popped]; exact fits)
    rw [resized, granted, short, long]
    refine ⟨iff_of_true ⟨_, rfl⟩ ⟨_, rfl⟩, ?_, fun fault failed => by cases failed⟩
    rintro answer ⟨⟩
    exact ⟨rfl, rfl, valid.agreeBelow_replaced live newSize⟩
  · have full := Nat.lt_of_not_le fits
    obtain ⟨resized, short⟩ := valid.resized_full live oldSize asked full
    obtain ⟨refused, _⟩ := valid'.refused isPlace requested (by rw [capacity_popped]; exact full)
    rw [resized, refused, short]
    refine ⟨iff_of_false ?_ ?_, ?_, ?_⟩
    · rintro ⟨answer, answered⟩
      cases answered
    · rintro ⟨answer, answered⟩
      cases answered
    · intro answer answered
      cases answered
    · intro fault failed
      exact ⟨rfl, offsets_failed _, memory_failed _⟩

/-- Above a block of five bytes, one of eight bytes grows to forty and would not grow to forty-one, whether
where it stands or given back and asked for again. -/
theorem replacement_of_covering_block :
    ∃ session : Session Unit, session.Reachable ∧ session.blocks = [⟨24, 32⟩, ⟨8, 13⟩] ∧
      session.answer (.resize (some 24) 40 8) = .ok (some 24) ∧
      AgreeBelow 24 (session.perform (.resize (some 24) 40 8))
        ((session.perform (.release (some 24))).perform (.allocate 40)) ∧
      (session.perform (.resize (some 24) 41 8)).blocks = session.blocks := by
  have built : (Stack.create 64 8 .debug : Step Unit Unit (Stack Unit)).run () =
      ⟨.ok (.empty ⟨64, 8, rfl, by decide, by decide, rfl, by decide⟩ .debug), (),
        [.logged (.stackCreated 64 8 .debug)]⟩ := rfl
  have reached := (Reachable.created built).after [.allocate 5, .allocate 8]
    ⟨fun _ target => target.elim, fun _ target => target.elim, trivial⟩
  obtain ⟨_, _, granted, _⟩ := reached.replacement rfl 8 (by decide : 40 ≠ 0)
  obtain ⟨_, _, _, refused⟩ := reached.replacement rfl 8 (by decide : 41 ≠ 0)
  obtain ⟨_, resized, agree⟩ := granted (some 24) rfl
  exact ⟨_, reached, rfl, resized, agree, (refused _ rfl).1⟩

end Session
end Allotment.Stack
