import Allotment.Element.Value
import Allotment.Proofs.GrowArray.Growth
import Allotment.Proofs.Stack.Placement
import Allotment.Proofs.Stack.Rejection

namespace Allotment

namespace Stack
variable {Object : Type}

/-- What is asked for `count` values of some type. -/
inductive ArrayRequest where
  | allocate (count : Nat)
  | allocateZeroed (count : Nat)
  | resize (block : Option Nat) (oldCount count : Nat)

namespace ArrayRequest

/-- The operation behind a request, with the address it answers. -/
def operation (T : Type) [Element Object T] :
    ArrayRequest → Step Object (Stack Object) (Option Nat)
  | allocate count => some <$> Allocator.allocateArray T count
  | allocateZeroed count => some <$> Allocator.allocateArrayZeroed T count
  | resize block oldCount count => Allocator.resizeArray T block oldCount count

/-- The number of values there has to be room for. -/
def count : ArrayRequest → Nat
  | allocate count | allocateZeroed count | resize _ _ count => count

/-- The name under which a size that is not a word is refused. -/
def name : ArrayRequest → String
  | allocate _ => "alloc_array"
  | allocateZeroed _ => "alloc_array_zeroed"
  | resize .. => "realloc_array"

/-- The request for as many bytes, where each value takes `size`. -/
def call (size : Nat) : ArrayRequest → Call Object
  | allocate count => .allocate (size * count)
  | allocateZeroed count => .allocateZeroed (size * count)
  | resize block oldCount count => .resize block (size * count) (size * oldCount)

/-- A block that is to be resized is live, and holds as many values as it is said to. -/
def Truthful (size : Nat) (blocks : List Extent) : ArrayRequest → Prop
  | resize (some start) oldCount _ =>
    ∃ block ∈ blocks, block.start = start ∧ start + size * oldCount ≤ block.stop
  | _ => True

theorem confined (request : ArrayRequest) (size : Nat) (blocks : List Extent) :
    (request.call size : Call Object).Confined blocks := by
  intro address target
  cases request with
  | allocate => exact target.elim
  | allocateZeroed => exact target.elim
  | resize => exact target.elim

end ArrayRequest

namespace Session

/-- The stack itself knows nothing of alignments and of sizes that are no words. -/
private theorem Rejection.not_checked {before after : Stack Object} {fault : Fault}
    (rejection : Rejection before fault after) :
    (∀ required provided, fault ≠ .refused (.invalidAlignment required provided)) ∧
      ∀ operation, fault ≠ .refused (.sizeOverflow operation) := by
  cases rejection with
  | full requested =>
    rw [roomError, MemoryError.fault]
    cases before.config.failFast <;> simp
  | misused misuse => simp

variable {session : Session Object} {T : Type} [Element Object T] {request : ArrayRequest}

namespace Valid
variable (valid : session.Valid)
  (truthful : request.Truthful (Element.size T) session.blocks)
include valid truthful

/-- A request is refused for its alignment, then for its size, and is otherwise the request for bytes. -/
private theorem run_arrayRequest : (request.operation T).run session.stack =
    if session.stack.align < Element.alignment T then
      ⟨.error (.refused (.invalidAlignment (Element.alignment T) session.stack.align)),
        session.stack, []⟩
    else if wordLimit ≤ Element.size T * request.count then
      ⟨.error (.refused (.sizeOverflow request.name)), session.stack, []⟩
    else (request.call (Element.size T)).operation.run session.stack := by
  cases request with
  | allocate count =>
    simp only [ArrayRequest.operation, Allocator.allocateArray, map_bind]
    exact Allocator.run_sized T count "alloc_array" (some <$> Allocator.allocate ·) session.stack
  | allocateZeroed count =>
    simp only [ArrayRequest.operation, Allocator.allocateArrayZeroed, map_bind]
    exact Allocator.run_sized T count "alloc_array_zeroed" (some <$> Allocator.allocateZeroed ·)
      session.stack
  | resize block oldCount count =>
    have sized := Allocator.run_sized T count "realloc_array"
      (Allocator.resize block · ((arraySize? (Element.size T) oldCount).getD wordMax)) session.stack
    cases block with
    | none => exact sized
    | some start =>
      -- the old size is that of something in the buffer, so it is a word
      obtain ⟨block, live, rfl, holds⟩ := truthful
      obtain ⟨_, _, _, inside, _⟩ := valid.chain.bounds live
      have bound := session.stack.capacity_lt_wordLimit
      have inside' : block.stop ≤ session.stack.capacity := Nat.le_trans inside valid.inside
      have bytes : arraySize? (Element.size T) oldCount = some (Element.size T * oldCount) :=
        if_pos (by omega)
      rw [bytes] at sized
      simp only [ArrayRequest.operation, Allocator.resizeArray, bytes]
      exact sized

omit truthful in
/-- A resized block has the new size, or is below the top and keeps more than that. -/
private theorem spans_resized {block : Extent} {newSize oldSize address : Nat} (live : block ∈ session.blocks)
    (holds : block.start + oldSize ≤ block.stop)
    (answered : session.answer (.resize (some block.start) newSize oldSize) = .ok (some address)) :
    ∃ later ∈ (session.perform (.resize (some block.start) newSize oldSize)).blocks,
      later.start = address ∧ address + newSize ≤ later.stop := by
  have asked : newSize ≠ 0 := by
    rintro rfl
    have carried : session.CarriesOut (.resize (some block.start) 0 oldSize) _ :=
      valid.carriesOut_release rfl
    have released := carried.answer
    rw [answered, onRelease] at released
    split at released
    · cases released
    · cases released
  have blocks : (session.perform (.resize (some block.start) newSize oldSize)).blocks =
      Call.moveEnd block.start (block.start + newSize) session.blocks := by
    change session.hold _ session.blocks = _
    rw [hold, answered]
    rfl
  rcases valid.resize_cases block.start oldSize asked with
    ⟨misused, _⟩ | ⟨exhausted, _⟩ | ⟨answered', top, place⟩
  · exact (not_misused_of_ok answered misused).elim
  · exact (not_exhausted_of_ok newSize answered exhausted).elim
  · obtain rfl : block.start = address := Option.some.inj (Except.ok.inj (answered'.symm.trans answered))
    obtain ⟨rest, stacked⟩ := valid.top_block top
    rw [blocks, stacked]
    rcases place with ⟨onTop, _⟩ | ⟨lower, shrinks⟩
    · rw [Call.moveEnd, if_pos onTop.symm]
      exact ⟨_, List.mem_cons_self .., rfl, Nat.le_refl _⟩
    · rw [Call.moveEnd, if_neg (Nat.ne_of_gt lower), ← stacked]
      exact ⟨block, live, rfl, by omega⟩

private theorem spans_request {address : Nat} (answered :
      session.answer (request.call (Element.size T)) = .ok (some address)) :
    ∃ block ∈ (session.perform (request.call (Element.size T))).blocks, block.start = address ∧
      address + Element.size T * request.count ≤ block.stop := by
  have acquired : ∀ {call : Call Object} {size : Nat}, call.request? = some size →
      session.answer call = .ok (some address) →
      ∃ block ∈ (session.perform call).blocks, block.start = address ∧ address + size ≤ block.stop := by
    intro call size requested answered
    have blocks : (session.perform call).blocks = ⟨address, address + size⟩ :: session.blocks := by
      change session.hold call session.blocks = _
      rw [hold, answered]
      exact Call.ledger_of_request requested address _
    exact ⟨_, blocks ▸ List.mem_cons_self .., rfl, Nat.le_refl _⟩
  cases request with
  | allocate count => exact acquired rfl answered
  | allocateZeroed count => exact acquired rfl answered
  | resize target oldCount count =>
    cases target with
    | none => exact acquired rfl answered
    | some start =>
      obtain ⟨block, live, rfl, holds⟩ := truthful
      exact valid.spans_resized live holds answered

omit truthful in
private theorem zero_of_request {size address : Nat}
    (answered : session.answer (.allocateZeroed size) = .ok (some address)) {position : Nat}
    (below : position < size) :
    (session.perform (.allocateZeroed size)).stack.memory.load (address + position) = Cell.zero := by
  obtain ⟨place, _, isPlace⟩ := exists_isPlace valid.inside
  have fits := (valid.granted_iff isPlace rfl).mp ⟨_, answered⟩
  have requested : (Call.allocateZeroed size : Call Object).request? = some size := rfl
  obtain ⟨granted, _⟩ := valid.granted isPlace requested fits
  obtain rfl : address = place := Option.some.inj (Except.ok.inj (answered.symm.trans granted))
  exact valid.zeroed isPlace fits (Nat.le_add_right ..) (Nat.add_lt_add_left below _)

/-- A block that is answered spans its values, ends in the buffer, and is aligned for all types that are
no stricter than the stack. -/
private theorem block_of_request (power : isPowerOfTwo (Element.alignment T) = true)
    (aligned : Element.alignment T ≤ session.stack.align) {address : Nat}
    (answered : session.answer (request.call (Element.size T)) = .ok (some address)) :
    ∃ block ∈ (session.perform (request.call (Element.size T))).blocks, block.start = address ∧
      address + Element.size T * request.count ≤ block.stop ∧
      block.stop ≤ session.stack.capacity ∧
      ∀ base, session.stack.align ∣ base → Element.alignment T ∣ base + address := by
  have shape := (valid.transition (request.call (Element.size T))).shape
  have valid' := valid.perform (request.confined (Element.size T) session.blocks)
  obtain ⟨block, live, rfl, spans⟩ := valid.spans_request truthful answered
  obtain ⟨_, _, _, inside, multiple⟩ := valid'.chain.bounds live
  have ends := Nat.le_trans inside valid'.inside
  rw [capacity, shape] at ends
  rw [align, shape] at multiple
  have divides := dvd_of_isPowerOfTwo power session.stack.shape.align_power aligned
  exact ⟨block, live, rfl, spans, ends, fun base based =>
    Nat.dvd_add (Nat.dvd_trans divides based) (Nat.dvd_trans divides multiple)⟩

end Valid

/-- A request for an array is refused for its alignment, then for a size that is no word, and otherwise
is the request for its bytes. The block it is answered with spans the values and is aligned for them. -/
theorem Reachable.array_requests (reached : session.Reachable)
    (power : isPowerOfTwo (Element.alignment T) = true)
    (truthful : request.Truthful (Element.size T) session.blocks) :
    (session.stack.align < Element.alignment T →
      (request.operation T).run session.stack = ⟨.error (.refused
        (.invalidAlignment (Element.alignment T) session.stack.align)), session.stack, []⟩) ∧
    (Element.alignment T ≤ session.stack.align → wordLimit ≤ Element.size T * request.count →
      (request.operation T).run session.stack =
        ⟨.error (.refused (.sizeOverflow request.name)), session.stack, []⟩) ∧
    (Element.alignment T ≤ session.stack.align → Element.size T * request.count < wordLimit →
      (request.operation T).run session.stack =
        (request.call (Element.size T)).operation.run session.stack) ∧
    ((∃ required provided, ((request.operation T).run session.stack).result =
        .error (.refused (.invalidAlignment required provided))) ↔
      session.stack.align < Element.alignment T) ∧
    ((∃ operation, ((request.operation T).run session.stack).result =
        .error (.refused (.sizeOverflow operation))) ↔
      Element.alignment T ≤ session.stack.align ∧ wordLimit ≤ Element.size T * request.count) ∧
    (∀ fault, ((request.operation T).run session.stack).result = .error fault →
      ((request.operation T).run session.stack).state = session.stack ∨
      (∃ requested, fault =
        (session.stack.roomError requested).fault session.stack.config.failFast) ∧
      ((request.operation T).run session.stack).state = { session.stack with counters :=
        if session.stack.config.trackStats then session.stack.counters.recordFailure
        else session.stack.counters }) ∧
    ∀ address, ((request.operation T).run session.stack).result = .ok (some address) →
      ∃ block ∈ (session.perform (request.call (Element.size T))).blocks,
        block.start = address ∧ address + Element.size T * request.count ≤ block.stop ∧
        block.stop ≤ session.stack.capacity ∧
        (∀ base, session.stack.align ∣ base → Element.alignment T ∣ base + address) ∧
        ∀ count, request = .allocateZeroed count →
          ∀ position, position < Element.size T * count →
            ((request.operation T).run session.stack).state.memory.load (address + position) =
              Cell.zero := by
  have valid := reached.valid
  have ran := valid.run_arrayRequest truthful
  have transition := valid.transition (request.call (Element.size T))
  rcases Nat.lt_or_ge session.stack.align (Element.alignment T) with strict | aligned
  · rw [if_pos strict] at ran
    rw [ran]
    refine ⟨fun _ => rfl, fun aligned => absurd strict (Nat.not_lt.mpr aligned),
      fun aligned => absurd strict (Nat.not_lt.mpr aligned), iff_of_true ⟨_, _, rfl⟩ strict, ?_,
      fun _ _ => .inl rfl, fun _ answered => ?_⟩
    · exact iff_of_false (fun ⟨_, same⟩ => nomatch same) fun both => absurd strict (Nat.not_lt.mpr both.1)
    · cases answered
  rw [if_neg (Nat.not_lt.mpr aligned)] at ran
  rcases Nat.lt_or_ge (Element.size T * request.count) wordLimit with fits | large
  · rw [if_neg (Nat.not_le.mpr fits)] at ran
    rw [ran]
    refine ⟨fun strict => absurd aligned (Nat.not_le.mpr strict),
      fun _ large => absurd fits (Nat.not_lt.mpr large), fun _ _ => rfl, ?_, ?_, ?_, ?_⟩
    · refine iff_of_false ?_ (Nat.not_lt.mpr aligned)
      rintro ⟨required, provided, failed⟩
      exact (transition.rejected _ failed).not_checked.1 required provided rfl
    · refine iff_of_false ?_ fun both => absurd fits (Nat.not_lt.mpr both.2)
      rintro ⟨operation, failed⟩
      exact (transition.rejected _ failed).not_checked.2 operation rfl
    · intro fault failed
      rcases (transition.rejected fault failed).stack_eq with full | ⟨_, same⟩
      · exact .inr ⟨full.imp fun _ both => both.1, full.elim fun _ both => both.2⟩
      · exact .inl same
    · intro address answered
      obtain ⟨block, live, starts, spans, ends, multiple⟩ :=
        valid.block_of_request truthful power aligned answered
      refine ⟨block, live, starts, spans, ends, multiple, ?_⟩
      rintro count rfl position below
      exact valid.zero_of_request answered below
  · rw [if_pos large] at ran
    rw [ran]
    refine ⟨fun strict => absurd aligned (Nat.not_le.mpr strict), fun _ _ => rfl,
      fun _ fits => absurd fits (Nat.not_lt.mpr large), ?_, iff_of_true ⟨_, rfl⟩ ⟨aligned, large⟩,
      fun _ _ => .inl rfl, fun _ answered => ?_⟩
    · exact iff_of_false (fun ⟨_, _, same⟩ => nomatch same) (Nat.not_lt.mpr aligned)
    · cases answered

/-- One number of eight bytes is in a block. Room for two to the power of 61 of them, whose bytes would
wrap around to none, is refused for its size. Room for three of them, all zero, is found above. -/
theorem array_requests_of_wrapping_size :
    ∃ session : Session Value, session.Reachable ∧ session.blocks = [⟨8, 16⟩] ∧
      ((ArrayRequest.resize (some 8) 1 (2 ^ (61 : Nat))).operation UInt64).run session.stack =
        ⟨.error (.refused (.sizeOverflow "realloc_array")), session.stack, []⟩ ∧
      (((ArrayRequest.allocateZeroed 3).operation UInt64).run session.stack).result =
        .ok (some 24) ∧
      ∃ block ∈ (session.perform (.allocateZeroed 24)).blocks, block.start = 24 ∧
        48 ≤ block.stop ∧ block.stop ≤ 64 ∧
        ∀ position, position < 24 →
          (((ArrayRequest.allocateZeroed 3).operation UInt64).run session.stack).state.memory.load
            (24 + position) = Cell.zero := by
  have built : (Stack.create 64 8 .debug : Step Value Unit (Stack Value)).run () =
      ⟨.ok (.empty ⟨64, 8, rfl, by decide, by decide, rfl, by decide⟩ .debug), (),
        [.logged (.stackCreated 64 8 .debug)]⟩ := rfl
  have reached := (Reachable.created built).after [.allocate 8]
    ⟨fun _ target => target.elim, trivial⟩
  have power : isPowerOfTwo (Element.alignment UInt64) = true := rfl
  have held : (ArrayRequest.resize (some 8) 1 (2 ^ (61 : Nat))).Truthful (Element.size UInt64) [⟨8, 16⟩] :=
    ⟨⟨8, 16⟩, List.mem_cons_self .., rfl, by decide⟩
  have new : (ArrayRequest.allocateZeroed 3).Truthful (Element.size UInt64) [⟨8, 16⟩] := trivial
  obtain ⟨_, refused, _⟩ := reached.array_requests power held
  obtain ⟨_, _, _, _, _, _, granted⟩ := reached.array_requests power new
  obtain ⟨block, live, starts, spans, ends, _, zero⟩ := granted 24 rfl
  exact ⟨_, reached, rfl, refused (by decide) (by decide), rfl, block, live, starts, spans, ends,
    zero 3 rfl⟩

end Session
end Stack
end Allotment
