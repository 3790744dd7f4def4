import Allotment.Proofs.Accounting.Containers
import Allotment.Proofs.FailFast.Program

/-! The statistics of a stack under any program of raw and typed blocks, arrays and pools, with all faults
caught. The log tells what became of the blocks, and the counts say how often the log told it since they
were last forgotten. -/
namespace Allotment
open Step
variable {Object α : Type}

namespace HostCall

/-- What only a stack can do. -/
def own? : HostCall Object (Stack Object) α → Option Stack.OwnCall
  | own call => some call
  | _ => none

theorem accounted {call : HostCall Object (Stack Object) α} (shared : call.own? = none) :
    call.operation.Accounted id := by
  cases call with
  | allocate size => exact Stack.accounted_push size
  | allocateZeroed size => exact Stack.accounted_allocateZeroed size
  | resize block newSize oldSize => exact Stack.accounted_resize block newSize oldSize
  | release block => exact Stack.accounted_release block
  | own call => cases shared
  | write address cells =>
    exact fun stack => Outcome.Aloof.accounted ⟨⟨rfl, rfl, rfl, rfl⟩, rfl, .of_ok ()⟩
  | checkAlignment T => exact (Allocator.aloof_checkAlignment T).accounted
  | allocateValue value => exact Allocator.accounted_allocateValue value
  | allocateArray T count => exact Allocator.accounted_allocateArray T count
  | allocateArrayZeroed T count => exact Allocator.accounted_allocateArrayZeroed T count
  | resizeArray T block oldCount newCount =>
    exact Allocator.accounted_resizeArray T block oldCount newCount
  | releaseValue T address => exact Allocator.accounted_releaseValue T address
  | releaseArray address => exact Stack.accounted_release (some address)

/-- The counted events of a call that was answered: one new block, one block taken off, or one resize of
the block on top, be it to the size it had. -/
def due (stack : Stack Object) : HostCall Object (Stack Object) α → α → List Event
  | allocate size, place | allocateZeroed size, place => [.stackPushed size place (place + size)]
  | resize block newSize _, answer => stack.resizeEvents block newSize answer
  | release block, _ => block.toList.map stack.popEvent
  | own _, _ | write .., _ | checkAlignment _, _ => []
  | @allocateValue _ _ _ _ T _ _, place =>
    [.stackPushed (Element.size T) place (place + Element.size T)]
  | allocateArray T count, place | allocateArrayZeroed T count, place =>
    [.stackPushed (Element.size T * count) place (place + Element.size T * count)]
  | resizeArray T block _ newCount, answer =>
    stack.resizeEvents block (Element.size T * newCount) answer
  | releaseValue _ address, _ | releaseArray address, _ => [stack.popEvent address]

theorem counted_of_answered {call : HostCall Object (Stack Object) α} {stack : Stack Object} {answer : α}
    (answered : (call.operation.run stack).result = .ok answer) :
    Effect.counted (call.operation.run stack).effects = call.due stack answer := by
  cases call with
  | allocate size => exact Stack.counted_push answered
  | allocateZeroed size => exact Stack.counted_allocateZeroed answered
  | resize block newSize oldSize => exact Stack.counted_resize answered
  | release block =>
    cases block with
    | none => rfl
    | some address => exact Stack.counted_pop answered
  | own call => exact (call.books stack).uncounted
  | write address cells => rfl
  | checkAlignment T => exact (Allocator.aloof_checkAlignment T stack).uncounted
  | allocateValue value => exact Allocator.counted_allocateValue answered
  | allocateArray T count =>
    have ran := Allocator.run_sized_of_answered answered
    exact (congrArg (Effect.counted ·.effects) ran).trans
      (Stack.counted_push (ran ▸ answered))
  | allocateArrayZeroed T count =>
    have ran := Allocator.run_sized_of_answered answered
    exact (congrArg (Effect.counted ·.effects) ran).trans
      (Stack.counted_allocateZeroed (ran ▸ answered))
  | resizeArray T block oldCount newCount =>
    have ran := Allocator.run_sized_of_answered answered
    exact (congrArg (Effect.counted ·.effects) ran).trans (Stack.counted_resize (ran ▸ answered))
  | releaseValue T address => exact Allocator.counted_releaseValue answered
  | releaseArray address => exact Stack.counted_pop answered

end HostCall

namespace Shelf.Place
variable {Item Value : Nat → Type} {C : Type} (place : Shelf.Place Item Value C)

theorem accounted_build (blank : C) {operation : Step Object (C × Stack Object) Unit}
    (accounted : operation.Accounted Prod.snd) : (place.build blank operation).Accounted Prod.snd := by
  have built : (do operation; let (container, _) ← Step.get; pure container :
      Step Object (C × Stack Object) C).Accounted Prod.snd :=
    accounted.settled fun _ state => ⟨state.1, rfl, .refl state.2, rfl, .of_ok _⟩
  have placed : (Step.within (fun bench : Shelf Item Value × Stack Object => (blank, bench.2))
      (fun bench last => (bench.1, last.2)) (do operation; let (container, _) ← Step.get; pure container) :
        Step Object (Shelf Item Value × Stack Object) C).Accounted Prod.snd :=
    built.within (fun _ => rfl) fun _ _ => rfl
  refine placed.settled fun container state => ?_
  exact ⟨(), rfl, .refl state.2, rfl, .of_ok ()⟩

theorem accounted_use (keeps : Bool) {operation : Step Object (C × Stack Object) α}
    (accounted : operation.Accounted Prod.snd) : (place.use keeps operation).Accounted Prod.snd := by
  apply Accounted.get_bind
  rintro ⟨shelf, stack⟩
  dsimp only
  cases place.find shelf with
  | none => exact (Aloof.of_pure none).accounted _
  | some container =>
    refine Accounted.map ?_ some _
    exact accounted.within (fun _ => rfl) fun _ _ => rfl

end Shelf.Place

section Recording
variable {Item Value : Nat → Type} [∀ name, Element Object (Item name)]
  [∀ name, Element Object (Value name)]

namespace Instruction

def own? : Instruction Object (Stack Object) Item Value α → Option Stack.OwnCall
  | host call => call.own?
  | _ => none

theorem accounted {instruction : Instruction Object (Stack Object) Item Value α}
    (shared : instruction.own? = none) : instruction.operation.Accounted Prod.snd := by
  cases instruction with
  | host call => exact (HostCall.accounted shared).within (fun _ => rfl) fun _ _ => rfl
  | newArray name capacity =>
    apply Shelf.Place.accounted_build
    cases capacity with
    | none => exact (Aloof.of_pure ()).accounted
    | some capacity => exact GrowArray.accounted_createWithCapacity capacity
  | onArray name call => exact Shelf.Place.accounted_use _ true call.accounted
  | dropArray name => exact Shelf.Place.accounted_use _ false GrowArray.accounted_dispose
  | newPool name config =>
    apply Shelf.Place.accounted_build
    cases config with
    | none => exact (Aloof.of_pure ()).accounted
    | some config => exact Pool.accounted_create config
  | onPool name call => exact Shelf.Place.accounted_use _ true call.accounted
  | dropPool name => exact Shelf.Place.accounted_use _ false Pool.accounted_dispose
  | destroyPool name => exact Shelf.Place.accounted_use _ false Pool.accounted_destroy
  | inspect look =>
    exact fun state => Outcome.Aloof.accounted ⟨.refl state.2, rfl, .of_ok _⟩

theorem books_of_own {instruction : Instruction Object (Stack Object) Item Value α}
    {call : Stack.OwnCall} (own : instruction.own? = some call)
    (bench : Shelf Item Value × Stack Object) :
    call.Books bench.2 (instruction.operation.run bench).state.2
      (instruction.operation.run bench).result
      (Effect.counted (instruction.operation.run bench).effects) := by
  cases instruction with
  | host hosted =>
    cases hosted with
    | own call =>
      cases own
      exact call.books bench.2
    | _ => cases own
  | _ => cases own

/-- The counts are forgotten by the step, if it is answered. -/
def forgets (instruction : Instruction Object (Stack Object) Item Value α) : Bool :=
  instruction.own?.any Stack.OwnCall.forgets

/-- The counted events since the counts were last forgotten, after one more step. -/
def note (instruction : Instruction Object (Stack Object) Item Value α)
    (bench : Shelf Item Value × Stack Object) (record : List Event) : List Event :=
  if instruction.forgets && (instruction.operation.run bench).result.isOk then []
  else record ++ Effect.counted (instruction.operation.run bench).effects

/-- The stack counted what is on record, if it counts at all. -/
structure OnRecord (config : StackConfig) (stack : Stack Object) (record : List Event) : Prop where
  kept : stack.config = config
  counters : stack.counters = if config.trackStats then Counters.zero.noteAll record else .zero

/-- A stack that counts says how often each kind of event is on record, and one that does not says zero. -/
theorem OnRecord.counts {config : StackConfig} {stack : Stack Object} {record : List Event}
    (recorded : OnRecord config stack record) :
    stack.statistics.allocations = (if config.trackStats then record.countP Event.isPush else 0) ∧
      stack.statistics.deallocations = (if config.trackStats then record.countP Event.isPop else 0) ∧
      stack.statistics.reallocations =
        (if config.trackStats then record.countP Event.isResize else 0) ∧
      stack.statistics.failures =
        (if config.trackStats then record.countP Event.isShortage else 0) := by
  obtain ⟨allocations, deallocations, reallocations, failures⟩ :=
    Counters.noteAll_counts record Counters.zero
  have counters := recorded.counters
  simp only [Stack.statistics, Counters.report]
  rw [counters]
  cases config.trackStats with
  | false => exact ⟨rfl, rfl, rfl, rfl⟩
  | true =>
    simp only [if_true, allocations, deallocations, reallocations, failures]
    simp [Counters.zero]

/-- To forget the counts is to begin a new record. -/
theorem recorded_own {config : StackConfig} {record events : List Event} {before after : Stack Object}
    {result : Except Fault α} {call : Stack.OwnCall} (books : call.Books before after result events)
    (recorded : OnRecord config before record) :
    OnRecord config after (if call.forgets && result.isOk then [] else record ++ events) := by
  obtain ⟨kept, counters⟩ := recorded
  refine ⟨books.config.trans kept, ?_⟩
  cases forgot : call.forgets && result.isOk with
  | true =>
    obtain ⟨forgets, answered⟩ := Bool.and_eq_true_iff.mp forgot
    cases tracks : config.trackStats with
    | true => exact books.forgotten forgets answered (kept ▸ tracks)
    | false =>
      rw [tracks] at counters
      rcases books.untracked (kept ▸ tracks) with same | zero
      · exact same.trans counters
      · exact zero
  | false =>
    rw [if_neg Bool.false_ne_true, books.uncounted, List.append_nil,
      books.kept (Bool.and_eq_false_iff.mp forgot)]
    exact counters

theorem recorded_step {config : StackConfig} {record : List Event}
    (instruction : Instruction Object (Stack Object) Item Value α)
    {bench : Shelf Item Value × Stack Object} (recorded : OnRecord config bench.2 record) :
    OnRecord config (instruction.operation.run bench).state.2 (instruction.note bench record) := by
  cases own : instruction.own? with
  | none =>
    obtain ⟨kept, counters⟩ := recorded
    have account := instruction.accounted own bench
    have lasting : instruction.forgets = false := by rw [forgets, own]; rfl
    refine ⟨account.config.trans kept, ?_⟩
    rw [account.counters, Stack.counters_counted_eq, kept, counters, note, lasting, Bool.false_and,
      if_neg Bool.false_ne_true]
    cases config.trackStats with
    | false => rfl
    | true => exact List.foldl_append.symm
  | some call =>
    have called : instruction.forgets = call.forgets := by rw [forgets, own]; rfl
    rw [note, called]
    exact recorded_own (books_of_own own bench) recorded

theorem length_note_le (instruction : Instruction Object (Stack Object) Item Value α)
    (bench : Shelf Item Value × Stack Object) (record : List Event) :
    (instruction.note bench record).length ≤ record.length + 1 := by
  have single : (Effect.counted (instruction.operation.run bench).effects).length ≤ 1 := by
    cases own : instruction.own? with
    | none => exact (instruction.accounted own bench).length_le
    | some call =>
      rw [(books_of_own own bench).uncounted]
      exact Nat.zero_le 1
  rw [note]
  split
  · exact Nat.zero_le _
  · rw [List.length_append]
    exact Nat.add_le_add_left single _

theorem counters_of_violation {instruction : Instruction Object (Stack Object) Item Value α}
    {bench : Shelf Item Value × Stack Object} {component details : String}
    (misused : (instruction.operation.run bench).result =
      .error (.aborted (.violation component details))) :
    (instruction.operation.run bench).state.2.counters = bench.2.counters := by
  cases own : instruction.own? with
  | none =>
    have account := instruction.accounted own bench
    rw [Outcome.Accounted, misused] at account
    exact account.counters_of_fault rfl
  | some call => exact (books_of_own own bench).kept (.inr (by rw [misused]; rfl))

end Instruction

namespace Program
open Instruction

/-- The counted events of a program since the counts were last forgotten, added to those on record. -/
def record : Program Object (Stack Object) Item Value → Shelf Item Value × Stack Object → List Event →
    List Event
  | [], _, events => events
  | step :: rest, bench, events =>
    record rest (step.2.operation.run bench).state (step.2.note bench events)

theorem recorded_after {config : StackConfig} (program : Program Object (Stack Object) Item Value)
    {bench : Shelf Item Value × Stack Object} {events : List Event}
    (recorded : OnRecord config bench.2 events) :
    OnRecord config (program.after bench).2 (program.record bench events) ∧
      (program.record bench events).length ≤ events.length + program.length := by
  induction program generalizing bench events with
  | nil => exact ⟨recorded, Nat.le_refl _⟩
  | cons step rest ih =>
    obtain ⟨last, length⟩ := ih (recorded_step step.2 recorded)
    have more := step.2.length_note_le bench events
    refine ⟨last, ?_⟩
    rw [List.length_cons]
    exact Nat.le_trans length (by omega)

/-- Whatever a program did on a new stack that counts, its statistics say how many events of each kind
there were since the counts were last forgotten. What is on record is what happened: a step adds what became
of the offsets, and a call that is answered adds what it was asked for. -/
theorem statistics_counted (shape : StackShape) (config : StackConfig)
    (program : Program Object (Stack Object) Item Value) :
    let bench := program.after (.bare, .empty shape config)
    let record := program.record (.bare, .empty shape config) []
    bench.2.statistics.allocations =
        (if config.trackStats then record.countP Event.isPush else 0) ∧
      bench.2.statistics.deallocations =
        (if config.trackStats then record.countP Event.isPop else 0) ∧
      bench.2.statistics.reallocations =
        (if config.trackStats then record.countP Event.isResize else 0) ∧
      bench.2.statistics.failures =
        (if config.trackStats then record.countP Event.isShortage else 0) ∧
      bench.2.statistics.allocatedBytes = bench.2.used ∧ record.length ≤ program.length ∧
      (∀ address newSize oldSize, address ≠ bench.2.top → newSize ≠ 0 →
        ((Stack.resize (some address) newSize oldSize).run bench.2).state = bench.2) ∧
      ∀ (α : Type) (next : Instruction Object (Stack Object) Item Value α),
        let outcome := next.operation.run bench
        (next.own? = none →
          bench.2.Account outcome.state.2 outcome.result (Effect.counted outcome.effects) ∧
            ((Effect.counted outcome.effects).countP Event.isShortage = 1 ↔
              ∃ fault, outcome.result = .error fault ∧ fault.isShortage = true)) ∧
          (∀ call answer, next = .host call → outcome.result = .ok answer →
            Effect.counted outcome.effects = call.due bench.2 answer) ∧
          (next.own? = some .releaseAll → outcome.state.2.counters = bench.2.counters) ∧
          ∀ component details,
            outcome.result = .error (.aborted (.violation component details)) →
              outcome.state.2.counters = bench.2.counters := by
  intro bench record
  have begun : OnRecord config (Stack.empty shape config : Stack Object) [] := by
    refine ⟨rfl, ?_⟩
    cases config.trackStats <;> rfl
  obtain ⟨recorded, length⟩ : OnRecord config bench.2 record ∧ record.length ≤ 0 + program.length :=
    program.recorded_after begun
  obtain ⟨allocations, deallocations, reallocations, failures⟩ := recorded.counts
  refine ⟨allocations, deallocations, reallocations, failures, rfl, length.trans_eq (Nat.zero_add _), ?_, ?_⟩
  · exact fun address newSize oldSize other asked => Stack.state_resize_of_other other asked oldSize
  · intro α next outcome
    refine ⟨fun shared => ?_, ?_, fun own => (books_of_own own bench).kept (.inl rfl), ?_⟩
    · have account := next.accounted shared bench
      exact ⟨account, account.shortage_iff⟩
    · rintro call answer rfl answered
      exact HostCall.counted_of_answered answered
    · exact fun component details misused => counters_of_violation misused

end Program
end Recording

/-- An array is given a block, more bytes than are left are asked for, the array is given up, and its block
is released once more, which is a misuse. -/
example : (Program.after
    ([⟨_, .newArray 0 (some 1)⟩, ⟨_, .host (.allocate 40)⟩, ⟨_, .dropArray 0⟩,
      ⟨_, .host (.release (some 8))⟩] :
        Program Value (Stack Value) (fun _ => UInt32) (fun _ => UInt32))
    (.bare, .empty ⟨64, 8, rfl, by decide, by decide, rfl, by decide⟩ .debug)).2.statistics =
      ⟨0, 24, 1, 1, 0, 1⟩ := by decide +kernel

end Allotment
