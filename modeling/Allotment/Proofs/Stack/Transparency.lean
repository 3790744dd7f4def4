import Allotment.Proofs.Stack.Lockstep

namespace Allotment.Stack.Session
variable {Object : Type} {session : Session Object} {call : Call Object} {address : Nat}
  {known : Nat → Prop}

/-- The call sets the byte at the address: its caller writes it, or it is cleared in a new block. -/
def Sets (session : Session Object) (call : Call Object) (address : Nat) : Prop :=
  call.Targets address ∨ ∃ size start, call = .allocateZeroed size ∧
    session.answer call = .ok (some start) ∧ start ≤ address ∧ address < start + size

/-- The addresses at which bytes of live blocks are known after a call, of those at which they were known
before and those the call sets. -/
def Knows (session : Session Object) (call : Call Object) (known : Nat → Prop) (address : Nat) : Prop :=
  (known address ∨ session.Sets call address) ∧ (session.perform call).Occupies address

/-- The addresses at which bytes are known after calls: those that were set and have been in a live block
ever since. -/
def knownAfter : Session Object → List (Call Object) → (Nat → Prop) → Nat → Prop
  | _, [], known => known
  | session, call :: rest, known => (session.perform call).knownAfter rest (session.Knows call known)

/-- A byte that was in a live block and still is changes only if its caller writes it. -/
theorem Transition.kept_in_place {before after : Session Object} (transition : Transition before call after)
    (valid : before.Valid) (held : before.Occupies address) (holds : after.Occupies address)
    (missed : ¬ call.Targets address) :
    after.stack.memory.load address = before.stack.memory.load address := by
  obtain ⟨block, live, covers⟩ := held
  obtain ⟨later, alive, covers'⟩ := holds
  have last := covers.2
  have last' := covers'.2
  have inside : block.stop ≤ before.stack.used := (valid.chain.bounds live).2.2.2.1
  -- below a block on top that is given up or resized, all others end in front of its header
  have under : ∀ {top : Extent} {rest : List Extent}, before.blocks = top :: rest → later ∈ rest →
      address < top.start := by
    intro top rest stacked deeper
    have apart := valid.chain.separated
    rw [stacked] at apart
    have gap := (List.pairwise_cons.mp apart).1 later deeper
    omega
  cases transition.change with
  | idle blocks offsets memory => rw [memory]
  | @pushed size fresh requested placed blocks offsets header kept =>
    obtain ⟨room, _⟩ := placement?_some placed
    exact kept address (by omega)
  | popped stacked released blocks offsets kept =>
    rw [blocks] at alive
    exact kept address (under stacked alive)
  | @resized top rest newSize oldSize stacked asked called fits blocks offsets kept =>
    obtain ⟨_, stop, _⟩ := valid.top_offsets stacked
    rw [blocks] at alive
    rcases List.mem_cons.mp alive with rfl | deeper
    · have joined : address < top.start + newSize := last'
      exact kept address (by omega)
    · have below := under stacked deeper
      exact kept address (by omega)
  | cleared bulk blocks =>
    rw [blocks] at alive
    cases alive
  | written blocks offsets kept => exact kept address missed

/-- Two sessions that hold the same bytes wherever they are known, which is in live blocks. -/
structure Agreeing (known : Nat → Prop) (one other : Session Object) : Prop where
  lockstep : Lockstep one other
  occupied : ∀ address, known address → one.Occupies address
  agree : ∀ address, known address →
    one.stack.memory.load address = other.stack.memory.load address

namespace Agreeing
variable {one other : Session Object}

/-- What a call sets is the same in both, whatever the stacks fill blocks with. -/
theorem set (lockstep : Lockstep one other) (sets : one.Sets call address) :
    (one.perform call).stack.memory.load address = (other.perform call).stack.memory.load address := by
  have carried := lockstep.valid.carriesOut call
  have carried' := lockstep.valid'.carriesOut call
  rw [carried.stack, carried'.stack, ← lockstep.decision call]
  rcases sets with target | ⟨size, start, rfl, answered, first, last⟩
  · cases call with
    | write start cells =>
      have inside : address - start < cells.length := by
        have bounds : start ≤ address ∧ address < start + cells.length := target
        omega
      change (one.stack.memory.storeRange start cells).load address =
        (other.stack.memory.storeRange start cells).load address
      rw [Memory.load_storeRange, Memory.load_storeRange, if_pos target.1, if_pos target.1,
        List.getElem?_eq_getElem inside, Option.getD_some, Option.getD_some]
    | _ => exact target.elim
  · rw [carried.answer] at answered
    change (Decision.answer (one.stack.onRequest size true) one.stack) = _ at answered
    change ((one.stack.onRequest size true).next one.stack).memory.load address =
      ((one.stack.onRequest size true).next other.stack).memory.load address
    rw [onRequest] at answered ⊢
    split at answered
    · cases answered
    · cases answered
      change ((one.stack.pushed _ _).memory.fill start size Cell.zero).load address =
        ((other.stack.pushed _ _).memory.fill start size Cell.zero).load address
      rw [Memory.load_fill, Memory.load_fill, if_pos ⟨first, last⟩, if_pos ⟨first, last⟩]

theorem perform (agreeing : Agreeing known one other) (confined : call.Confined one.blocks) :
    Agreeing (one.Knows call known) (one.perform call) (other.perform call) := by
  obtain ⟨lockstep, occupied, agree⟩ := agreeing
  have lockstep' := lockstep.perform (.same call) confined
  refine ⟨lockstep', fun address knows => knows.2, ?_⟩
  rintro address ⟨before | sets, holds⟩
  · by_cases target : call.Targets address
    · exact set lockstep (.inl target)
    · have held := occupied address before
      have held' := (lockstep.occupies_iff address).mp held
      have holds' := (lockstep'.occupies_iff address).mp holds
      rw [(lockstep.valid.transition call).kept_in_place lockstep.valid held holds target,
        (lockstep.valid'.transition call).kept_in_place lockstep.valid' held' holds' target]
      exact agree address before
  · exact set lockstep sets

theorem after (agreeing : Agreeing known one other) {calls : List (Call Object)}
    (permitted : one.Permits calls) :
    one.answers calls = other.answers calls ∧
      Agreeing (one.knownAfter calls known) (one.after calls) (other.after calls) := by
  induction calls generalizing one other known with
  | nil => exact ⟨rfl, agreeing⟩
  | cons call rest ih =>
    obtain ⟨answers, last⟩ := ih (agreeing.perform permitted.1) permitted.2
    refine ⟨?_, last⟩
    rw [Session.answers, Session.answers, agreeing.lockstep.answer (.same call), answers]

end Agreeing

/-- A client of a stack, who calls and reads in any order and goes on from what that tells. -/
inductive Client (Object : Type) where
  | stop
  | call (call : Call Object) (next : Except Fault (Option Nat) → Client Object)
  | read (start count : Nat) (next : List (Cell Object) → Client Object)

namespace Client

/-- What a client is told, in order: the answers of calls, and what is read. -/
def learns : Client Object → Session Object → List (Except Fault (Option Nat) ⊕ List (Cell Object))
  | .stop, _ => []
  | .call called next, session =>
    .inl (session.answer called) :: (next (session.answer called)).learns (session.perform called)
  | .read start count next, session =>
    .inr (session.stack.memory.loadRange start count) ::
      (next (session.stack.memory.loadRange start count)).learns session

/-- A client who writes to live blocks only and reads known bytes only. -/
def Careful : Client Object → Session Object → (Nat → Prop) → Prop
  | .stop, _, _ => True
  | .call called next, session, known => called.Confined session.blocks ∧
    (next (session.answer called)).Careful (session.perform called) (session.Knows called known)
  | .read start count next, session, known =>
    (∀ address, start ≤ address → address < start + count → known address) ∧
      (next (session.stack.memory.loadRange start count)).Careful session known

private theorem learns_of_agreeing {one other : Session Object} (client : Client Object)
    (agreeing : Agreeing known one other) (careful : client.Careful one known) :
    client.learns one = client.learns other := by
  induction client generalizing one other known with
  | stop => rfl
  | call called next ih =>
    have same := agreeing.lockstep.answer (.same called)
    have rest := ih (one.answer called) (agreeing.perform careful.1) careful.2
    rw [learns, learns, ← same, rest]
  | read start count next ih =>
    have same : one.stack.memory.loadRange start count = other.stack.memory.loadRange start count :=
      Memory.loadRange_congr fun address first last => agreeing.agree address (careful.1 address first last)
    have rest := ih _ agreeing careful.2
    rw [learns, learns, ← same, rest]

end Client

/-- Two new stacks of one shape cannot be told apart by how they are configured, if want of room is fatal to
both or to neither. Bytes that a caller wrote or asked to be cleared are the same in both. -/
theorem transparency {capacity align : Nat} {config config' : StackConfig}
    (failFast : config.failFast = config'.failFast) {stack stack' : Stack Object}
    {done done' : List (Effect Object)}
    (built : (Stack.create capacity align config).run () = ⟨.ok stack, (), done⟩)
    (built' : (Stack.create capacity align config').run () = ⟨.ok stack', (), done'⟩) :
    (∀ calls : List (Call Object), Permits ⟨stack, []⟩ calls →
      answers ⟨stack, []⟩ calls = answers ⟨stack', []⟩ calls ∧
        (after ⟨stack, []⟩ calls).stack.offsets = (after ⟨stack', []⟩ calls).stack.offsets ∧
        (after ⟨stack, []⟩ calls).blocks = (after ⟨stack', []⟩ calls).blocks ∧
        ∀ address, knownAfter ⟨stack, []⟩ calls (fun _ => False) address →
          (after ⟨stack, []⟩ calls).Occupies address ∧
            (after ⟨stack, []⟩ calls).stack.memory.load address =
              (after ⟨stack', []⟩ calls).stack.memory.load address) ∧
    ∀ client : Client Object, client.Careful ⟨stack, []⟩ (fun _ => False) →
      client.learns ⟨stack, []⟩ = client.learns ⟨stack', []⟩ := by
  obtain ⟨shape, passed, rfl⟩ := checked_of_create built
  obtain ⟨shape', passed', rfl⟩ := checked_of_create built'
  obtain rfl : shape = shape' := Except.ok.inj (passed.symm.trans passed')
  have nothing : Agreeing (fun _ => False) (⟨empty shape config, []⟩ : Session Object)
      ⟨empty shape config', []⟩ :=
    ⟨⟨.of_empty shape config, .of_empty shape config', rfl, failFast, rfl⟩, fun _ => False.elim,
      fun _ => False.elim⟩
  constructor
  · intro calls permitted
    obtain ⟨answers, last⟩ := nothing.after permitted
    exact ⟨answers, last.lockstep.offsets, last.lockstep.blocks,
      fun address known => ⟨last.occupied address known, last.agree address known⟩⟩
  · intro client careful
    exact client.learns_of_agreeing nothing careful

/-- A block of eight bytes, three of them written, shrinks to five and grows again. In debugging and in
production the three bytes are the same, whatever the others were filled with, and a client who reads them
learns the same. -/
theorem transparency_of_presets :
    ∃ one other : Stack Unit, one.config = .debug ∧ other.config = .production ∧
      (∀ address, 9 ≤ address → address < 12 →
        (after ⟨one, []⟩ [.allocate 8, .write 9 (List.replicate 3 (.byte 1)), .resize (some 8) 5 8,
            .resize (some 8) 9 5]).stack.memory.load address =
          (after ⟨other, []⟩ [.allocate 8, .write 9 (List.replicate 3 (.byte 1)), .resize (some 8) 5 8,
            .resize (some 8) 9 5]).stack.memory.load address) ∧
      ∃ client : Client Unit, (client.learns ⟨one, []⟩).length = 3 ∧
        client.learns ⟨one, []⟩ = client.learns ⟨other, []⟩ := by
  have built : (Stack.create 64 8 .debug : Step Unit Unit (Stack Unit)).run () =
      ⟨.ok (.empty ⟨64, 8, rfl, by decide, by decide, rfl, by decide⟩ .debug), (),
        [.logged (.stackCreated 64 8 .debug)]⟩ := rfl
  have built' : (Stack.create 64 8 .production : Step Unit Unit (Stack Unit)).run () =
      ⟨.ok (.empty ⟨64, 8, rfl, by decide, by decide, rfl, by decide⟩ .production), (),
        [.logged (.stackCreated 64 8 .production)]⟩ := rfl
  have alike : StackConfig.debug.failFast = StackConfig.production.failFast := rfl
  obtain ⟨called, learned⟩ := transparency alike built built'
  have inside : (Call.write 9 (List.replicate 3 (.byte 1)) : Call Unit).Confined [⟨8, 16⟩] :=
    fun address target => ⟨⟨8, 16⟩, List.mem_cons_self .., Nat.le_of_succ_le target.1,
      Nat.lt_of_lt_of_le target.2 (by decide)⟩
  have occupied : ∀ address, 9 ≤ address → address < 12 → ∀ stop, 12 ≤ stop →
      ∃ block ∈ [(⟨8, stop⟩ : Extent)], block.Covers address := fun address first last stop behind =>
    ⟨⟨8, stop⟩, List.mem_cons_self .., Nat.le_of_succ_le first, Nat.lt_of_lt_of_le last behind⟩
  refine ⟨.empty ⟨64, 8, rfl, by decide, by decide, rfl, by decide⟩ .debug,
    .empty ⟨64, 8, rfl, by decide, by decide, rfl, by decide⟩ .production, rfl, rfl, ?_,
    .call (.allocate 8) fun _ => .call (.write 9 (List.replicate 3 (.byte 1))) fun _ =>
      .read 9 3 fun _ => .stop, rfl, ?_⟩
  · intro address first last
    obtain ⟨_, _, _, agree⟩ := called
      [.allocate 8, .write 9 (List.replicate 3 (.byte 1)), .resize (some 8) 5 8, .resize (some 8) 9 5]
      ⟨fun _ target => target.elim, inside, fun _ target => target.elim, fun _ target => target.elim,
        trivial⟩
    have held := occupied address first last
    have written : (Call.write 9 (List.replicate 3 (.byte 1)) : Call Unit).Targets address :=
      ⟨first, last⟩
    exact (agree address ⟨.inl ⟨.inl ⟨.inr (.inl written), held 16 (by decide)⟩, held 13 (by decide)⟩,
      held 17 (by decide)⟩).2
  · refine learned _ ⟨fun _ target => target.elim, inside, ?_, trivial⟩
    intro address first last
    exact ⟨.inr (.inl ⟨first, last⟩), occupied address first last 16 (by decide)⟩

end Allotment.Stack.Session
