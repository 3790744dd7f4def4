import Mathlib.Data.List.Nodup
import Allotment.Element.Value
import Allotment.Proofs.Allocator.Effects
import Allotment.Proofs.GrowArray.Growth
import Allotment.Proofs.Stack.Isolation

namespace Allotment

namespace Allocator
variable {Object σ T : Type} [Allocator Object σ] [Element Object T] {host last : σ}
  {done : List (Effect Object)}

theorem run_allocateValue_of_error (aligned : Element.alignment T ≤ alignment host) {fault : Fault}
    (ran : (allocate (Element.size T)).run host = ⟨.error fault, last, done⟩) (value : T) :
    (allocateValue value).run host =
      ⟨.error fault, last, done ++ (Element.destructors value).map .destroyed⟩ := by
  refine Step.run_owning_of_error ?_
  rw [Step.run_bind_of_quiet (run_checkAlignment aligned), Step.run_bind_of_error ran]

theorem run_allocateValue_of_strict (strict : alignment host < Element.alignment T) (value : T) :
    (allocateValue value).run host = ⟨.error (.refused
      (.invalidAlignment (Element.alignment T) (alignment host))), host,
        (Element.destructors value).map .destroyed⟩ :=
  Step.run_owning_of_error (Step.run_bind_of_error (run_checkAlignment_of_strict strict) _)

theorem run_allocateValue_of_ok (aligned : Element.alignment T ≤ alignment host) {address : Nat}
    (ran : (allocate (Element.size T)).run host = ⟨.ok address, last, done⟩) (value : T) :
    (allocateValue value).run host =
      ⟨.ok address, withMemory last (Element.store (memory last) address value), done⟩ := by
  refine Step.run_owning_of_ok ?_
  rw [Step.run_bind_of_quiet (run_checkAlignment aligned), Step.run_bind_of_ok ran]
  exact congrArg (Outcome.mk _ _) (List.append_nil done)

private theorem run_releaseValue (T : Type) [Element Object T] (address : Nat) (host : σ) :
    (releaseValue T address).run host =
      ⟨((release (some address)).run host).result, ((release (some address)).run host).state,
        (Element.destructors (Element.load T (memory host) address)).map .destroyed ++
          ((release (some address)).run host).effects⟩ := by
  have reads : (readMemory (Element.load T · address) : Step Object σ T).run host =
      ⟨.ok (Element.load T (memory host) address), host, []⟩ := rfl
  rw [releaseValue, Step.run_bind_of_quiet reads, Step.run_bind_of_ok (Step.run_destroy _ host)]

theorem run_allocateArray (T : Type) [Element Object T] (count : Nat) (host : σ) :
    (∃ fault, (allocateArray T count).run host = ⟨.error fault, host, []⟩) ∨
      ∃ size, (allocateArray T count).run host = (allocate size).run host := by
  have sized := run_sized T count "alloc_array" allocate host
  split at sized
  · exact .inl ⟨_, sized⟩
  · split at sized
    · exact .inl ⟨_, sized⟩
    · exact .inr ⟨_, sized⟩

end Allocator

namespace Stack.Session
variable {Object : Type} {session : Stack.Session Object} {block : Extent}

private theorem mem_perform_allocate (live : block ∈ session.blocks) (size : Nat) :
    block ∈ (session.perform (.allocate size)).blocks := by
  change block ∈ session.hold (.allocate size) session.blocks
  rw [hold]
  rcases session.answer (.allocate size) with fault | _ | start
  · exact live
  · exact live
  · exact List.mem_cons_of_mem _ live

private theorem mem_perform_release (live : block ∈ session.blocks) {address : Nat}
    (other : block.start ≠ address) : block ∈ (session.perform (.release (some address))).blocks := by
  change block ∈ session.hold (.release (some address)) session.blocks
  rw [hold]
  cases session.answer (.release (some address)) with
  | ok answer => exact List.mem_filter.mpr ⟨live, by simpa using other⟩
  | error _ => exact live

end Stack.Session

/-- A value that was moved into a block, at which turn, and where. -/
structure Stored (Object : Type) where
  serial : Nat
  {T : Type}
  [element : Element Object T]
  [lawful : LawfulElement Object T]
  value : T
  address : Nat

namespace Stored
attribute [instance] element lawful

variable {Object : Type}

/-- The block of the value. -/
def extent (entry : Stored Object) : Extent :=
  ⟨entry.address, entry.address + Element.size entry.T⟩

/-- The value is where it was stored. -/
def Loaded (entry : Stored Object) (memory : Memory Object) : Prop :=
  Element.load entry.T memory entry.address = entry.value

end Stored

/-- What is done to values and raw blocks on a stack. -/
inductive ValueCall (Object : Type) : Type 1 where
  | store {T : Type} [Element Object T] [LawfulElement Object T] (value : T)
  | drop (entry : Stored Object)
  | allocate (size : Nat)
  | allocateArray (T : Type) [Element Object T] (count : Nat)
  | release (block : Option Nat)

namespace ValueCall
variable {Object : Type}

def operation : ValueCall Object → Step Object (Stack Object) (Option Nat)
  | store value => some <$> Allocator.allocateValue value
  | drop entry => (fun _ => none) <$> Allocator.releaseValue entry.T entry.address
  | allocate size => some <$> Allocator.allocate size
  | allocateArray T count => some <$> Allocator.allocateArray T count
  | release block => (fun _ => none) <$> Allocator.release block

/-- The stored values after a call that was answered. -/
def ledger (call : ValueCall Object) (turn : Nat) (answer : Option Nat)
    (stored : List (Stored Object)) : List (Stored Object) :=
  match call, answer with
  | store value, some address => ⟨turn, value, address⟩ :: stored
  | drop entry, _ => stored.filter fun other => other.address != entry.address
  | release (some address), _ => stored.filter fun other => other.address != address
  | _, _ => stored

private theorem mem_ledger {call : ValueCall Object} {turn : Nat} {answer : Option Nat}
    {stored : List (Stored Object)} {entry : Stored Object}
    (member : entry ∈ call.ledger turn answer stored) : entry.serial = turn ∨ entry ∈ stored := by
  match call, answer, member with
  | store value, some address, member =>
    rcases List.mem_cons.mp member with rfl | older
    · exact .inl rfl
    · exact .inr older
  | store value, none, member => exact .inr member
  | drop dropped, _, member => exact .inr (List.mem_of_mem_filter member)
  | allocate size, _, member => exact .inr member
  | allocateArray T count, _, member => exact .inr member
  | release none, _, member => exact .inr member
  | release (some address), _, member => exact .inr (List.mem_of_mem_filter member)

end ValueCall

/-- A stack, the values that are stored in blocks of it, last stored first, and the number of calls. -/
structure ValueSession (Object : Type) where
  stack : Stack Object
  stored : List (Stored Object)
  turn : Nat

namespace ValueSession
variable {Object : Type} {session : ValueSession Object} {call : ValueCall Object}

def answer (session : ValueSession Object) (call : ValueCall Object) : Except Fault (Option Nat) :=
  (call.operation.run session.stack).result

/-- The session after a call. A fault is caught, and the stored values are held to be there still. -/
def perform (session : ValueSession Object) (call : ValueCall Object) : ValueSession Object where
  stack := (call.operation.run session.stack).state
  stored := match session.answer call with
    | .ok answer => call.ledger session.turn answer session.stored
    | .error _ => session.stored
  turn := session.turn + 1

def after (session : ValueSession Object) (calls : List (ValueCall Object)) : ValueSession Object :=
  calls.foldl perform session

/-- The stack with blocks that are live. -/
def base (session : ValueSession Object) (blocks : List Extent) : Stack.Session Object :=
  ⟨session.stack, blocks⟩

/-- Each stored value has a live block and is there, and no two were stored at the same turn. -/
structure Sound (session : ValueSession Object) (blocks : List Extent) : Prop where
  valid : (session.base blocks).Valid
  live : ∀ entry ∈ session.stored, entry.extent ∈ blocks
  loaded : ∀ entry ∈ session.stored, entry.Loaded session.stack.memory
  earlier : ∀ entry ∈ session.stored, entry.serial < session.turn
  distinct : (session.stored.map Stored.serial).Nodup

theorem run_map_of_run {α β : Type} {operation : Step Object (Stack Object) α} {stack last : Stack Object}
    {result : Except Fault α} {done : List (Effect Object)}
    (ran : operation.run stack = ⟨result, last, done⟩) (change : α → β) :
    (change <$> operation).run stack = ⟨result.map change, last, done⟩ := by
  rw [Step.run_map, ran]

/-- A value is read back as long as the bytes of its block stay. -/
private theorem loaded_of_agree {entry : Stored Object} {memory other : Memory Object}
    (agree : ∀ address, entry.extent.Covers address → other.load address = memory.load address)
    (loaded : entry.Loaded memory) : entry.Loaded other := by
  have same : other.loadRange entry.address (Element.size entry.T) =
      memory.loadRange entry.address (Element.size entry.T) :=
    Memory.loadRange_congr fun address first last => agree address ⟨first, last⟩
  rw [Stored.Loaded, Element.load, same]
  exact loaded

namespace Sound
variable {blocks : List Extent} (sound : session.Sound blocks)
include sound

theorem forget {stored : List (Stored Object)} (fewer : stored.Sublist session.stored) {turn : Nat}
    (later : session.turn ≤ turn) : Sound ⟨session.stack, stored, turn⟩ blocks where
  valid := sound.valid
  live entry member := sound.live entry (fewer.mem member)
  loaded entry member := sound.loaded entry (fewer.mem member)
  earlier entry member := Nat.lt_of_lt_of_le (sound.earlier entry (fewer.mem member)) later
  distinct := sound.distinct.sublist (fewer.map _)

/-- A raw call that writes to no stored value leaves those alone whose blocks stay live. -/
theorem raw (raw : Stack.Call Object) (confined : raw.Confined blocks)
    (harmless : ∀ entry ∈ session.stored, ∀ address, entry.extent.Covers address → ¬ raw.Targets address)
    (kept : ∀ entry ∈ session.stored, entry.extent ∈ ((session.base blocks).perform raw).blocks) :
    Sound ⟨((session.base blocks).perform raw).stack, session.stored, session.turn⟩
      ((session.base blocks).perform raw).blocks where
  valid := sound.valid.perform confined
  live := kept
  loaded entry member := by
    have stays := (sound.valid.transition raw).kept sound.valid (sound.live entry member)
      (kept entry member) rfl
    exact loaded_of_agree (fun address covers =>
      stays.2 address covers covers (harmless entry member address covers)) (sound.loaded entry member)
  earlier := sound.earlier
  distinct := sound.distinct

/-- A request leaves all stored values alone, whether it is granted or not. -/
theorem requested (size : Nat) :
    Sound ⟨((session.base blocks).perform (.allocate size)).stack, session.stored, session.turn⟩
      ((session.base blocks).perform (.allocate size)).blocks := by
  refine sound.raw _ (fun _ target => target.elim) (fun _ _ _ _ target => target) ?_
  intro entry member
  exact Stack.Session.mem_perform_allocate (sound.live entry member) size

theorem asked {size : Nat} {result : Except Fault Nat} {last : Stack Object}
    {done : List (Effect Object)}
    (ran : (Allocator.allocate size : Step Object (Stack Object) Nat).run session.stack =
      ⟨result, last, done⟩) :
    ∃ later, Sound ⟨last, session.stored, session.turn + 1⟩ later := by
  have asks := sound.requested size
  have reached : ((session.base blocks).perform (.allocate size)).stack = last := by
    change ((some <$> _ : Step Object (Stack Object) (Option Nat)).run session.stack).state = last
    rw [run_map_of_run ran]
  rw [reached] at asks
  exact ⟨_, asks.forget (List.Sublist.refl _) (Nat.le_succ _)⟩

private theorem given_back (address : Nat) :
    Sound ⟨((session.base blocks).perform (.release (some address))).stack,
        session.stored.filter fun entry => entry.address != address, session.turn⟩
      ((session.base blocks).perform (.release (some address))).blocks := by
  have others : Sound ⟨session.stack, session.stored.filter fun entry => entry.address != address,
      session.turn⟩ blocks := sound.forget List.filter_sublist (Nat.le_refl _)
  refine others.raw _ (fun _ target => target.elim) (fun _ _ _ _ target => target) ?_
  intro entry member
  obtain ⟨present, other⟩ := List.mem_filter.mp member
  have elsewhere : entry.extent.start ≠ address := ne_of_beq_false (Bool.not_eq_true' _ ▸ other)
  exact Stack.Session.mem_perform_release (sound.live entry present) elsewhere

theorem stored_at {T : Type} [Element Object T] [LawfulElement Object T] (value : T) {address : Nat}
    {last : Stack Object} {done : List (Effect Object)}
    (ran : (Allocator.allocate (Element.size T) : Step Object (Stack Object) Nat).run session.stack =
      ⟨.ok address, last, done⟩) :
    ∃ later, Sound ⟨{ last with memory := Element.store last.memory address value },
      ⟨session.turn, value, address⟩ :: session.stored, session.turn + 1⟩ later := by
  have called : (Stack.Call.allocate (Element.size T)).operation.run (session.base blocks).stack =
      ⟨.ok (some address), last, done⟩ := by
    change (some <$> _ : Step Object (Stack Object) (Option Nat)).run session.stack = _
    rw [Step.run_map, ran]
    rfl
  have granted := sound.requested (Element.size T)
  rw [Stack.Session.perform_of_ok called] at granted
  have granted : Sound ⟨last, session.stored, session.turn⟩
      (⟨address, address + Element.size T⟩ :: blocks) := granted
  have length : (Element.encode value).length = Element.size T := LawfulElement.length_encode value
  have written := granted.raw (.write address (Element.encode value)) ?confined ?harmless ?kept
  case confined =>
    rintro other ⟨first, inside⟩
    exact ⟨_, List.mem_cons_self .., first, length ▸ inside⟩
  case harmless =>
    -- all other values lie in front of the new block
    rintro entry member other ⟨_, inside⟩ ⟨first, _⟩
    have front := (List.pairwise_cons.mp granted.valid.chain.separated).1 _ (sound.live entry member)
    simp only [headerSize] at front
    omega
  case kept =>
    exact fun entry member => granted.live entry member
  refine ⟨⟨address, address + Element.size T⟩ :: blocks, written.valid, ?_, ?_, ?_, ?_⟩
  · rintro entry member
    rcases List.mem_cons.mp member with rfl | older
    · exact List.mem_cons_self ..
    · exact written.live entry older
  · rintro entry member
    rcases List.mem_cons.mp member with rfl | older
    · exact Element.load_store last.memory address value
    · exact written.loaded entry older
  · rintro entry member
    rcases List.mem_cons.mp member with rfl | older
    · exact Nat.lt_succ_self _
    · exact Nat.lt_succ_of_lt (sound.earlier entry older)
  · refine List.nodup_cons.mpr ⟨fun again => ?_, sound.distinct⟩
    obtain ⟨entry, older, same⟩ := List.mem_map.mp again
    exact Nat.ne_of_lt (sound.earlier entry older) same

end Sound

theorem perform_of_ok {answer : Option Nat} {last : Stack Object} {done : List (Effect Object)}
    (ran : call.operation.run session.stack = ⟨.ok answer, last, done⟩) :
    session.perform call = ⟨last, call.ledger session.turn answer session.stored, session.turn + 1⟩ := by
  rw [perform, ValueSession.answer, ran]

theorem perform_of_error {fault : Fault} {last : Stack Object} {done : List (Effect Object)}
    (ran : call.operation.run session.stack = ⟨.error fault, last, done⟩) :
    session.perform call = ⟨last, session.stored, session.turn + 1⟩ := by
  rw [perform, ValueSession.answer, ran]

/-- Only the value that the call stores is new after it. -/
theorem mem_stored_perform {entry : Stored Object} (member : entry ∈ (session.perform call).stored) :
    entry.serial = session.turn ∨ entry ∈ session.stored := by
  rw [perform] at member
  cases answered : session.answer call with
  | error fault =>
    rw [answered] at member
    exact .inr member
  | ok answer =>
    rw [answered] at member
    exact ValueCall.mem_ledger member

theorem destroyedObjects_of_discreet {α : Type} {operation : Step Object (Stack Object) α}
    (discreet : operation.Discreet) {stack last : Stack Object} {result : Except Fault α}
    {done : List (Effect Object)} (ran : operation.run stack = ⟨result, last, done⟩) :
    Effect.destroyedObjects done = [] := by
  have incidental := discreet stack
  rw [ran] at incidental
  exact Effect.destroyedObjects_of_incidental incidental

namespace Sound
variable {blocks : List Extent} (sound : session.Sound blocks)
include sound

/-- A release is a misuse of anything but the block on top, and leaves all else alone. -/
theorem release_cases (address : Nat) :
    (∃ misuse, (Allocator.release (some address) : Step Object (Stack Object) Unit).run session.stack =
        session.stack.misuseOutcome misuse ∧ ¬ (session.stack.top ≠ 0 ∧ address = session.stack.top)) ∨
      ∃ last done, (Allocator.release (some address) : Step Object (Stack Object) Unit).run session.stack =
          ⟨.ok (), last, done⟩ ∧ address = session.stack.top ∧
        ∃ later, Sound ⟨last, session.stored.filter fun entry => entry.address != address,
          session.turn + 1⟩ later := by
  have ordered : session.stack.Ordered := sound.valid.ordered
  have decided : session.stack.releaseMisuse? address = none ↔
      session.stack.top ≠ 0 ∧ address = session.stack.top := Stack.releaseMisuse?_eq_none_iff ordered
  cases found : session.stack.releaseMisuse? address with
  | some misuse =>
    refine .inl ⟨misuse, Stack.run_pop_of_misuse found, fun onTop => ?_⟩
    rw [decided.mpr onTop] at found
    cases found
  | none =>
    obtain ⟨live, rfl⟩ := decided.mp found
    let release : Stack.Call Object := .release (some session.stack.top)
    have released : release.released? = some session.stack.top := rfl
    have called := Stack.Call.run_of_release ordered sound.valid.backed live released
    have given := sound.given_back session.stack.top
    rw [Stack.Session.perform_of_ok called] at given
    exact .inr ⟨_, _, Stack.run_pop ordered sound.valid.backed live, rfl, _,
      given.forget (List.Sublist.refl _) (Nat.le_succ _)⟩

/-- The destructor of a stored value runs before its block is released, and the release is a misuse of
anything but the block on top. -/
theorem run_drop {entry : Stored Object} (stored : entry ∈ session.stored) :
    (∃ misuse : StackMisuse, (ValueCall.drop entry).operation.run session.stack =
        ⟨.error (.aborted (.violation Stack.component misuse.details)), session.stack,
          (Element.destructors entry.value).map .destroyed ++
            [.logged (.usageViolation Stack.component misuse.details)]⟩ ∧
        entry.address ≠ session.stack.top) ∨
      ∃ last done, (ValueCall.drop entry).operation.run session.stack =
          ⟨.ok none, last, (Element.destructors entry.value).map .destroyed ++ done⟩ ∧
        entry.address = session.stack.top ∧ Effect.destroyedObjects done = [] ∧
        ∃ later, Sound ⟨last, session.stored.filter fun other => other.address != entry.address,
          session.turn + 1⟩ later := by
  have loaded : Element.load entry.T (Allocator.memory session.stack) entry.address = entry.value :=
    sound.loaded entry stored
  have runs := run_map_of_run (Allocator.run_releaseValue entry.T entry.address session.stack)
    fun _ => (none : Option Nat)
  rw [loaded] at runs
  rcases sound.release_cases entry.address with ⟨misuse, ran, below⟩ | ⟨last, done, ran, onTop, after⟩ <;>
    rw [ran] at runs
  · refine .inl ⟨misuse, runs, fun onTop => below ⟨?_, onTop⟩⟩
    have placed : headerSize ≤ entry.address :=
      (sound.valid.chain.bounds (sound.live entry stored)).1
    rw [← onTop]
    exact Nat.ne_of_gt (Nat.lt_of_lt_of_le (by decide) placed)
  · exact .inr ⟨last, done, runs, onTop, destroyedObjects_of_discreet (Stack.discreet_release _) ran,
      after⟩

end Sound
end ValueSession
end Allotment
