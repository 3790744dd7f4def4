import Allotment.Proofs.Stack.Values

/-! Destructors of values in blocks of their own. A value that finds no block is destroyed, and one whose
block is given back is destroyed once. To give back a value runs its destructor first, also where the block
is not on top and stays: then value and block are still there, and the next attempt runs the destructor
again. -/
namespace Allotment

/-- What became of a value in a call that runs its destructor. -/
inductive Fate (Object : Type) : Type 1 where
  /-- No block was found for it. -/
  | refused {T : Type} [Element Object T] (value : T)
  | released (entry : Stored Object)
  /-- Its block was not given back. -/
  | rejected (entry : Stored Object)

namespace Fate
variable {Object : Type}

/-- The objects in the value. -/
def objects : Fate Object → List Object
  | refused value => Element.destructors value
  | released entry => Element.destructors entry.value
  | rejected entry => Element.destructors entry.value

/-- The turn at which the value was stored, where its block was given back. -/
def released? : Fate Object → Option Nat
  | released entry => some entry.serial
  | _ => none

end Fate

/-- What became of the value that a call stores or drops, by its answer. -/
def ValueCall.fate? {Object : Type} (call : ValueCall Object) (answer : Except Fault (Option Nat)) :
    Option (Fate Object) :=
  match call, answer with
  | @store _ _ _ _ value, .error _ => some (.refused value)
  | drop entry, .ok _ => some (.released entry)
  | drop entry, .error _ => some (.rejected entry)
  | _, _ => none

namespace ValueCall
variable {Object : Type} {call : ValueCall Object} {answer : Except Fault (Option Nat)}
  {entry : Stored Object}

private theorem eq_drop_of_released (given : call.fate? answer = some (.released entry)) :
    call = .drop entry := by
  match call, answer, given with
  | drop _, .ok _, rfl => rfl

private theorem eq_drop_of_rejected (given : call.fate? answer = some (.rejected entry)) :
    call = .drop entry := by
  match call, answer, given with
  | drop _, .error _, rfl => rfl

end ValueCall

namespace ValueSession
variable {Object : Type} {session : ValueSession Object} {call : ValueCall Object}

/-- The objects whose destructors run in a call, in order. -/
def destroys (session : ValueSession Object) (call : ValueCall Object) : List Object :=
  Effect.destroyedObjects (call.operation.run session.stack).effects

def destroyed : ValueSession Object → List (ValueCall Object) → List Object
  | _, [] => []
  | session, call :: rest => session.destroys call ++ (session.perform call).destroyed rest

def fate? (session : ValueSession Object) (call : ValueCall Object) : Option (Fate Object) :=
  call.fate? (session.answer call)

def fates : ValueSession Object → List (ValueCall Object) → List (Fate Object)
  | _, [] => []
  | session, call :: rest => (session.fate? call).toList ++ (session.perform call).fates rest

/-- Each call keeps a rule at its turn. -/
def Follows (rule : ValueSession Object → ValueCall Object → Prop) :
    ValueSession Object → List (ValueCall Object) → Prop
  | _, [] => True
  | session, call :: rest => rule session call ∧ (session.perform call).Follows rule rest

/-- Only values that are stored are given back. -/
def Permits : ValueSession Object → List (ValueCall Object) → Prop :=
  Follows fun session call => ∀ entry, call = .drop entry → entry ∈ session.stored

/-- Each value that is given back has its block on top by then. -/
def InOrder : ValueSession Object → List (ValueCall Object) → Prop :=
  Follows fun session call => ∀ entry, call = .drop entry → entry.address = session.stack.top

/-- The session stays sound, and the destructors run that belong to the fate of the value, if the call
decides one. -/
structure Proceeds (session : ValueSession Object) (call : ValueCall Object) : Prop where
  sound : ∃ later, (session.perform call).Sound later
  destroys : session.destroys call = (session.fate? call).toList.flatMap Fate.objects

theorem Proceeds.of_ok {answer : Option Nat} {last : Stack Object} {done : List (Effect Object)}
    (ran : call.operation.run session.stack = ⟨.ok answer, last, done⟩)
    (sound : ∃ later, Sound ⟨last, call.ledger session.turn answer session.stored, session.turn + 1⟩ later)
    (destroys : Effect.destroyedObjects done = (call.fate? (.ok answer)).toList.flatMap Fate.objects) :
    session.Proceeds call where
  sound := by rw [perform_of_ok ran]; exact sound
  destroys := by rw [ValueSession.destroys, fate?, ValueSession.answer, ran]; exact destroys

theorem Proceeds.of_error {fault : Fault} {last : Stack Object} {done : List (Effect Object)}
    (ran : call.operation.run session.stack = ⟨.error fault, last, done⟩)
    (sound : ∃ later, Sound ⟨last, session.stored, session.turn + 1⟩ later)
    (destroys : Effect.destroyedObjects done = (call.fate? (.error fault)).toList.flatMap Fate.objects) :
    session.Proceeds call where
  sound := by rw [perform_of_error ran]; exact sound
  destroys := by rw [ValueSession.destroys, fate?, ValueSession.answer, ran]; exact destroys

namespace Sound
variable {blocks : List Extent} (sound : session.Sound blocks)
include sound

theorem proceeds_of_store {T : Type} [Element Object T] [LawfulElement Object T] (value : T) :
    session.Proceeds (.store value) := by
  rcases Nat.lt_or_ge (Allocator.alignment session.stack) (Element.alignment T) with strict | aligned
  · have ran := run_map_of_run (Allocator.run_allocateValue_of_strict strict value) some
    refine .of_error ran ⟨_, sound.forget (List.Sublist.refl _) (Nat.le_succ _)⟩ ?_
    rw [Effect.destroyedObjects_destroyed]
    exact (List.append_nil _).symm
  · rcases requested : (Allocator.allocate (Element.size T) : Step Object (Stack Object) Nat).run
      session.stack with ⟨fault | address, last, done⟩
    · have ran := run_map_of_run (Allocator.run_allocateValue_of_error aligned requested value) some
      have quiet := destroyedObjects_of_discreet (Stack.discreet_push _) requested
      refine .of_error ran (sound.asked requested) ?_
      rw [Effect.destroyedObjects_append, quiet, Effect.destroyedObjects_destroyed]
      exact (List.append_nil _).symm
    · have ran := run_map_of_run (Allocator.run_allocateValue_of_ok aligned requested value) some
      refine .of_ok ran (sound.stored_at value requested) ?_
      exact destroyedObjects_of_discreet (Stack.discreet_push _) requested

theorem proceeds_of_drop {entry : Stored Object} (stored : entry ∈ session.stored) :
    session.Proceeds (.drop entry) := by
  rcases sound.run_drop stored with ⟨misuse, ran, _⟩ | ⟨last, done, ran, _, quiet, after⟩
  · refine .of_error ran ⟨_, sound.forget (List.Sublist.refl _) (Nat.le_succ _)⟩ ?_
    rw [Effect.destroyedObjects_append, Effect.destroyedObjects_destroyed]
    rfl
  · refine .of_ok ran after ?_
    rw [Effect.destroyedObjects_append, Effect.destroyedObjects_destroyed, quiet]
    rfl

theorem proceeds_of_request {size : Nat} {operation : Step Object (Stack Object) Nat}
    (called : call.operation = some <$> operation)
    (kept : ∀ turn answer, call.ledger turn answer session.stored = session.stored)
    (fateless : ∀ answer, call.fate? answer = none)
    (same : operation.run session.stack = (Allocator.allocate size).run session.stack) :
    session.Proceeds call := by
  rcases ran : (Allocator.allocate size : Step Object (Stack Object) Nat).run session.stack with
    ⟨result, last, done⟩
  have quiet := destroyedObjects_of_discreet (Stack.discreet_push _) ran
  have runs := run_map_of_run (same.trans ran) some
  rw [← called] at runs
  cases result with
  | ok address =>
    refine .of_ok runs ?_ ?_
    · rw [kept]
      exact sound.asked ran
    · rw [fateless]
      exact quiet
  | error fault =>
    refine .of_error runs (sound.asked ran) ?_
    rw [fateless]
    exact quiet

theorem proceeds (permitted : ∀ entry, call = .drop entry → entry ∈ session.stored) :
    session.Proceeds call := by
  have still : ∃ later, Sound ⟨session.stack, session.stored, session.turn + 1⟩ later :=
    ⟨_, sound.forget (List.Sublist.refl _) (Nat.le_succ _)⟩
  cases call with
  | store value => exact sound.proceeds_of_store value
  | drop entry => exact sound.proceeds_of_drop (permitted entry rfl)
  | allocate size =>
    exact sound.proceeds_of_request rfl (fun _ _ => rfl) (fun _ => rfl) rfl
  | allocateArray T count =>
    rcases Allocator.run_allocateArray T count session.stack with ⟨fault, refused⟩ | ⟨size, same⟩
    · exact .of_error (run_map_of_run refused some) still rfl
    · exact sound.proceeds_of_request rfl (fun _ _ => rfl) (fun _ => rfl) same
  | release block =>
    cases block with
    | none => exact .of_ok (run_map_of_run (Step.run_pure () session.stack) fun _ => none) still rfl
    | some address =>
      rcases sound.release_cases address with ⟨misuse, ran, _⟩ | ⟨last, done, ran, _, after⟩
      · exact .of_error (run_map_of_run ran fun _ => none) still rfl
      · refine .of_ok (run_map_of_run ran fun _ => none) after ?_
        exact destroyedObjects_of_discreet (Stack.discreet_release _) ran

end Sound

/-- The destructors that run in all calls belong to the fates of the values. -/
theorem Sound.destroyed_eq {blocks : List Extent} {calls : List (ValueCall Object)}
    (sound : session.Sound blocks) (permitted : session.Permits calls) :
    (∃ later, (session.after calls).Sound later) ∧
      session.destroyed calls = (session.fates calls).flatMap Fate.objects := by
  induction calls generalizing session blocks with
  | nil => exact ⟨⟨blocks, sound⟩, rfl⟩
  | cons call rest ih =>
    obtain ⟨⟨later, next⟩, destroys⟩ := sound.proceeds permitted.1
    obtain ⟨last, destroyed⟩ := ih next permitted.2
    refine ⟨last, ?_⟩
    rw [ValueSession.destroyed, destroys, destroyed, fates, List.flatMap_append]

/-- The turn of the value whose block the call gives back. -/
def releasedAt? (session : ValueSession Object) (call : ValueCall Object) : Option Nat :=
  (session.fate? call).bind Fate.released?

/-- The turns of the values whose blocks are given back. -/
def releasedAt (session : ValueSession Object) (calls : List (ValueCall Object)) : List Nat :=
  (session.fates calls).filterMap Fate.released?

/-- A value of that turn may still be given back: it is stored, or it is yet to be. -/
def CanRelease (session : ValueSession Object) (serial : Nat) : Prop :=
  session.turn ≤ serial ∨ ∃ entry ∈ session.stored, entry.serial = serial

private theorem releasedAt_cons (session : ValueSession Object) (call : ValueCall Object)
    (rest : List (ValueCall Object)) :
    session.releasedAt (call :: rest) =
      (session.releasedAt? call).toList ++ (session.perform call).releasedAt rest := by
  rw [releasedAt, fates, List.filterMap_append]
  congr 1
  rw [releasedAt?]
  cases session.fate? call with
  | none => rfl
  | some fate =>
    rw [Option.toList_some, List.filterMap_cons, Option.bind_some]
    cases fate.released? <;> rfl

private theorem CanRelease.of_perform {serial : Nat} (later : (session.perform call).CanRelease serial) :
    session.CanRelease serial := by
  rcases later with after | ⟨entry, member, rfl⟩
  · exact .inl (Nat.le_of_succ_le after)
  · rcases mem_stored_perform member with now | older
    · exact .inl (Nat.le_of_eq now.symm)
    · exact .inr ⟨entry, older, rfl⟩

/-- What becomes of a stored value that is to be given back. Its destructor runs in any case. -/
structure Settles (session : ValueSession Object) (entry : Stored Object) : Prop where
  destroys : session.destroys (.drop entry) = Element.destructors entry.value
  /-- On top, its block is given back, and no value of that turn is stored any longer. -/
  onTop : entry.address = session.stack.top →
    session.fate? (.drop entry) = some (.released entry) ∧
      ∀ other ∈ (session.perform (.drop entry)).stored, other.serial ≠ entry.serial
  /-- Anywhere else that is a misuse: the stack stays as it is, and the value is still in its block. -/
  covered : entry.address ≠ session.stack.top →
    (∃ misuse : StackMisuse, session.answer (.drop entry) =
        .error (.aborted (.violation Stack.component misuse.details))) ∧
      session.fate? (.drop entry) = some (.rejected entry) ∧
      (session.perform (.drop entry)).stack = session.stack ∧
      (session.perform (.drop entry)).stored = session.stored ∧ entry.Loaded session.stack.memory

namespace Sound
variable {blocks : List Extent} (sound : session.Sound blocks)
include sound

theorem settles {entry : Stored Object} (stored : entry ∈ session.stored) : session.Settles entry := by
  have destroys := (sound.proceeds_of_drop stored).destroys
  rcases sound.run_drop stored with ⟨misuse, ran, below⟩ | ⟨last, done, ran, onTop, _⟩
  · have answer : session.answer (.drop entry) =
        .error (.aborted (.violation Stack.component misuse.details)) := by
      rw [ValueSession.answer, ran]
    have fate : session.fate? (.drop entry) = some (.rejected entry) := by
      rw [fate?, answer]
      rfl
    refine ⟨?_, fun onTop => absurd onTop below, fun _ => ⟨⟨misuse, answer⟩, fate, ?_⟩⟩
    · rw [destroys, fate]
      exact List.append_nil _
    · rw [perform_of_error ran]
      exact ⟨rfl, rfl, sound.loaded entry stored⟩
  · have fate : session.fate? (.drop entry) = some (.released entry) := by
      rw [fate?, ValueSession.answer, ran]
      rfl
    refine ⟨?_, fun _ => ⟨fate, ?_⟩, fun below => absurd onTop below⟩
    · rw [destroys, fate]
      exact List.append_nil _
    · intro other member same
      rw [perform_of_ok ran] at member
      obtain ⟨present, elsewhere⟩ := List.mem_filter.mp member
      have equal : other = entry := List.inj_on_of_nodup_map sound.distinct present stored same
      rw [equal] at elsewhere
      simp at elsewhere

private theorem settles_of_fate {entry : Stored Object}
    (permitted : ∀ entry, call = .drop entry → entry ∈ session.stored)
    (given : session.fate? call = some (.released entry) ∨ session.fate? call = some (.rejected entry)) :
    call = .drop entry ∧ entry ∈ session.stored ∧ session.Settles entry := by
  have dropped : call = .drop entry := given.elim ValueCall.eq_drop_of_released ValueCall.eq_drop_of_rejected
  have stored := permitted entry dropped
  exact ⟨dropped, stored, sound.settles stored⟩

/-- A value whose block is given back was stored, and can not be given back again. -/
theorem releases {serial : Nat} (permitted : ∀ entry, call = .drop entry → entry ∈ session.stored)
    (released : session.releasedAt? call = some serial) :
    session.CanRelease serial ∧ ¬ (session.perform call).CanRelease serial := by
  obtain ⟨fate, found, given⟩ := Option.bind_eq_some_iff.mp released
  match fate, given with
  | .released entry, rfl =>
    obtain ⟨rfl, stored, settles⟩ := sound.settles_of_fate permitted (.inl found)
    refine ⟨.inr ⟨entry, stored, rfl⟩, ?_⟩
    rintro (late | ⟨other, present, same⟩)
    · exact Nat.not_le_of_gt (Nat.lt_succ_of_lt (sound.earlier entry stored)) late
    · by_cases onTop : entry.address = session.stack.top
      · exact (settles.onTop onTop).2 other present same
      · rw [(settles.covered onTop).2.1] at found
        cases found

private theorem not_rejected {entry : Stored Object}
    (permitted : ∀ entry, call = .drop entry → entry ∈ session.stored)
    (onTop : ∀ entry, call = .drop entry → entry.address = session.stack.top) :
    session.fate? call ≠ some (.rejected entry) := by
  intro rejected
  obtain ⟨rfl, _, settles⟩ := sound.settles_of_fate permitted (.inr rejected)
  rw [(settles.onTop (onTop entry rfl)).1] at rejected
  cases rejected

end Sound

theorem Sound.releasedAt_nodup {blocks : List Extent} {calls : List (ValueCall Object)}
    (sound : session.Sound blocks) (permitted : session.Permits calls) :
    (session.releasedAt calls).Nodup ∧ ∀ serial ∈ session.releasedAt calls, session.CanRelease serial := by
  induction calls generalizing session blocks with
  | nil => exact ⟨List.nodup_nil, fun _ given => nomatch given⟩
  | cons call rest ih =>
    obtain ⟨later, next⟩ := (sound.proceeds permitted.1).sound
    obtain ⟨once, known⟩ := ih next permitted.2
    rw [releasedAt_cons]
    cases released : session.releasedAt? call with
    | none => exact ⟨once, fun serial given => (known serial given).of_perform⟩
    | some serial =>
      obtain ⟨can, gone⟩ := sound.releases permitted.1 released
      refine ⟨List.nodup_cons.mpr ⟨fun again => gone (known serial again), once⟩, ?_⟩
      intro other given
      rcases List.mem_cons.mp given with rfl | again
      · exact can
      · exact (known other again).of_perform

theorem Sound.rejected_not_mem {blocks : List Extent} {calls : List (ValueCall Object)}
    (sound : session.Sound blocks) (permitted : session.Permits calls) (inOrder : session.InOrder calls)
    (entry : Stored Object) : .rejected entry ∉ session.fates calls := by
  induction calls generalizing session blocks with
  | nil => exact List.not_mem_nil
  | cons call rest ih =>
    obtain ⟨later, next⟩ := (sound.proceeds permitted.1).sound
    intro rejected
    rcases List.mem_append.mp rejected with now | after
    · exact sound.not_rejected permitted.1 inOrder.1 (Option.mem_toList.mp now)
    · exact ih next permitted.2 inOrder.2 after

/-- The destructors that run are those of the values that found no block, of those whose block was given back,
and of those that were to be given back while their block was not on top. -/
theorem destroyed_by_attempt {capacity align : Nat} {config : StackConfig} {stack : Stack Object}
    {done : List (Effect Object)}
    (built : (Stack.create capacity align config).run () = ⟨.ok stack, (), done⟩)
    {calls : List (ValueCall Object)} (permitted : Permits ⟨stack, [], 0⟩ calls) :
    destroyed ⟨stack, [], 0⟩ calls = (fates ⟨stack, [], 0⟩ calls).flatMap Fate.objects ∧
      (releasedAt ⟨stack, [], 0⟩ calls).Nodup ∧
      (InOrder ⟨stack, [], 0⟩ calls → ∀ entry, .rejected entry ∉ fates ⟨stack, [], 0⟩ calls) ∧
      ∀ entry ∈ (after ⟨stack, [], 0⟩ calls).stored, (after ⟨stack, [], 0⟩ calls).Settles entry := by
  obtain ⟨shape, rfl⟩ := Stack.Session.eq_empty_of_create built
  have sound : Sound ⟨(.empty shape config : Stack Object), [], 0⟩ [] :=
    ⟨.of_empty shape config, by simp, by simp, by simp, List.nodup_nil⟩
  obtain ⟨⟨later, reached⟩, destroyed⟩ := sound.destroyed_eq permitted
  exact ⟨destroyed, (sound.releasedAt_nodup permitted).1, sound.rejected_not_mem permitted,
    fun entry stored => reached.settles stored⟩

/-- A value lies under another one, is to be given back, stays there, and is given back after the other one:
its destructor runs twice. -/
theorem destroyed_by_attempt_of_covered :
    ∃ (stack : Stack Value) (calls : List (ValueCall Value)),
      releasedAt ⟨stack, [], 0⟩ calls = [1, 0] ∧
      destroyed ⟨stack, [], 0⟩ calls = [.tracked ⟨1⟩, .tracked ⟨2⟩, .tracked ⟨1⟩] ∧
      destroyed ⟨stack, [], 0⟩ calls = (fates ⟨stack, [], 0⟩ calls).flatMap Fate.objects := by
  have built : (Stack.create 64 8 .debug : Step Value Unit (Stack Value)).run () =
      ⟨.ok (.empty ⟨64, 8, rfl, by decide, by decide, rfl, by decide⟩ .debug), (),
        [.logged (.stackCreated 64 8 .debug)]⟩ := rfl
  have permitted : Permits ⟨.empty ⟨64, 8, rfl, by decide, by decide, rfl, by decide⟩ .debug, [], 0⟩
      ([.store (⟨1⟩ : Tracked), .store (⟨2⟩ : Tracked), .drop ⟨0, (⟨1⟩ : Tracked), 8⟩,
        .drop ⟨1, (⟨2⟩ : Tracked), 24⟩, .drop ⟨0, (⟨1⟩ : Tracked), 8⟩] : List (ValueCall Value)) := by
    refine ⟨nofun, nofun, ?_, ?_, ?_, trivial⟩ <;> rintro _ ⟨⟩
    · exact .tail _ (.head _)
    · exact .head _
    · exact .head _
  obtain ⟨destroyed, _⟩ := destroyed_by_attempt built permitted
  exact ⟨_, _, by decide +kernel, by decide +kernel, destroyed⟩

/-- To give back a value whose block is not on top is rejected, and is not without effect. -/
theorem rejected_release_destroys :
    ¬ ∀ (capacity align : Nat) (config : StackConfig) (stack : Stack Value) (done : List (Effect Value)),
      (Stack.create capacity align config).run () = ⟨.ok stack, (), done⟩ →
      ∀ calls : List (ValueCall Value), Permits ⟨stack, [], 0⟩ calls →
        ∀ entry ∈ (after ⟨stack, [], 0⟩ calls).stored,
          entry.address ≠ (after ⟨stack, [], 0⟩ calls).stack.top →
            (after ⟨stack, [], 0⟩ calls).destroys (.drop entry) = [] := by
  intro harmless
  have none := harmless 64 8 .debug (.empty ⟨64, 8, rfl, by decide, by decide, rfl, by decide⟩ .debug) _ rfl
    [.store (⟨1⟩ : Tracked), .allocate 8] ⟨nofun, nofun, trivial⟩ ⟨0, (⟨1⟩ : Tracked), 8⟩ (.head _)
    (by decide +kernel)
  exact absurd none (by decide +kernel)

end ValueSession
end Allotment
