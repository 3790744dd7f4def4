import Allotment.Event
import Allotment.Fault

/-! Operations on a state. An operation answers or stops with a fault, and in both cases it leaves a
state behind and a trace of what happened on the way: events logged and objects destroyed. A fault
does not roll the state back, so "a failed call changes nothing" is a statement about the operation
and not a property of its type. -/
namespace Allotment

/-- Something an operation did besides changing the state. -/
inductive Effect (Object : Type) where
  | logged (event : Event)
  | destroyed (object : Object)

namespace Effect
variable {Object : Type}

/-- The events of a trace, in order. -/
def events (effects : List (Effect Object)) : List Event :=
  effects.filterMap fun
    | logged event => some event
    | destroyed _ => none

/-- The objects whose destructor ran, in order. -/
def destroyedObjects (effects : List (Effect Object)) : List Object :=
  effects.filterMap fun
    | logged _ => none
    | destroyed object => some object

@[simp] theorem events_append (first second : List (Effect Object)) :
    events (first ++ second) = events first ++ events second := List.filterMap_append

@[simp] theorem destroyedObjects_append (first second : List (Effect Object)) :
    destroyedObjects (first ++ second) = destroyedObjects first ++ destroyedObjects second :=
  List.filterMap_append

end Effect

/-- What an operation gives: an answer or a fault, the state it leaves, and its trace. -/
structure Outcome (Object σ α : Type) where
  result : Except Fault α
  state : σ
  effects : List (Effect Object)

/-- The outcome with its state put in its place in a larger one. -/
def Outcome.mapState {Object σ τ α : Type} (place : σ → τ) (outcome : Outcome Object σ α) :
    Outcome Object τ α :=
  ⟨outcome.result, place outcome.state, outcome.effects⟩

@[ext]
structure Step (Object σ α : Type) where
  run : σ → Outcome Object σ α

namespace Step
variable {Object σ τ α β : Type}

protected def pure (value : α) : Step Object σ α := ⟨fun state => ⟨.ok value, state, []⟩⟩

/-- Goes on with `next` after an answer and stops at a fault. -/
protected def bind (first : Step Object σ α) (next : α → Step Object σ β) : Step Object σ β :=
  ⟨fun state =>
    match first.run state with
    | ⟨.ok value, middle, done⟩ =>
      match (next value).run middle with
      | ⟨result, last, more⟩ => ⟨result, last, done ++ more⟩
    | ⟨.error fault, middle, done⟩ => ⟨.error fault, middle, done⟩⟩

instance : Monad (Step Object σ) where
  pure := Step.pure
  bind := Step.bind

@[simp] theorem run_pure (value : α) (state : σ) :
    (pure value : Step Object σ α).run state = ⟨.ok value, state, []⟩ := rfl

theorem run_bind (first : Step Object σ α) (next : α → Step Object σ β) (state : σ) :
    (first >>= next).run state =
      match first.run state with
      | ⟨.ok value, middle, done⟩ =>
        match (next value).run middle with
        | ⟨result, last, more⟩ => ⟨result, last, done ++ more⟩
      | ⟨.error fault, middle, done⟩ => ⟨.error fault, middle, done⟩ := rfl

theorem run_bind_of_ok {first : Step Object σ α} {state middle : σ} {value : α}
    {done : List (Effect Object)} (ran : first.run state = ⟨.ok value, middle, done⟩)
    (next : α → Step Object σ β) :
    (first >>= next).run state =
      ⟨((next value).run middle).result, ((next value).run middle).state,
        done ++ ((next value).run middle).effects⟩ := by
  rw [run_bind, ran]

/-- After a quiet answer the rest runs as if it stood alone. -/
theorem run_bind_of_quiet {first : Step Object σ α} {state middle : σ} {value : α}
    (ran : first.run state = ⟨.ok value, middle, []⟩) (next : α → Step Object σ β) :
    (first >>= next).run state = (next value).run middle := by
  rw [run_bind_of_ok ran]
  rfl

theorem run_bind_of_error {first : Step Object σ α} {state middle : σ} {fault : Fault}
    {done : List (Effect Object)} (ran : first.run state = ⟨.error fault, middle, done⟩)
    (next : α → Step Object σ β) : (first >>= next).run state = ⟨.error fault, middle, done⟩ := by
  rw [run_bind, ran]

/-- A function of the answer changes nothing but the answer. -/
theorem run_map (change : α → β) (operation : Step Object σ α) (state : σ) :
    (change <$> operation).run state =
      ⟨(operation.run state).result.map change, (operation.run state).state,
        (operation.run state).effects⟩ := by
  change (operation >>= fun value => pure (change value)).run state = _
  rw [run_bind]
  rcases operation.run state with ⟨fault | value, last, done⟩
  · rfl
  · simp only [run_pure, List.append_nil, Except.map]

instance : LawfulMonad (Step Object σ) := LawfulMonad.mk' _
  (fun operation => Step.ext <| funext fun state => by
    change (Step.bind operation _).run state = _
    unfold Step.bind
    rcases ran : operation.run state with ⟨result | result, middle, done⟩ <;>
      simp [ran, Step.pure])
  (fun value next => Step.ext <| funext fun state => by
    change (Step.bind (Step.pure value) next).run state = _
    simp [Step.bind, Step.pure])
  (fun first next last => Step.ext <| funext fun state => by
    change (Step.bind (Step.bind first next) last).run state =
      (Step.bind first fun value => Step.bind (next value) last).run state
    simp only [Step.bind]
    rcases first.run state with ⟨result | value, middle, done⟩
    · rfl
    · rcases nextOutcome : (next value).run middle with ⟨result | value', middle', more⟩ <;>
        simp [nextOutcome, List.append_assoc])

def get : Step Object σ σ := ⟨fun state => ⟨.ok state, state, []⟩⟩

def set (state : σ) : Step Object σ Unit := ⟨fun _ => ⟨.ok (), state, []⟩⟩

def modify (change : σ → σ) : Step Object σ Unit := ⟨fun state => ⟨.ok (), change state, []⟩⟩

def fail (fault : Fault) : Step Object σ α := ⟨fun state => ⟨.error fault, state, []⟩⟩

/-- Stops because a rule was broken or a condition does not hold. -/
def abort (cause : Abort) : Step Object σ α := fail (.aborted cause)

def log (event : Event) : Step Object σ Unit :=
  ⟨fun state => ⟨.ok (), state, [.logged event]⟩⟩

/-- Runs the destructors of objects, in order. -/
def destroy (objects : List Object) : Step Object σ Unit :=
  ⟨fun state => ⟨.ok (), state, objects.map .destroyed⟩⟩

@[simp] theorem run_get (state : σ) : (get : Step Object σ σ).run state = ⟨.ok state, state, []⟩ :=
  rfl

@[simp] theorem run_set (next state : σ) :
    (set next : Step Object σ Unit).run state = ⟨.ok (), next, []⟩ := rfl

@[simp] theorem run_modify (change : σ → σ) (state : σ) :
    (modify change : Step Object σ Unit).run state = ⟨.ok (), change state, []⟩ := rfl

@[simp] theorem run_fail (fault : Fault) (state : σ) :
    (fail fault : Step Object σ α).run state = ⟨.error fault, state, []⟩ := rfl

@[simp] theorem run_abort (cause : Abort) (state : σ) :
    (abort cause : Step Object σ α).run state = ⟨.error (.aborted cause), state, []⟩ := rfl

@[simp] theorem run_log (event : Event) (state : σ) :
    (log event : Step Object σ Unit).run state = ⟨.ok (), state, [.logged event]⟩ := rfl

@[simp] theorem run_destroy (objects : List Object) (state : σ) :
    (destroy objects : Step Object σ Unit).run state =
      ⟨.ok (), state, objects.map .destroyed⟩ := rfl

def when (condition : Bool) (operation : Step Object σ Unit) : Step Object σ Unit :=
  if condition then operation else pure ()

/-- Goes on only if the condition holds. -/
def assert (condition : Assertion) (holds : Bool) : Step Object σ Unit :=
  if holds then pure () else abort (.assertionFailed condition)

@[simp] theorem when_true (operation : Step Object σ Unit) : when true operation = operation := rfl

@[simp] theorem when_false (operation : Step Object σ Unit) :
    when false operation = pure () := rfl

@[simp] theorem assert_true (condition : Assertion) :
    (assert condition true : Step Object σ Unit) = pure () := rfl

@[simp] theorem assert_false (condition : Assertion) :
    (assert condition false : Step Object σ Unit) = abort (.assertionFailed condition) := rfl

@[simp] theorem run_assert_true (condition : Assertion) (state : σ) :
    (assert condition true : Step Object σ Unit).run state = ⟨.ok (), state, []⟩ := rfl

/-- Runs an operation to its end and answers whether it succeeded; a fault goes no further. -/
def attempt (operation : Step Object σ α) : Step Object σ (Except Fault α) :=
  ⟨fun state =>
    match operation.run state with
    | ⟨result, last, done⟩ => ⟨.ok result, last, done⟩⟩

/-- Runs an operation that owns `objects`: a fault destroys them on the way out. -/
def owning (objects : List Object) (operation : Step Object σ α) : Step Object σ α :=
  ⟨fun state =>
    match operation.run state with
    | ⟨.ok value, last, done⟩ => ⟨.ok value, last, done⟩
    | ⟨.error fault, last, done⟩ => ⟨.error fault, last, done ++ objects.map .destroyed⟩⟩

/-- Runs an operation on a part of the state. -/
def within (part : τ → σ) (replace : τ → σ → τ) (operation : Step Object σ α) : Step Object τ α :=
  ⟨fun whole => (operation.run (part whole)).mapState (replace whole)⟩

/-- Runs an operation from a state of its own, and answers with the state it leaves as well. -/
def startingFrom (initial : σ) (operation : Step Object σ α) : Step Object τ (α × σ) :=
  ⟨fun state =>
    match operation.run initial with
    | ⟨result, last, done⟩ => ⟨result.map fun value => (value, last), state, done⟩⟩

def onSecond (operation : Step Object τ α) : Step Object (σ × τ) α :=
  within Prod.snd (fun pair state => (pair.1, state)) operation

theorem run_attempt_of_run {operation : Step Object σ α} {state last : σ} {result : Except Fault α}
    {done : List (Effect Object)} (ran : operation.run state = ⟨result, last, done⟩) :
    (attempt operation).run state = ⟨.ok result, last, done⟩ := by
  simp only [attempt, ran]

theorem run_owning_of_ok {objects : List Object} {operation : Step Object σ α} {state last : σ}
    {value : α} {done : List (Effect Object)}
    (ran : operation.run state = ⟨.ok value, last, done⟩) :
    (owning objects operation).run state = ⟨.ok value, last, done⟩ := by
  simp only [owning, ran]

theorem run_owning_of_error {objects : List Object} {operation : Step Object σ α} {state last : σ}
    {fault : Fault} {done : List (Effect Object)}
    (ran : operation.run state = ⟨.error fault, last, done⟩) :
    (owning objects operation).run state =
      ⟨.error fault, last, done ++ objects.map .destroyed⟩ := by
  simp only [owning, ran]

theorem run_within (part : τ → σ) (replace : τ → σ → τ) (operation : Step Object σ α) (whole : τ) :
    (within part replace operation).run whole =
      (operation.run (part whole)).mapState (replace whole) := rfl

/-- Stops because the caller broke a rule of `component`. -/
def usageViolation (component details : String) : Step Object σ α := do
  log (.usageViolation component details)
  abort (.violation component details)

@[simp] theorem run_usageViolation (component details : String) (state : σ) :
    (usageViolation component details : Step Object σ α).run state =
      ⟨.error (.aborted (.violation component details)), state,
        [.logged (.usageViolation component details)]⟩ := rfl

end Step

/-- The event that announces a capacity failure. -/
def MemoryError.event? : MemoryError → Option Event
  | allocationFailed size align => some (.allocationFailed size align)
  | poolExhausted pool capacity => some (.poolExhausted pool capacity)
  | arenaExhausted arena requested available => some (.arenaExhausted arena requested available)
  | _ => none

namespace Step
variable {Object σ α : Type}

/-- Announces an error that has an event and hands it back. -/
def announce (error : MemoryError) : Step Object σ MemoryError :=
  ⟨fun state => ⟨.ok error, state, (error.event?.map .logged).toList⟩⟩

/-- Hands a failure back, or stops with it where failures are fatal. -/
def capacityFailure (error : MemoryError) (failFast : Bool) : Step Object σ MemoryError :=
  if failFast then do
    log (.fatalCapacity error)
    abort (.failFast error)
  else pure error

def refuse (error : MemoryError) : Step Object σ α := fail (.refused error)

/-- Refuses a request for want of capacity: the failure is announced, and it is fatal where failures
are. -/
def refuseCapacity (error : MemoryError) (failFast : Bool) : Step Object σ α := do
  let announced ← announce error
  let failure ← capacityFailure announced failFast
  refuse failure

@[simp] theorem run_refuse (error : MemoryError) (state : σ) :
    (refuse error : Step Object σ α).run state = ⟨.error (.refused error), state, []⟩ := rfl

/-- Where failures are not fatal, the caller gets the error. -/
theorem run_refuseCapacity_false (error : MemoryError) (state : σ) :
    (refuseCapacity error false : Step Object σ α).run state =
      ⟨.error (.refused error), state, (error.event?.map Effect.logged).toList⟩ := by
  simp [refuseCapacity, run_bind, announce, capacityFailure]

/-- Where failures are fatal, the error ends the operation. -/
theorem run_refuseCapacity_true (error : MemoryError) (state : σ) :
    (refuseCapacity error true : Step Object σ α).run state =
      ⟨.error (.aborted (.failFast error)), state,
        (error.event?.map Effect.logged).toList ++ [.logged (.fatalCapacity error)]⟩ := by
  simp [refuseCapacity, run_bind, announce, capacityFailure]

end Step

/-- The fault that a want of capacity ends in. -/
def MemoryError.fault (error : MemoryError) (failFast : Bool) : Fault :=
  if failFast then .aborted (.failFast error) else .refused error

/-- What a want of capacity leaves in the log. -/
def MemoryError.announcement {Object : Type} (error : MemoryError) (failFast : Bool) :
    List (Effect Object) :=
  (error.event?.map Effect.logged).toList ++ if failFast then [.logged (.fatalCapacity error)] else []

theorem Step.run_refuseCapacity {Object σ α : Type} (error : MemoryError) (failFast : Bool)
    (state : σ) :
    (refuseCapacity error failFast : Step Object σ α).run state =
      ⟨.error (error.fault failFast), state, error.announcement failFast⟩ := by
  cases failFast with
  | false => rw [run_refuseCapacity_false]; simp [MemoryError.fault, MemoryError.announcement]
  | true => rw [run_refuseCapacity_true]; simp [MemoryError.fault, MemoryError.announcement]

end Allotment
