import Allotment.Step

/-! Operations that run alike whether capacity failures are fatal or not. An operation is run in normal
mode and in fail-fast mode from states that are the same but for the mode. It mirrors itself if the states
stay the same, the same objects are destroyed, and the results are the same, except that what is refused
for want of capacity in normal mode ends the operation in fail-fast mode. The rules here follow the ways
in which operations are put together. -/
namespace Allotment
variable {Object σ τ α β : Type}

/-- What a fault becomes where capacity failures are fatal. -/
def Fault.escalated : Fault → Fault
  | refused error => if error.isRetryable then .aborted (.failFast error) else .refused error
  | aborted cause => .aborted cause

/-- States of which there is one in normal mode and one in fail-fast mode. -/
class Moded (σ : Type) where
  /-- The state with capacity failures fatal or not, and otherwise the same. -/
  inMode : Bool → σ → σ
  inMode_inMode (failFast other : Bool) (state : σ) :
    inMode failFast (inMode other state) = inMode failFast state

namespace Moded

/-- A pair has the mode of its second part. -/
instance [Moded σ] : Moded (τ × σ) where
  inMode failFast pair := (pair.1, inMode failFast pair.2)
  inMode_inMode failFast other pair := by rw [inMode_inMode]

theorem inMode_pair [Moded σ] (failFast : Bool) (first : τ) (second : σ) :
    inMode failFast (first, second) = (first, inMode failFast second) := rfl

end Moded

open Moded

/-- An outcome in normal mode and one in fail-fast mode that are the same but for how capacity failures
show. Answers keep a promise. -/
structure Outcome.Mirrors [Moded σ] (promise : α → Prop) (normal strict : Outcome Object σ α) :
    Prop where
  state : ∃ last, normal.state = inMode false last ∧ strict.state = inMode true last
  result : strict.result = normal.result.mapError Fault.escalated
  /-- In normal mode no capacity failure is fatal. -/
  mild : ∀ error, normal.result ≠ .error (.aborted (.failFast error))
  destroyed : Effect.destroyedObjects strict.effects = Effect.destroyedObjects normal.effects
  answered : ∀ answer, normal.result = .ok answer → promise answer

namespace Outcome.Mirrors
variable [Moded σ] {promise : α → Prop} {done done' : List (Effect Object)}

theorem of_answer {answer : α} (kept : promise answer) (last : σ)
    (destroyed : Effect.destroyedObjects done' = Effect.destroyedObjects done) :
    Mirrors promise ⟨.ok answer, inMode false last, done⟩ ⟨.ok answer, inMode true last, done'⟩ := by
  constructor
  case state => exact ⟨last, rfl, rfl⟩
  case result => rfl
  case mild => rintro error ⟨⟩
  case destroyed => exact destroyed
  case answered => rintro answer ⟨⟩; exact kept

/-- Both stop, the second with what becomes of the first fault. -/
theorem of_fault {fault : Fault} (mild : ∀ error, fault ≠ .aborted (.failFast error)) (last : σ)
    (destroyed : Effect.destroyedObjects done' = Effect.destroyedObjects done) :
    Mirrors promise ⟨.error fault, inMode false last, done⟩
      ⟨.error fault.escalated, inMode true last, done'⟩ := by
  constructor
  case state => exact ⟨last, rfl, rfl⟩
  case result => rfl
  case mild => rintro error ⟨⟩; exact mild error rfl
  case destroyed => exact destroyed
  case answered => rintro answer ⟨⟩

/-- Two outcomes mirror each other in one of these two ways. -/
theorem forms {normal strict : Outcome Object σ α} (mirrors : Mirrors promise normal strict) :
    ∃ last done done', Effect.destroyedObjects done' = Effect.destroyedObjects done ∧
      ((∃ answer, promise answer ∧ normal = ⟨.ok answer, inMode false last, done⟩ ∧
          strict = ⟨.ok answer, inMode true last, done'⟩) ∨
        ∃ fault, (∀ error, fault ≠ .aborted (.failFast error)) ∧
          normal = ⟨.error fault, inMode false last, done⟩ ∧
          strict = ⟨.error fault.escalated, inMode true last, done'⟩) := by
  obtain ⟨result, state, done⟩ := normal
  obtain ⟨result', state', done'⟩ := strict
  obtain ⟨⟨last, rfl, rfl⟩, same, mild, destroyed, answered⟩ := mirrors
  obtain rfl : result' = result.mapError Fault.escalated := same
  refine ⟨last, done, done', destroyed, ?_⟩
  cases result with
  | ok answer => exact .inl ⟨answer, answered answer rfl, rfl, rfl⟩
  | error fault => exact .inr ⟨fault, fun error same => mild error (congrArg _ same), rfl, rfl⟩

end Outcome.Mirrors

namespace Step
variable [Moded σ] [Moded τ] {promise : α → Prop} {pledge : β → Prop}
  {first first' : Step Object σ α} {next next' : α → Step Object σ β}

/-- Two operations, of which the one in normal mode and the other in fail-fast mode come to the same but
for how capacity failures show. Answers keep a promise. -/
def Mirrored (promise : α → Prop) (normal strict : Step Object σ α) : Prop :=
  ∀ base, (normal.run (inMode false base)).Mirrors promise (strict.run (inMode true base))

/-- The operation comes to the same in both modes but for how capacity failures show. -/
abbrev MirrorsItself (operation : Step Object σ α) : Prop :=
  Mirrored (fun _ => True) operation operation

namespace Mirrored

theorem of_pure {answer : α} (kept : promise answer) :
    Mirrored promise (pure answer : Step Object σ α) (pure answer) := fun base =>
  .of_answer kept base rfl

theorem of_set (base : σ) :
    Mirrored (fun _ => True) (set (inMode false base) : Step Object σ Unit) (set (inMode true base)) :=
  fun _ => .of_answer trivial base rfl

theorem of_log (event : Event) : (log event : Step Object σ Unit).MirrorsItself := fun base =>
  .of_answer trivial base rfl

theorem of_destroy (objects : List Object) :
    (destroy objects : Step Object σ Unit).MirrorsItself := fun base =>
  .of_answer trivial base rfl

theorem of_modify {change : σ → σ}
    (blind : ∀ failFast base, change (inMode failFast base) = inMode failFast (change base)) :
    (modify change : Step Object σ Unit).MirrorsItself := by
  intro base
  rw [run_modify, run_modify, blind, blind]
  exact .of_answer trivial _ rfl

/-- Refusals that are no capacity failures are the same in both modes. -/
theorem of_refuse {error : MemoryError} (lasting : error.isRetryable = false) :
    Mirrored promise (refuse error : Step Object σ α) (refuse error) := by
  intro base
  have plain : (Fault.refused error).escalated = .refused error := by
    rw [Fault.escalated, lasting]
    rfl
  have stops : ((refuse error : Step Object σ α).run (inMode false base)).Mirrors promise
      ⟨.error (Fault.refused error).escalated, inMode true base, []⟩ :=
    .of_fault (fun other => Fault.noConfusion) base rfl
  rw [plain] at stops
  exact stops

theorem of_abort {cause : Abort} (mild : ∀ error, cause ≠ .failFast error) :
    Mirrored promise (abort cause : Step Object σ α) (abort cause) := fun base =>
  .of_fault (fun error same => mild error (Fault.aborted.inj same)) base rfl

theorem of_refuseCapacity {error : MemoryError} (passing : error.isRetryable = true) :
    Mirrored promise (refuseCapacity error false : Step Object σ α) (refuseCapacity error true) := by
  intro base
  have fatal : (Fault.refused error).escalated = .aborted (.failFast error) := by
    rw [Fault.escalated, passing]
    rfl
  rw [run_refuseCapacity_false, run_refuseCapacity_true, ← fatal]
  apply Outcome.Mirrors.of_fault
  · exact fun other => Fault.noConfusion
  · cases error.event? <;> rfl

theorem of_assert (condition : Assertion) (holds : Bool) :
    Mirrored (fun _ => holds = true) (assert condition holds : Step Object σ Unit)
      (assert condition holds) := by
  cases holds with
  | true => exact of_pure rfl
  | false => exact of_abort fun error => Abort.noConfusion

/-- The second operation goes on from any answer of the first that keeps the promise. -/
theorem bind (begins : Mirrored promise first first')
    (goes : ∀ answer, promise answer → Mirrored pledge (next answer) (next' answer)) :
    Mirrored pledge (first >>= next) (first' >>= next') := by
  intro base
  obtain ⟨middle, done, done', same, ⟨answer, kept, ran, ran'⟩ | ⟨fault, mild, ran, ran'⟩⟩ :=
    (begins base).forms
  · have gone := goes answer kept middle
    rw [run_bind_of_ok ran, run_bind_of_ok ran']
    constructor
    case state => exact gone.state
    case result => exact gone.result
    case mild => exact gone.mild
    case destroyed =>
      rw [Effect.destroyedObjects_append, Effect.destroyedObjects_append, same, gone.destroyed]
    case answered => exact gone.answered
  · rw [run_bind_of_error ran, run_bind_of_error ran']
    exact .of_fault mild middle same

theorem get_bind {follow follow' : σ → Step Object σ β}
    (goes : ∀ base, Mirrored pledge (follow (inMode false base)) (follow' (inMode true base))) :
    Mirrored pledge (get >>= follow) (get >>= follow') := fun base => goes base base

theorem weaken (mirrored : Mirrored promise first first') {weaker : α → Prop}
    (implies : ∀ answer, promise answer → weaker answer) : Mirrored weaker first first' := fun base =>
  { mirrored base with answered := fun answer same => implies answer ((mirrored base).answered answer same) }

theorem map (mirrored : Mirrored promise first first') {change : α → β}
    (kept : ∀ answer, promise answer → pledge (change answer)) :
    Mirrored pledge (change <$> first) (change <$> first') := by
  change Mirrored pledge (first >>= fun answer => pure (change answer))
    (first' >>= fun answer => pure (change answer))
  exact mirrored.bind fun answer promised => of_pure (kept answer promised)

theorem when {operation : Step Object σ Unit} (mirrors : operation.MirrorsItself) (condition : Bool) :
    (when condition operation).MirrorsItself := by
  cases condition with
  | true => exact mirrors
  | false => exact of_pure trivial

/-- Whatever the mode, a fault destroys what the operation owns. -/
theorem owning (mirrored : Mirrored promise first first') (objects : List Object) :
    Mirrored promise (owning objects first) (owning objects first') := by
  intro base
  obtain ⟨last, done, done', same, ⟨answer, kept, ran, ran'⟩ | ⟨fault, mild, ran, ran'⟩⟩ :=
    (mirrored base).forms
  · rw [run_owning_of_ok ran, run_owning_of_ok ran']
    exact .of_answer kept last same
  · rw [run_owning_of_error ran, run_owning_of_error ran']
    apply Outcome.Mirrors.of_fault mild
    rw [Effect.destroyedObjects_append, Effect.destroyedObjects_append, same]

theorem within {part part' : τ → σ} {replace replace' : τ → σ → τ}
    (mirrored : Mirrored promise first first')
    (parts : ∀ base, ∃ inner, part (inMode false base) = inMode false inner ∧
      part' (inMode true base) = inMode true inner)
    (replaced : ∀ base last, ∃ whole,
      replace (inMode false base) (inMode false last) = inMode false whole ∧
        replace' (inMode true base) (inMode true last) = inMode true whole) :
    Mirrored promise (within part replace first) (within part' replace' first') := by
  intro base
  obtain ⟨inner, normal, strict⟩ := parts base
  have same := mirrored inner
  obtain ⟨last, left, left'⟩ := same.state
  rw [run_within, run_within, normal, strict]
  constructor
  case state =>
    simp only [Outcome.mapState, left, left']
    exact replaced base last
  case result => exact same.result
  case mild => exact same.mild
  case destroyed => exact same.destroyed
  case answered => exact same.answered

end Mirrored
end Step
end Allotment
