import Allotment.Proofs.Accounting.Deed

namespace Allotment
variable {Object σ τ α β : Type}

/-- The operation came to its end without a change to the books of the stack, which is somewhere in the
state. -/
structure Outcome.Aloof (seat : σ → Stack Object) (state : σ) (outcome : Outcome Object σ α) : Prop where
  unmoved : (seat state).Unmoved (seat outcome.state)
  uncounted : Effect.counted outcome.effects = []
  roomy : FoundRoom outcome.result

/-- What the operation did to the stack, which is somewhere in the state, is accounted for. -/
def Outcome.Accounted (seat : σ → Stack Object) (state : σ) (outcome : Outcome Object σ α) : Prop :=
  (seat state).Account (seat outcome.state) outcome.result (Effect.counted outcome.effects)

theorem Outcome.Aloof.accounted {seat : σ → Stack Object} {state : σ} {outcome : Outcome Object σ α}
    (aloof : outcome.Aloof seat state) : outcome.Accounted seat state := by
  rw [Accounted, aloof.uncounted]
  exact aloof.unmoved.account aloof.roomy

namespace Step
variable {seat : σ → Stack Object} {operation : Step Object σ α} {follow : α → Step Object σ β}

/-- An operation whose last part counts nothing counts what its first part does. -/
theorem counted_of_silent {state : σ} {answer : β}
    (silent : ∀ value middle, Effect.counted ((follow value).run middle).effects = [])
    (answered : ((operation >>= follow).run state).result = .ok answer) :
    ∃ value, (operation.run state).result = .ok value ∧
      ((follow value).run (operation.run state).state).result = .ok answer ∧
      Effect.counted ((operation >>= follow).run state).effects =
        Effect.counted (operation.run state).effects := by
  rcases ran : operation.run state with ⟨fault | value, middle, done⟩
  · rw [run_bind_of_error ran] at answered
    cases answered
  · rw [run_bind_of_ok ran] at answered ⊢
    refine ⟨value, rfl, answered, ?_⟩
    rw [Effect.counted_append, silent, List.append_nil]

/-- Whatever state the operation begins in, it leaves the books alone. -/
def Aloof (seat : σ → Stack Object) (operation : Step Object σ α) : Prop :=
  ∀ state, (operation.run state).Aloof seat state

/-- Whatever state the operation begins in, what it does is accounted for. -/
def Accounted (seat : σ → Stack Object) (operation : Step Object σ α) : Prop :=
  ∀ state, (operation.run state).Accounted seat state

namespace Aloof

theorem accounted (aloof : Aloof seat operation) : Accounted seat operation := fun state =>
  (aloof state).accounted

theorem of_pure (answer : α) : Aloof seat (pure answer : Step Object σ α) := fun _ =>
  ⟨.refl _, rfl, .of_ok answer⟩

theorem of_refuse {error : MemoryError} (other : (Fault.refused error).isShortage = false) :
    Aloof seat (refuse error : Step Object σ α) := fun _ => ⟨.refl _, rfl, .of_error other⟩

theorem of_abort {cause : Abort} (other : (Fault.aborted cause).isShortage = false) :
    Aloof seat (abort cause : Step Object σ α) := fun _ => ⟨.refl _, rfl, .of_error other⟩

theorem of_log {event : Event} (other : event.isCounted = false) :
    Aloof seat (log event : Step Object σ Unit) := by
  intro state
  refine ⟨.refl _, ?_, .of_ok ()⟩
  simp [Effect.counted, Effect.events, other]

theorem of_destroy (objects : List Object) : Aloof seat (destroy objects : Step Object σ Unit) :=
  fun _ => ⟨.refl _, Effect.counted_destroyed objects, .of_ok ()⟩

theorem of_modify {change : σ → σ} (kept : ∀ state, (seat state).Unmoved (seat (change state))) :
    Aloof seat (modify change : Step Object σ Unit) := fun state => ⟨kept state, rfl, .of_ok ()⟩

theorem bind (first : Aloof seat operation) (next : ∀ answer, Aloof seat (follow answer)) :
    Aloof seat (operation >>= follow) := by
  intro state
  obtain ⟨unmoved, uncounted, roomy⟩ := first state
  rcases ran : operation.run state with ⟨fault | answer, middle, done⟩ <;>
    rw [ran] at unmoved uncounted roomy
  · rw [run_bind_of_error ran]
    exact ⟨unmoved, uncounted, .of_error (roomy fault rfl)⟩
  · obtain ⟨unmoved', uncounted', roomy'⟩ := next answer middle
    rw [run_bind_of_ok ran]
    refine ⟨unmoved.trans unmoved', ?_, roomy'⟩
    rw [Effect.counted_append, uncounted, uncounted', List.append_nil]

theorem get_bind {follow : σ → Step Object σ β}
    (goes : ∀ state, ((follow state).run state).Aloof seat state) : Aloof seat (get >>= follow) := goes

theorem of_usageViolation (component details : String) :
    Aloof seat (usageViolation component details : Step Object σ α) :=
  (of_log rfl).bind fun _ => of_abort rfl

theorem next (first : Aloof seat operation) (accounted : ∀ answer, Accounted seat (follow answer)) :
    Accounted seat (operation >>= follow) := by
  intro state
  obtain ⟨unmoved, uncounted, roomy⟩ := first state
  rcases ran : operation.run state with ⟨fault | answer, middle, done⟩ <;>
    rw [ran] at unmoved uncounted roomy
  · rw [run_bind_of_error ran]
    exact Outcome.Aloof.accounted ⟨unmoved, uncounted, .of_error (roomy fault rfl)⟩
  · have account := accounted answer middle
    rw [run_bind_of_ok ran, Outcome.Accounted, Effect.counted_append, uncounted]
    exact account.after_unmoved unmoved

end Aloof

/-- From a state on, the operation answers and leaves the books alone. -/
def SettlesAt (seat : σ → Stack Object) (operation : Step Object σ α) (state : σ) : Prop :=
  ∃ answer, (operation.run state).result = .ok answer ∧ (operation.run state).Aloof seat state

theorem SettlesAt.of_run {state last : σ} {answer : α} {done : List (Effect Object)}
    (ran : operation.run state = ⟨.ok answer, last, done⟩) (unmoved : (seat state).Unmoved (seat last))
    (uncounted : Effect.counted done = []) : SettlesAt seat operation state := by
  unfold SettlesAt
  rw [ran]
  exact ⟨answer, rfl, unmoved, uncounted, .of_ok answer⟩

theorem SettlesAt.bind {state : σ} (first : SettlesAt seat operation state)
    (next : ∀ answer middle done, operation.run state = ⟨.ok answer, middle, done⟩ →
      SettlesAt seat (follow answer) middle) : SettlesAt seat (operation >>= follow) state := by
  obtain ⟨answer, answered, unmoved, uncounted, _⟩ := first
  rcases ran : operation.run state with ⟨result, middle, done⟩
  rw [ran] at answered unmoved uncounted
  obtain rfl : result = .ok answer := answered
  obtain ⟨last, answered', unmoved', uncounted', _⟩ := next answer middle done ran
  refine ⟨last, ?_, ?_⟩ <;> rw [run_bind_of_ok ran]
  · exact answered'
  · refine ⟨unmoved.trans unmoved', ?_, answered' ▸ .of_ok last⟩
    rw [Effect.counted_append, uncounted, uncounted', List.append_nil]

/-- What leaves the books alone and cannot fail may come after what is accounted for. -/
theorem accounted_of_settled {state : σ} (first : (operation.run state).Accounted seat state)
    (settles : ∀ answer middle done, operation.run state = ⟨.ok answer, middle, done⟩ →
      SettlesAt seat (follow answer) middle) :
    ((operation >>= follow).run state).Accounted seat state := by
  rcases ran : operation.run state with ⟨fault | answer, middle, done⟩ <;> rw [ran] at first
  · rw [run_bind_of_error ran]
    exact first.of_error
  · obtain ⟨last, answered, unmoved, uncounted, _⟩ := settles answer middle done ran
    rw [run_bind_of_ok ran, Outcome.Accounted, Effect.counted_append, uncounted, List.append_nil,
      answered]
    exact first.then_unmoved unmoved last

namespace Accounted

theorem get_bind {follow : σ → Step Object σ β}
    (goes : ∀ state, ((follow state).run state).Accounted seat state) :
    Accounted seat (get >>= follow) := goes

theorem settled (first : Accounted seat operation)
    (settles : ∀ answer state, SettlesAt seat (follow answer) state) :
    Accounted seat (operation >>= follow) := fun state =>
  accounted_of_settled (first state) fun answer middle _ _ => settles answer middle

theorem map (accounted : Accounted seat operation) (change : α → β) :
    Accounted seat (change <$> operation) := by
  change Accounted seat (operation >>= fun answer => pure (change answer))
  exact accounted.settled fun answer state => ⟨change answer, rfl, Aloof.of_pure _ state⟩

theorem when {operation : Step Object σ Unit} (accounted : Accounted seat operation)
    (condition : Bool) : Accounted seat (when condition operation) := by
  cases condition with
  | false => exact (Aloof.of_pure ()).accounted
  | true => exact accounted

/-- What is destroyed on the way out is not counted. -/
theorem owning (accounted : Accounted seat operation) (objects : List Object) :
    Accounted seat (owning objects operation) := by
  intro state
  have account := accounted state
  rcases ran : operation.run state with ⟨fault | answer, last, done⟩ <;> rw [ran] at account
  · rw [run_owning_of_error ran, Outcome.Accounted, Effect.counted_append, Effect.counted_destroyed,
      List.append_nil]
    exact account
  · rw [run_owning_of_ok ran]
    exact account

theorem within {whole : τ → Stack Object} {part : τ → σ} {replace : τ → σ → τ}
    (accounted : Accounted seat operation) (sits : ∀ state, whole state = seat (part state))
    (stays : ∀ state last, whole (replace state last) = seat last) :
    Accounted whole (within part replace operation) := by
  intro state
  have account := accounted (part state)
  rw [run_within, Outcome.Accounted, sits]
  simp only [Outcome.mapState, stays]
  exact account

end Accounted
end Step
end Allotment
