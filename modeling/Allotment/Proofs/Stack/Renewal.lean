import Allotment.Proofs.Stack.Lockstep

namespace Allotment.Stack.Session
variable {Object : Type} {session one other : Session Object} {call : Call Object}

/-- What callers see of calls, in order: what each call answers, and the offsets it leaves. -/
def trail : Session Object → List (Call Object) → List (Except Fault (Option Nat) × Header)
  | _, [] => []
  | session, call :: rest =>
    (session.answer call, (session.perform call).stack.offsets) :: (session.perform call).trail rest

/-- Sessions in lockstep stay so, call by call, and show the same. -/
theorem Lockstep.trail (lockstep : Lockstep one other) {calls : List (Call Object)}
    (permitted : one.Permits calls) : one.trail calls = other.trail calls := by
  induction calls generalizing one other with
  | nil => rfl
  | cons call rest ih =>
    have next := lockstep.perform (.same call) permitted.1
    simp only [Session.trail, lockstep.answer (.same call), next.offsets, ih next permitted.2]

/-- A bulk release leaves a session in lockstep with one on a new stack, whatever is in the buffer. -/
theorem Valid.renewed (valid : session.Valid) (bulk : call.IsBulk) :
    Lockstep (session.perform call) ⟨empty session.stack.shape session.stack.config, []⟩ := by
  have kept := valid.transition call
  have confined : call.Confined session.blocks := by
    intro address target
    cases call with
    | write => exact bulk.elim
    | _ => exact target.elim
  constructor
  case valid => exact valid.perform confined
  case valid' => exact .of_empty ..
  case shape => exact kept.shape
  case failFast => rw [kept.config]; rfl
  case blocks => exact valid.blocks_of_bulk bulk

/-- A stack whose blocks were given back all at once cannot be told from the stack it was when it was built:
any calls that follow get the same answers and leave the same offsets. -/
theorem renewal {capacity align : Nat} {config : StackConfig} {stack : Stack Object}
    {done : List (Effect Object)}
    (built : (Stack.create capacity align config).run () = ⟨.ok stack, (), done⟩)
    {earlier : List (Call Object)} (permitted : Permits ⟨stack, []⟩ earlier)
    (bulk : call.IsBulk) {later : List (Call Object)}
    (permitted' : ((after ⟨stack, []⟩ earlier).perform call).Permits later) :
    (after ⟨stack, []⟩ earlier).answer call = .ok none ∧
      ((after ⟨stack, []⟩ earlier).perform call).blocks = [] ∧
      ((after ⟨stack, []⟩ earlier).perform call).stack.offsets = stack.offsets ∧
      ((after ⟨stack, []⟩ earlier).perform call).trail later = trail ⟨stack, []⟩ later := by
  obtain ⟨shape, rfl⟩ := eq_empty_of_create built
  have valid : Valid ⟨(empty shape config : Stack Object), []⟩ := .of_empty shape config
  obtain ⟨reached, sameShape, sameConfig⟩ := valid.after permitted
  have lockstep := reached.renewed bulk
  rw [sameShape, sameConfig] at lockstep
  exact ⟨reached.answer_of_bulk bulk, lockstep.blocks, lockstep.offsets, lockstep.trail permitted'⟩

/-- Two blocks were live, and a reset filled nothing. The header of the upper block is still in the buffer
when that block is given back a second time, below a new block that covers it. -/
theorem renewal_with_stale_header :
    ∃ dirty fresh : Session Unit, fresh.stack.offsets = ⟨0, 0⟩ ∧
      dirty.stack.headerAt 24 = ⟨8, 16⟩ ∧ fresh.stack.headerAt 24 = ⟨0, 0⟩ ∧
      dirty.trail [.allocate 40, .release (some 24), .release (some 8), .release (some 8)] =
        fresh.trail [.allocate 40, .release (some 24), .release (some 8), .release (some 8)] ∧
      dirty.trail [.allocate 40, .release (some 24), .release (some 8), .release (some 8)] =
        [(.ok (some 8), ⟨8, 48⟩),
          (.error (.aborted (.violation component (StackMisuse.releaseOutOfOrder 24 8).details)),
            ⟨8, 48⟩),
          (.ok none, ⟨0, 0⟩),
          (.error (.aborted (.violation component (StackMisuse.releaseWhileEmpty 8).details)),
            ⟨0, 0⟩)] := by
  have built : (Stack.create 64 8 .production : Step Unit Unit (Stack Unit)).run () =
      ⟨.ok (.empty ⟨64, 8, rfl, by decide, by decide, rfl, by decide⟩ .production), (),
        [.logged (.stackCreated 64 8 .production)]⟩ := rfl
  have bulk : (Call.reset : Call Unit).IsBulk := trivial
  have earlier : ∀ session : Session Unit, session.Permits [.allocate 8, .allocate 8] := fun _ =>
    ⟨fun _ target => target.elim, fun _ target => target.elim, trivial⟩
  have later : ∀ session : Session Unit,
      session.Permits [.allocate 40, .release (some 24), .release (some 8), .release (some 8)] :=
    fun _ => ⟨fun _ target => target.elim, fun _ target => target.elim, fun _ target => target.elim,
      fun _ target => target.elim, trivial⟩
  obtain ⟨_, _, _, same⟩ := renewal built (earlier _) bulk (later _)
  exact ⟨_, _, rfl, rfl, rfl, same, rfl⟩

end Allotment.Stack.Session
