import Allotment.Proofs.Stack.Isolation

/-! Last in, first out. Calls that give back what they acquired, and leave the block that was on top
when they began alone, bring back the offsets and the bytes below them. -/
namespace Allotment.Stack
variable {Object : Type}

namespace Call
variable {call : Call Object}

/-- The call is to resize or to give back the block that starts here. -/
def Addresses : Call Object → Nat → Prop
  | resize (some address) _ _, start => address = start
  | release (some address), start => address = start
  | _, _ => False

theorem addresses_of_released {address : Nat} (released : call.released? = some address) :
    call.Addresses address := by
  rcases release_cases released with rfl | ⟨_, rfl⟩ <;> rfl

end Call

namespace Session
variable {session : Session Object} {call : Call Object} {held base : List Extent} {bottom : Header}

/-- The call does not give back all blocks, and where a base block is on top it does not resize or
give back that one, unless it is rejected. -/
def Spares (base : List Extent) (session : Session Object) (call : Call Object) : Prop :=
  ¬ call.IsBulk ∧ ∀ block ∈ base, session.stack.top = block.start → call.Addresses block.start →
    ∃ fault, session.answer call = .error fault

/-- The blocks held after calls, of those held before and those the calls acquire. -/
def outstanding : Session Object → List (Call Object) → List Extent → List Extent
  | _, [], held => held
  | session, call :: rest, held => (session.perform call).outstanding rest (session.hold call held)

theorem Spares.top_ne (spared : session.Spares base call) {answer : Option Nat}
    (answered : session.answer call = .ok answer) {block : Extent} (live : block ∈ base)
    (addressed : call.Addresses block.start) : session.stack.top ≠ block.start := by
  intro top
  obtain ⟨fault, failed⟩ := spared.2 block live top addressed
  rw [answered] at failed
  cases failed

private theorem Valid.top_of_released (valid : session.Valid) {start : Nat} {answer : Option Nat}
    (released : call.released? = some start) (answered : session.answer call = .ok answer) :
    session.stack.top = start := by
  cases found : session.stack.releaseMisuse? start with
  | some misuse =>
    rw [Session.answer, Call.run_of_release_misuse released found] at answered
    cases answered
  | none => exact ((releaseMisuse?_eq_none_iff valid.ordered).mp found).2.symm

private theorem Valid.moveEnd_append (valid : session.Valid) (split : session.blocks = held ++ base)
    {start newSize oldSize stop : Nat} {answer : Option Nat}
    (spared : session.Spares base (.resize (some start) newSize oldSize))
    (answered : session.answer (.resize (some start) newSize oldSize) = .ok answer) :
    Call.moveEnd start stop (held ++ base) = Call.moveEnd start stop held ++ base := by
  cases held with
  | cons top rest =>
    simp only [Call.moveEnd, List.cons_append]
    split <;> rfl
  | nil =>
    cases base with
    | nil => rfl
    | cons block rest =>
      have top : session.stack.offsets = ⟨block.start, block.stop⟩ :=
        valid.chain.head_start (by rw [split]; rfl)
      have other : block.start ≠ start := fun same =>
        spared.top_ne answered (List.mem_cons_self ..) same.symm (congrArg Header.top top)
      simp only [List.nil_append, Call.moveEnd, other, if_false]

/-- A call that spares the base makes of the blocks above what it would without it. -/
private theorem Valid.hold_append (valid : session.Valid) (split : session.blocks = held ++ base)
    (spared : session.Spares base call) :
    session.hold call (held ++ base) = session.hold call held ++ base := by
  rw [hold, hold]
  cases answered : session.answer call with
  | error fault => rfl
  | ok answer =>
    have filtered : ∀ {start : Nat}, call.released? = some start →
        (held ++ base).filter (fun block => block.start != start) =
          held.filter (fun block => block.start != start) ++ base := by
      intro start released
      rw [List.filter_append]
      congr 1
      rw [List.filter_eq_self]
      intro block live
      simp only [bne_iff_ne, ne_eq]
      intro same
      subst same
      exact spared.top_ne answered live (Call.addresses_of_released released)
        (valid.top_of_released released answered)
    cases call with
    | allocate size => cases answer <;> rfl
    | allocateZeroed size => cases answer <;> rfl
    | release target =>
      cases target with
      | none => rfl
      | some start => exact filtered rfl
    | resize target newSize oldSize =>
      cases target with
      | none => cases answer <;> rfl
      | some start =>
        cases answer with
        | none =>
          by_cases asked : newSize = 0
          · subst asked
            exact filtered rfl
          · cases valid.answer_resize asked answered
        | some place => exact valid.moveEnd_append split spared answered
    | releaseAll => exact (spared.1 trivial).elim
    | reset => exact (spared.1 trivial).elim
    | resetStatistics => rfl
    | write start cells => rfl

private theorem Valid.top_above (valid : session.Valid) (split : session.blocks = held ++ base)
    (chain : Chain session.stack base bottom) (spared : session.Spares base call)
    {answer : Option Nat} (answered : session.answer call = .ok answer) {block : Extent}
    {rest : List Extent} (live : session.blocks = block :: rest)
    (addressed : call.Addresses block.start) : bottom.used + headerSize ≤ block.start := by
  have top : session.stack.offsets = ⟨block.start, block.stop⟩ :=
    valid.chain.head_start (by rw [live]; rfl)
  cases held with
  | nil =>
    have inBase : block ∈ base := by
      rw [← List.nil_append base, ← split, live]
      exact List.mem_cons_self ..
    exact absurd (congrArg Header.top top) (spared.top_ne answered inBase addressed)
  | cons head tail =>
    rw [live] at split
    obtain ⟨same, _⟩ := List.cons.inj split
    subst same
    have whole := valid.chain
    rw [live, split] at whole
    obtain ⟨below, lower, _, above⟩ := whole.suffix
    rw [chain.unique lower]
    exact above block (List.mem_cons_self ..)

/-- A call that spares the base keeps the bytes up to its end, but for those it writes itself. -/
private theorem Valid.kept_below (valid : session.Valid) (split : session.blocks = held ++ base)
    (chain : Chain session.stack base bottom) (spared : session.Spares base call) {address : Nat}
    (below : address < bottom.used) (missed : ¬ call.Targets address) :
    (session.perform call).stack.memory.load address = session.stack.memory.load address := by
  have transition := valid.transition call
  have under : bottom.used ≤ session.stack.used := by
    have whole := valid.chain
    rw [split] at whole
    obtain ⟨lowest, lower, under, _⟩ := whole.suffix
    rw [chain.unique lower]
    exact under
  cases answered : session.answer call with
  | error fault =>
    rw [(transition.rejected fault answered).memory]
  | ok answer =>
    cases transition.change with
    | idle blocks offsets memory => rw [memory]
    | @pushed size fresh requested placed blocks offsets header kept =>
      obtain ⟨room, _⟩ := placement?_some placed
      exact kept address (by omega)
    | @popped top rest live released blocks offsets kept =>
      have above := valid.top_above split chain spared answered live
        (Call.addresses_of_released released)
      exact kept address (by omega)
    | @resized top rest newSize oldSize live asked called fits blocks offsets kept =>
      have above := valid.top_above split chain spared answered live (by rw [called]; rfl)
      obtain ⟨_, order, _⟩ := valid.chain.bounds (live ▸ List.mem_cons_self ..)
      exact kept address (by omega)
    | cleared bulk => exact (spared.1 bulk).elim
    | written blocks offsets kept => exact kept address missed

/-- Calls that spare the base leave it chained below what they hold, and keep the bytes up to its end
that none of them writes. -/
private theorem Valid.after_spared (valid : session.Valid) (split : session.blocks = held ++ base)
    (chain : Chain session.stack base bottom) {calls : List (Call Object)}
    (permitted : session.Permits calls) (spared : session.Follows (Spares base) calls) :
    (session.after calls).Valid ∧
      (session.after calls).blocks = session.outstanding calls held ++ base ∧
      Chain (session.after calls).stack base bottom ∧
      ∀ address, address < bottom.used → (∀ call ∈ calls, ¬ call.Targets address) →
        (session.after calls).stack.memory.load address = session.stack.memory.load address := by
  induction calls generalizing session held with
  | nil => exact ⟨valid, split, chain, fun _ _ _ => rfl⟩
  | cons call rest ih =>
    obtain ⟨confined, permitted'⟩ := permitted
    obtain ⟨spares, spared'⟩ := spared
    have valid' := valid.perform confined
    have split' : (session.perform call).blocks = session.hold call held ++ base := by
      rw [← valid.hold_append split spares, ← split]
      rfl
    have whole := valid'.chain
    rw [split'] at whole
    obtain ⟨below, lower, _, _⟩ := whole.suffix
    rw [← chain.unique lower] at lower
    obtain ⟨last, blocks, chained, kept⟩ := ih valid' split' lower permitted' spared'
    refine ⟨last, blocks, chained, ?_⟩
    intro address inside missed
    have later := kept address inside fun other member =>
      missed other (List.mem_cons_of_mem call member)
    have now := valid.kept_below split chain spares inside (missed call (List.mem_cons_self ..))
    exact later.trans now

theorem Valid.release_top (valid : session.Valid) {block : Extent}
    (top : session.blocks.head? = some block) (released : call.released? = some block.start) :
    session.answer call = .ok none := by
  have offsets : session.stack.offsets = ⟨block.start, block.stop⟩ := valid.chain.head_start top
  have start : session.stack.top = block.start := congrArg Header.top offsets
  have live : session.stack.top ≠ 0 := by
    intro none
    rw [valid.chain.top_eq_zero_iff.mp none] at top
    cases top
  rw [← start] at released
  rw [Session.answer, Call.run_of_release valid.ordered valid.backed live released]

/-- Calls that leave the block on top alone only add blocks above it. Once these are given back the offsets
are what they were, and the bytes below the old end are kept but for those the caller writes. -/
theorem Reachable.restoration (reached : session.Reachable) {calls : List (Call Object)}
    (permitted : session.Permits calls) (spared : session.Follows (Spares session.blocks) calls) :
    (session.after calls).blocks = session.outstanding calls [] ++ session.blocks ∧
      (∀ block, (session.outstanding calls []).head? = some block →
        ∀ call : Call Object, call.released? = some block.start →
          (session.after calls).answer call = .ok none) ∧
      (session.outstanding calls [] = [] →
        (session.after calls).stack.offsets = session.stack.offsets ∧
          (session.blocks = [] → (session.after calls).stack.offsets = ⟨0, 0⟩)) ∧
      ∀ address, address < session.stack.used → (∀ call ∈ calls, ¬ call.Targets address) →
        (session.after calls).stack.memory.load address = session.stack.memory.load address := by
  have valid := reached.valid
  have split : session.blocks = [] ++ session.blocks := rfl
  obtain ⟨last, blocks, chained, kept⟩ := valid.after_spared split valid.chain permitted spared
  refine ⟨blocks, ?_, ?_, kept⟩
  · intro block top call released
    refine last.release_top ?_ released
    rw [blocks, List.head?_append, top]
    rfl
  · intro balanced
    rw [balanced, List.nil_append] at blocks
    have whole := last.chain
    rw [blocks] at whole
    refine ⟨whole.unique chained, ?_⟩
    intro none
    have empty : Chain (session.after calls).stack [] ⟨0, 0⟩ := .nil
    exact whole.unique (none ▸ empty)

/-- Above one block, two are acquired, one grows, and both are given back, the last of them by a
resize to nothing. In between the lower block shrinks, an address that starts no block is refused,
and there is no room for a hundred bytes. -/
theorem restoration_of_nested_blocks :
    ∃ session : Session Unit, session.Reachable ∧ session.blocks = [⟨8, 16⟩] ∧
      ∃ calls : List (Call Unit), session.outstanding calls [] = [] ∧
        (session.after calls).stack.offsets = ⟨8, 16⟩ ∧
        ∀ address, address < 16 →
          (session.after calls).stack.memory.load address =
            session.stack.memory.load address := by
  have built : (Stack.create 64 8 .debug : Step Unit Unit (Stack Unit)).run () =
      ⟨.ok (.empty ⟨64, 8, rfl, by decide, by decide, rfl, by decide⟩ .debug), (),
        [.logged (.stackCreated 64 8 .debug)]⟩ := rfl
  have reached := (Reachable.created built).after [.allocate 8] ⟨fun _ target => target.elim, trivial⟩
  have inside : (Call.write 30 [Cell.zero] : Call Unit).Confined [⟨48, 50⟩, ⟨24, 33⟩, ⟨8, 16⟩] :=
    fun address target => ⟨⟨24, 33⟩, by decide, Nat.le_trans (by decide) target.1,
      Nat.lt_of_lt_of_le target.2 (by decide)⟩
  have spares : ∀ {session : Session Unit} {call : Call Unit}, ¬ call.IsBulk →
      (session.stack.top = 8 → ¬ call.Addresses 8) → Spares [⟨8, 16⟩] session call := by
    intro session call single apart
    refine ⟨single, ?_⟩
    intro block live top addressed
    cases List.mem_singleton.mp live
    exact (apart top addressed).elim
  obtain ⟨_, _, restored, kept⟩ := reached.restoration
    (show Session.Permits _ [.allocate 5, .resize (some 24) 9 5, .resize (some 8) 4 8,
        .release (some 3), .allocate 100, .allocateZeroed 2, .write 30 [Cell.zero],
        .release (some 48), .resize (some 24) 0 9] from
      ⟨fun _ target => target.elim, fun _ target => target.elim, fun _ target => target.elim,
        fun _ target => target.elim, fun _ target => target.elim, fun _ target => target.elim,
        inside, fun _ target => target.elim, fun _ target => target.elim, trivial⟩)
    ⟨spares id fun _ => id, spares id fun _ => (by decide : ¬ 24 = 8),
      spares id fun top => absurd top (by decide), spares id fun _ => (by decide : ¬ 3 = 8),
      spares id fun _ => id, spares id fun _ => id, spares id fun _ => id,
      spares id fun _ => (by decide : ¬ 48 = 8), spares id fun _ => (by decide : ¬ 24 = 8), trivial⟩
  refine ⟨_, reached, rfl, _, rfl, (restored rfl).1, fun address below => kept address below ?_⟩
  simp [Call.Targets]
  omega

end Session
end Allotment.Stack
