import Allotment.Proofs.Allocator.Stack

/-! Several parties hold blocks of one stack. In its turn a party may acquire blocks, resize, release and
write to its own; what it leaves of the stack is the same for everyone else. -/
namespace Allotment.Stack
open Allocator Custody
variable {Object : Type} {stack before middle after : Stack Object}

/-- A live block starts at the address. -/
def Live (stack : Stack Object) (address : Nat) : Prop := Holds stack address 0

theorem live_of_holds {address size : Nat} (held : Holds stack address size) : stack.Live address := by
  obtain ⟨blocks, valid, block, live, start, fits⟩ := held
  exact ⟨blocks, valid, block, live, start, Nat.le_trans (Nat.le_add_right _ size) fits⟩

theorem Session.Valid.live_iff {session : Session Object} (valid : session.Valid) {address : Nat} :
    session.stack.Live address ↔ address ∈ session.blocks.map Extent.start := by
  rw [Live, valid.holds_iff, List.mem_map]
  constructor
  · rintro ⟨block, live, start, _⟩
    exact ⟨block, live, start⟩
  · rintro ⟨block, live, rfl⟩
    exact ⟨block, live, rfl, (valid.chain.bounds live).2.1⟩

private theorem Chain.eq_of_covers {blocks : List Extent} {offsets : Header}
    (chain : Chain stack blocks offsets) {first second : Extent} (live : first ∈ blocks)
    (alive : second ∈ blocks) {address : Nat} (covers : first.Covers address)
    (covers' : second.Covers address) : first = second := by
  obtain ⟨low, high⟩ := covers
  obtain ⟨low', high'⟩ := covers'
  rcases chain.apart live alive with same | below | above
  · exact same
  · omega
  · omega

private theorem Chain.starts_nodup {blocks : List Extent} {offsets : Header}
    (chain : Chain stack blocks offsets) : (blocks.map Extent.start).Nodup := by
  refine List.pairwise_map.mpr (chain.separated.imp_of_mem ?_)
  intro upper lower _ live gap same
  have order := (chain.bounds live).2.1
  simp only [headerSize] at gap
  omega

namespace Call
variable {call : Call Object}

/-- The starts of blocks in hand after a call. A fault is caught, and they stay as they were. -/
def starts (call : Call Object) (result : Except Fault (Option Nat)) (held : List Nat) : List Nat :=
  match call, result with
  | allocate _, .ok (some start) => start :: held
  | allocateZeroed _, .ok (some start) => start :: held
  | resize none _ _, .ok (some start) => start :: held
  | resize (some start) _ _, .ok none => held.filter (· != start)
  | release (some start), .ok _ => held.filter (· != start)
  | releaseAll, .ok _ => []
  | reset, .ok _ => []
  | _, _ => held

private theorem map_start_moveEnd (start stop : Nat) (blocks : List Extent) :
    (moveEnd start stop blocks).map Extent.start = blocks.map Extent.start := by
  cases blocks with
  | nil => rfl
  | cons top rest =>
    rw [moveEnd]
    split
    · next same => rw [List.map_cons, List.map_cons, same]
    · rfl

private theorem map_start_ledger (call : Call Object) (answer : Option Nat) (blocks : List Extent) :
    (call.ledger answer blocks).map Extent.start =
      call.starts (.ok answer) (blocks.map Extent.start) := by
  have dropped : ∀ start, (blocks.filter fun block => block.start != start).map Extent.start =
      (blocks.map Extent.start).filter (· != start) := fun start => by
    rw [List.filter_map]
    rfl
  cases call with
  | allocate size => cases answer <;> rfl
  | allocateZeroed size => cases answer <;> rfl
  | resize block newSize oldSize =>
    match block, answer with
    | none, none => rfl
    | none, some _ => rfl
    | some start, none => exact dropped start
    | some start, some _ => exact map_start_moveEnd start _ blocks
  | release block =>
    cases block with
    | none => rfl
    | some start => exact dropped start
  | _ => rfl

theorem starts_of_error (call : Call Object) (fault : Fault) (held : List Nat) :
    call.starts (.error fault) held = held := by
  cases call with
  | resize block _ _ => cases block <;> rfl
  | release block => cases block <;> rfl
  | _ => rfl

/-- Starts in hand are left as they are, or one is gained, one is lost, or all are. -/
inductive Changed (change : List Nat → List Nat) : Prop where
  | same (starts : ∀ held, change held = held)
  | gained {place : Nat} (starts : ∀ held, change held = place :: held)
  | lost {place : Nat} (starts : ∀ held, change held = held.filter (· != place))
  | cleared (starts : ∀ held, change held = [])

private theorem changed_starts (call : Call Object) (result : Except Fault (Option Nat)) :
    Changed (call.starts result) := by
  rcases result with fault | answer
  · exact .same (call.starts_of_error fault)
  · cases call with
    | allocate size =>
      cases answer with
      | none => exact .same fun _ => rfl
      | some place => exact .gained fun _ => rfl
    | allocateZeroed size =>
      cases answer with
      | none => exact .same fun _ => rfl
      | some place => exact .gained fun _ => rfl
    | resize block newSize oldSize =>
      match block, answer with
      | none, none => exact .same fun _ => rfl
      | none, some place => exact .gained fun _ => rfl
      | some start, none => exact .lost fun _ => rfl
      | some _, some _ => exact .same fun _ => rfl
    | release block =>
      cases block with
      | none => exact .same fun _ => rfl
      | some start => exact .lost fun _ => rfl
    | releaseAll => exact .cleared fun _ => rfl
    | reset => exact .cleared fun _ => rfl
    | resetStatistics => exact .same fun _ => rfl
    | write start cells => exact .same fun _ => rfl

namespace Changed
variable {change : List Nat → List Nat} {own all : List Nat} {address : Nat}

theorem subset (changed : Changed change) (within : ∀ address ∈ own, address ∈ all)
    (mine : address ∈ change own) : address ∈ change all := by
  cases changed with
  | same starts =>
    rw [starts] at mine ⊢
    exact within address mine
  | gained starts =>
    rw [starts] at mine ⊢
    rcases List.mem_cons.mp mine with rfl | old
    · exact List.mem_cons_self ..
    · exact List.mem_cons_of_mem _ (within address old)
  | lost starts =>
    rw [starts] at mine ⊢
    obtain ⟨old, other⟩ := List.mem_filter.mp mine
    exact List.mem_filter.mpr ⟨within address old, other⟩
  | cleared starts =>
    rw [starts] at mine
    cases mine

theorem fresh (changed : Changed change) (distinct : (change all).Nodup) (foreign : address ∉ own)
    (alive : address ∈ all) : address ∉ change own := by
  cases changed with
  | same starts => rwa [starts]
  | gained starts =>
    rw [starts] at distinct ⊢
    have new := (List.nodup_cons.mp distinct).1
    exact fun mine => (List.mem_cons.mp mine).elim (fun same => new (same ▸ alive)) foreign
  | lost starts =>
    rw [starts]
    exact fun mine => foreign (List.mem_filter.mp mine).1
  | cleared starts =>
    rw [starts]
    exact List.not_mem_nil

theorem only (changed : Changed change) (own : List Nat) (alive : address ∈ change all) :
    address ∈ change own ∨ address ∉ own ∧ address ∈ all := by
  by_cases mine : address ∈ own
  · left
    cases changed with
    | same starts => rwa [starts]
    | gained starts =>
      rw [starts]
      exact List.mem_cons_of_mem _ mine
    | lost starts =>
      rw [starts] at alive ⊢
      exact List.mem_filter.mpr ⟨mine, (List.mem_filter.mp alive).2⟩
    | cleared starts =>
      rw [starts] at alive
      cases alive
  · cases changed with
    | same starts => exact .inr ⟨mine, starts all ▸ alive⟩
    | gained starts =>
      rw [starts] at alive ⊢
      rcases List.mem_cons.mp alive with rfl | old
      · exact .inl (List.mem_cons_self ..)
      · exact .inr ⟨mine, old⟩
    | lost starts =>
      rw [starts] at alive
      exact .inr ⟨mine, (List.mem_filter.mp alive).1⟩
    | cleared starts =>
      rw [starts] at alive
      cases alive

end Changed
end Call

/-- One party's turn. Before it owned the blocks that start at `own`, after it those at `own'`. Whatever
the others hold stays with them as it is, and the live blocks are theirs and those the party owns. -/
structure Turn (own own' : List Nat) (before after : Stack Object) : Prop where
  sound : Sound after
  align : after.align = before.align
  kept : ∀ address size, address ∉ own → Holds before address size → Keeps before after address size
  fresh : ∀ address, address ∉ own → before.Live address → address ∉ own'
  live : ∀ address ∈ own', after.Live address
  only : ∀ address, after.Live address → address ∈ own' ∨ address ∉ own ∧ before.Live address

namespace Turn
variable {own own' own'' : List Nat}

theorem refl (sound : Sound stack) (live : ∀ address ∈ own, stack.Live address) :
    Turn own own stack stack := by
  refine ⟨sound, rfl, fun _ _ _ held => ⟨held, fun _ _ => rfl⟩, fun _ foreign _ => foreign, live, ?_⟩
  intro address alive
  by_cases mine : address ∈ own
  · exact .inl mine
  · exact .inr ⟨mine, alive⟩

theorem trans (turn : Turn own own' before middle) (next : Turn own' own'' middle after) :
    Turn own own'' before after := by
  refine ⟨next.sound, next.align.trans turn.align, ?_, ?_, next.live, ?_⟩
  · intro address size foreign held
    have kept := turn.kept address size foreign held
    exact kept.trans (next.kept address size (turn.fresh address foreign (live_of_holds held))
      kept.holds)
  · intro address foreign alive
    exact next.fresh address (turn.fresh address foreign alive)
      (turn.kept address 0 foreign alive).holds
  · intro address alive
    rcases next.only address alive with mine | ⟨foreign, alive'⟩
    · exact .inl mine
    · exact .inr ((turn.only address alive').resolve_left foreign)

end Turn

namespace Session
variable {session : Session Object} {own : List Nat}

private theorem map_start_perform (session : Session Object) (call : Call Object) :
    (session.perform call).blocks.map Extent.start =
      call.starts (session.answer call) (session.blocks.map Extent.start) := by
  rw [perform, hold]
  cases session.answer call with
  | ok answer => exact Call.map_start_ledger call answer session.blocks
  | error fault => exact (Call.starts_of_error call fault _).symm

namespace Valid

/-- A call that addresses none of the others' blocks and writes to none of them is a turn. All blocks are
given back at once only by a party that owns them all. -/
theorem turn_of_call (valid : session.Valid) (live : ∀ address ∈ own, session.stack.Live address)
    (call : Call Object) (bulk : call.IsBulk → ∀ address, session.stack.Live address → address ∈ own)
    (aside : ∀ address, session.stack.Live address → call.Addresses address → address ∈ own)
    (confined : ∀ address, call.Targets address →
      ∃ block ∈ session.blocks, block.start ∈ own ∧ block.Covers address) :
    Turn own (call.starts (session.answer call) own) session.stack (session.perform call).stack := by
  have transition := valid.transition call
  have valid' : (session.perform call).Valid := valid.perform fun address target =>
    (confined address target).imp fun block ⟨alive, _, covers⟩ => ⟨alive, covers⟩
  have before : ∀ address ∈ own, address ∈ session.blocks.map Extent.start := fun address mine =>
    valid.live_iff.mp (live address mine)
  have after : ∀ address, (session.perform call).stack.Live address ↔
      address ∈ call.starts (session.answer call) (session.blocks.map Extent.start) := fun address => by
    rw [valid'.live_iff, map_start_perform]
  have changed := call.changed_starts (session.answer call)
  have distinct := valid'.chain.starts_nodup
  rw [map_start_perform] at distinct
  refine ⟨valid'.sound, congrArg StackShape.align transition.shape, ?_, ?_, ?_, ?_⟩
  · intro address size foreign held
    have alive := live_of_holds held
    obtain ⟨block, live', rfl, fits⟩ := valid.holds_iff.mp held
    obtain ⟨still, agree⟩ := transition.keeps valid (fun all => foreign (bulk all _ alive)) live'
      (fun addressed => foreign (aside _ alive addressed))
    -- A byte of the block that is written to would also lie in one of the party's own.
    refine valid'.keeps still (fun byte covers => agree byte covers fun target => ?_) fits
    obtain ⟨other, alive', mine, covers'⟩ := confined byte target
    exact foreign (valid.chain.eq_of_covers live' alive' covers covers' ▸ mine)
  · intro address foreign alive
    exact changed.fresh distinct foreign (valid.live_iff.mp alive)
  · intro address mine
    exact (after address).mpr (changed.subset before mine)
  · intro address alive
    rcases changed.only own ((after address).mp alive) with mine | ⟨foreign, lived⟩
    · exact .inl mine
    · exact .inr ⟨foreign, valid.live_iff.mpr lived⟩

theorem turn_of_memory (valid : session.Valid) (live : ∀ address ∈ own, session.stack.Live address)
    {memory' : Memory Object}
    (agree : ∀ address, (∀ block ∈ session.blocks, block.start ∈ own → ¬ block.Covers address) →
      memory'.load address = session.stack.memory.load address) :
    Turn own own session.stack { session.stack with memory := memory' } := by
  have valid' : Valid ⟨{ session.stack with memory := memory' }, session.blocks⟩ := by
    refine ⟨valid.chain.transport rfl fun block alive address heads => agree address ?_, valid.inside⟩
    exact fun other live' _ covers => valid.chain.not_heads_of_covers live' alive covers heads
  have same : ∀ address, Live { session.stack with memory := memory' } address ↔
      session.stack.Live address := fun _ => valid'.live_iff.trans valid.live_iff.symm
  refine ⟨valid'.sound, rfl, ?_, fun _ foreign _ => foreign,
    fun address mine => (same address).mpr (live address mine), ?_⟩
  · intro address size foreign held
    obtain ⟨block, alive, rfl, fits⟩ := valid.holds_iff.mp held
    refine valid'.keeps alive (fun byte covers => agree byte ?_) fits
    intro other live' mine covers'
    exact foreign (valid.chain.eq_of_covers alive live' covers covers' ▸ mine)
  · intro address alive
    by_cases mine : address ∈ own
    · exact .inl mine
    · exact .inr ⟨mine, (same address).mp alive⟩

theorem resizeMisuse?_of_below (valid : session.Valid) {address newSize oldSize : Nat}
    (alive : session.stack.Live address) (below : address ≠ session.stack.top)
    (grows : oldSize < newSize) :
    session.stack.resizeMisuse? address newSize oldSize =
      some (.growBelowTop address oldSize newSize) := by
  obtain ⟨block, live, rfl, _⟩ := valid.holds_iff.mp alive
  obtain ⟨room, order, under, within, _⟩ := valid.chain.bounds live
  have inside := valid.inside
  have low : block.start ≤ session.stack.top := under
  have high : block.stop ≤ session.stack.used := within
  have found : session.stack.offsetOf? block.start = some block.start :=
    offsetOf?_eq_some_iff.mpr ⟨rfl, by omega⟩
  rw [resizeMisuse?, found]
  dsimp only
  rw [if_neg fun top => below top.2, if_neg (by omega), if_pos grows]

theorem turn_of_release (valid : session.Valid) {address : Nat} (alive : session.stack.Live address)
    (top : session.stack.top = address) :
    Turn [address] [] session.stack
      ((Allocator.release (some address)).run session.stack).state := by
  subst top
  obtain ⟨block, live, start, _⟩ := valid.holds_iff.mp alive
  have held := (valid.chain.bounds live).1
  simp only [headerSize] at held
  have released : (Call.release (some session.stack.top) : Call Object).released? =
    some session.stack.top := rfl
  have ran := Call.run_of_release valid.ordered valid.backed (by omega) released
  have state := (run_operation session
    (show (Call.release (some session.stack.top)).operation =
      (fun _ => none) <$> Allocator.release (some session.stack.top) from rfl)).1
  have turn := valid.turn_of_call (fun other mine => List.mem_singleton.mp mine ▸ alive)
    (.release (some session.stack.top)) (fun bulk => bulk.elim)
    (fun other _ addressed => List.mem_singleton.mpr (Eq.symm addressed)) fun _ target => target.elim
  have gone : (Call.release (some session.stack.top) : Call Object).starts (.ok none)
      [session.stack.top] = [] := by simp [Call.starts]
  rw [Session.answer, ran, gone, ← state] at turn
  exact turn

end Valid
end Session
end Allotment.Stack
