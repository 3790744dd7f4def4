import Allotment.Proofs.Stack.Replacement

namespace Allotment

/-- All events that were counted. -/
def Counters.events (counters : Counters) : Nat :=
  counters.allocations + counters.deallocations + counters.reallocations + counters.failures

namespace Stack
variable {Object : Type} {stack : Stack Object}

section Counted
variable (tracks : stack.config.trackStats = true)
include tracks

private theorem counters_failed : stack.failed.counters = stack.counters.recordFailure :=
  counters_counted tracks _

private theorem counters_pushed (offset stop : Nat) :
    (stack.pushed offset stop).counters = stack.counters.recordAllocation stop := by
  rw [pushed, counters_counted (by simpa using tracks), counters_withOffsets, counters_withFilled,
    counters_withHeader]

private theorem counters_acquired (call : Call Object) (block : Extent) :
    (call.acquired stack block).counters = stack.counters.recordAllocation block.stop := by
  obtain ⟨memory, same, _⟩ := call.acquired_eq stack block
  rw [same]
  exact counters_pushed tracks ..

private theorem counters_popped (offset : Nat) :
    (stack.popped offset).counters = stack.counters.recordDeallocation := by
  rw [popped, counters_counted (by simpa using tracks), counters_withOffsets, counters_withFilled]

private theorem counters_resized (stop : Nat) :
    (stack.resized stop).counters = stack.counters.recordReallocation stop := by
  rw [resized, counters_counted (by simpa using tracks), counters_withOffsets, counters_refilled]

end Counted

namespace Call
variable {call : Call Object}

private theorem single_of_request {size : Nat} (requested : call.request? = some size) : ¬ call.IsBulk := by
  rcases request_cases requested with rfl | rfl | ⟨_, rfl⟩ <;> exact id

private theorem single_of_released {address : Nat} (released : call.released? = some address) :
    ¬ call.IsBulk := by
  rcases release_cases released with rfl | ⟨_, rfl⟩ <;> exact id

end Call

namespace Session
variable {session : Session Object} {call : Call Object}

/-- What becomes of the live blocks and of the counters. -/
inductive Tally (before : Session Object) (call : Call Object) (after : Session Object) : Prop where
  | acquired {size : Nat} {block : Extent} (requested : call.request? = some size)
      (blocks : after.blocks = block :: before.blocks)
      (counters : after.stack.counters = before.stack.counters.recordAllocation block.stop)
  | released {block : Extent} (released : call.released? = some block.start)
      (blocks : before.blocks = block :: after.blocks)
      (counters : after.stack.counters = before.stack.counters.recordDeallocation)
  | resized {block : Extent} {rest : List Extent} {newSize oldSize : Nat}
      (called : call = .resize (some block.start) newSize oldSize) (asked : newSize ≠ 0)
      (live : before.blocks = block :: rest)
      (blocks : after.blocks = ⟨block.start, block.start + newSize⟩ :: rest)
      (counters : after.stack.counters =
        before.stack.counters.recordReallocation (block.start + newSize))
  /-- There was too little room. -/
  | failed {requested : Nat} (exhausted : before.Exhausted call requested)
      (blocks : after.blocks = before.blocks)
      (counters : after.stack.counters = before.stack.counters.recordFailure)
  | idle (single : ¬ call.IsBulk) (blocks : after.blocks = before.blocks)
      (counters : after.stack.counters = before.stack.counters)
  /-- All blocks were given back, and nothing was counted. -/
  | cleared (called : call = .releaseAll) (blocks : after.blocks = [])
      (counters : after.stack.counters = before.stack.counters)
  | reset (called : call = .reset) (blocks : after.blocks = [])
      (counters : after.stack.counters = .zero)
  | forgotten (called : call = .resetStatistics) (blocks : after.blocks = before.blocks)
      (counters : after.stack.counters = .zero)

namespace Valid
variable (valid : session.Valid) (tracks : session.stack.config.trackStats = true)
include valid tracks

theorem tally_of_request {size : Nat} (requested : call.request? = some size) :
    Tally session call (session.perform call) := by
  obtain ⟨place, _, isPlace⟩ := exists_isPlace valid.inside
  by_cases fits : place + size ≤ session.stack.capacity
  · obtain ⟨_, performed⟩ := valid.granted isPlace requested fits
    rw [performed]
    exact .acquired requested rfl (counters_acquired tracks call _)
  · obtain ⟨exhausted, performed⟩ := valid.refused isPlace requested (Nat.lt_of_not_le fits)
    rw [performed]
    exact .failed exhausted rfl (counters_failed tracks)

theorem tally_of_release {address : Nat} (released : call.released? = some address) :
    Tally session call (session.perform call) := by
  cases found : session.stack.releaseMisuse? address with
  | some misuse =>
    rw [perform_of_error (Call.run_of_release_misuse released found)]
    exact .idle (Call.single_of_released released) rfl rfl
  | none =>
    obtain ⟨live, rfl⟩ := (releaseMisuse?_eq_none_iff valid.ordered).mp found
    obtain ⟨rest, blocks⟩ := valid.top_block live
    rw [valid.perform_release blocks released]
    exact .released released blocks (counters_popped tracks _)

theorem tally_of_resize {address newSize : Nat} (oldSize : Nat) (asked : newSize ≠ 0) :
    Tally session (.resize (some address) newSize oldSize)
      (session.perform (.resize (some address) newSize oldSize)) := by
  cases found : session.stack.resizeMisuse? address newSize oldSize with
  | some misuse =>
    have ran : (Call.resize (some address) newSize oldSize).operation.run session.stack = _ :=
      run_resize_of_misuse asked found
    rw [perform_of_error ran]
    exact .idle id rfl rfl
  | none =>
    obtain ⟨live, place⟩ := (resizeMisuse?_eq_none_iff valid.ordered).mp found
    obtain ⟨rest, blocks⟩ := valid.top_block live
    rcases place with rfl | ⟨lower, shrinks⟩
    · by_cases fits : session.stack.top + newSize ≤ session.stack.capacity
      · obtain ⟨_, performed⟩ := valid.resized_top blocks oldSize asked fits
        rw [performed]
        exact .resized rfl asked blocks rfl (counters_resized tracks _)
      · obtain ⟨exhausted, performed⟩ :=
          valid.resized_full blocks oldSize asked (Nat.lt_of_not_le fits)
        rw [performed]
        exact .failed exhausted rfl (counters_failed tracks)
    · have ran : (Call.resize (some address) newSize oldSize).operation.run session.stack = _ :=
        run_resize_of_lower valid.ordered asked lower shrinks
      rw [perform_of_ok ran]
      refine .idle id ?_ rfl
      rw [Call.ledger, blocks, Call.moveEnd, if_neg (Nat.ne_of_gt lower)]

/-- What one call does to the live blocks and the counters, where operations are counted. -/
theorem tally (call : Call Object) : Tally session call (session.perform call) := by
  cases call with
  | allocate size => exact valid.tally_of_request tracks rfl
  | allocateZeroed size => exact valid.tally_of_request tracks rfl
  | resize target newSize oldSize =>
    cases target with
    | none => exact valid.tally_of_request tracks rfl
    | some address =>
      cases newSize with
      | zero => exact valid.tally_of_release tracks rfl
      | succ size => exact valid.tally_of_resize tracks oldSize (Nat.succ_ne_zero size)
  | release target =>
    cases target with
    | none => exact .idle id rfl rfl
    | some address => exact valid.tally_of_release tracks rfl
  | releaseAll =>
    refine .cleared rfl (valid.blocks_of_bulk trivial) ?_
    rw [(valid.carriesOut .releaseAll).stack]
    exact counters_cleared _
  | reset =>
    refine .reset rfl (valid.blocks_of_bulk trivial) ?_
    rw [(valid.carriesOut .reset).stack]
    exact counters_counted (by rw [config_cleared]; exact tracks) _
  | resetStatistics => exact .forgotten rfl rfl rfl
  | write start cells => exact .idle id rfl rfl

end Valid

/-- Of the blocks that were given back all at once and not counted, how many there are after a call. A
reset begins to count anew. -/
def discard (session : Session Object) (call : Call Object) (count : Nat) : Nat :=
  match call with
  | .releaseAll => count + session.blocks.length
  | .reset => 0
  | _ => count

/-- How many blocks calls gave back all at once since the last reset, in addition to `count`. -/
def discarded : Session Object → List (Call Object) → Nat → Nat
  | _, [], count => count
  | session, call :: rest, count => (session.perform call).discarded rest (session.discard call count)

theorem discard_of_single (single : ¬ call.IsBulk) (session : Session Object) (count : Nat) :
    session.discard call count = count := by
  cases call with
  | releaseAll => exact (single trivial).elim
  | reset => exact (single trivial).elim
  | _ => rfl

private theorem discarded_eq_zero {calls : List (Call Object)} (kept : Call.releaseAll ∉ calls)
    (session : Session Object) : session.discarded calls 0 = 0 := by
  induction calls generalizing session with
  | nil => rfl
  | cons call rest ih =>
    have none : session.discard call 0 = 0 := by
      cases call with
      | releaseAll => exact (kept (List.mem_cons_self ..)).elim
      | _ => rfl
    rw [discarded, none]
    exact ih (fun later => kept (List.mem_cons_of_mem _ later)) _

/-- What was counted as acquired and not as given back is live, or was given back all at once. -/
def Balanced (session : Session Object) (count : Nat) : Prop :=
  session.stack.counters.allocations =
    session.stack.counters.deallocations + (session.blocks.length + count)

theorem Exhausted.single {requested : Nat} (exhausted : session.Exhausted call requested)
    (valid : session.Valid) : ¬ call.IsBulk := by
  intro bulk
  cases (valid.answer_of_bulk bulk).symm.trans exhausted

namespace Tally
variable {after : Session Object} (tally : Tally session call after)
include tally

/-- Only the counters can be forgotten while blocks are live. -/
theorem balanced {count : Nat} (valid : session.Valid) (kept : call ≠ .resetStatistics)
    (balanced : session.Balanced count) : after.Balanced (session.discard call count) := by
  unfold Balanced at balanced ⊢
  cases tally with
  | acquired requested blocks counters =>
    rw [discard_of_single (Call.single_of_request requested), blocks, counters, List.length_cons]
    simp only [Counters.recordAllocation]
    omega
  | released released blocks counters =>
    rw [blocks, List.length_cons] at balanced
    rw [discard_of_single (Call.single_of_released released), counters]
    simp only [Counters.recordDeallocation]
    omega
  | resized called _ live blocks counters =>
    have single : ¬ call.IsBulk := by rw [called]; exact id
    rw [live, List.length_cons] at balanced
    rw [discard_of_single single, blocks, counters, List.length_cons]
    exact balanced
  | failed exhausted blocks counters =>
    rw [discard_of_single (exhausted.single valid), blocks, counters]
    exact balanced
  | idle single blocks counters =>
    rw [discard_of_single single, blocks, counters]
    exact balanced
  | cleared called blocks counters =>
    -- nothing was counted: what was live is now among the blocks given back all at once
    rw [called, discard, blocks, counters, List.length_nil]
    omega
  | reset called blocks counters =>
    rw [called, discard, blocks, counters]
    rfl
  | forgotten called => exact absurd called kept

/-- A call counts at most one event. -/
private theorem events_le : after.stack.counters.events ≤ session.stack.counters.events + 1 := by
  cases tally with
  | acquired _ _ counters =>
    rw [counters]
    simp only [Counters.events, Counters.recordAllocation]
    omega
  | released _ _ counters =>
    rw [counters]
    simp only [Counters.events, Counters.recordDeallocation]
    omega
  | resized _ _ _ _ counters =>
    rw [counters]
    simp only [Counters.events, Counters.recordReallocation]
    omega
  | failed _ _ counters =>
    rw [counters]
    simp only [Counters.events, Counters.recordFailure]
    omega
  | idle _ _ counters => rw [counters]; exact Nat.le_succ _
  | cleared _ _ counters => rw [counters]; exact Nat.le_succ _
  | reset _ _ counters => rw [counters]; exact Nat.zero_le _
  | forgotten _ _ counters => rw [counters]; exact Nat.zero_le _

end Tally

/-- A balance is kept along calls, up to the blocks that they give back all at once. -/
theorem Balanced.after {calls : List (Call Object)} {count : Nat} (balanced : session.Balanced count)
    (valid : session.Valid) (tracks : session.stack.config.trackStats = true)
    (permitted : session.Permits calls) (kept : Call.resetStatistics ∉ calls) :
    (session.after calls).Balanced (session.discarded calls count) ∧
      (session.after calls).stack.counters.events ≤
        session.stack.counters.events + calls.length := by
  induction calls generalizing session count with
  | nil => exact ⟨balanced, Nat.le_refl _⟩
  | cons call rest ih =>
    have tally := valid.tally tracks call
    have first : call ≠ .resetStatistics := fun same => kept (same ▸ List.mem_cons_self ..)
    obtain ⟨last, events⟩ := ih (tally.balanced valid first balanced) (valid.perform permitted.1)
      (by rw [(valid.transition call).config]; exact tracks) permitted.2
      fun later => kept (List.mem_cons_of_mem _ later)
    refine ⟨last, Nat.le_trans events ?_⟩
    have counted := tally.events_le
    rw [List.length_cons]
    omega

/-- After calls that do not forget the counts alone the report counts the live blocks, and all those that were
given back all at once since the last reset. -/
theorem live_count {capacity align : Nat} {config : StackConfig} {stack : Stack Object}
    {done : List (Effect Object)}
    (built : (Stack.create capacity align config).run () = ⟨.ok stack, (), done⟩)
    (tracks : config.trackStats = true) {calls : List (Call Object)}
    (permitted : Permits ⟨stack, []⟩ calls) (kept : Call.resetStatistics ∉ calls) :
    (after ⟨stack, []⟩ calls).stack.statistics.live =
        (after ⟨stack, []⟩ calls).blocks.length + discarded ⟨stack, []⟩ calls 0 ∧
      (Call.releaseAll ∉ calls → (after ⟨stack, []⟩ calls).stack.statistics.live =
        (after ⟨stack, []⟩ calls).blocks.length) ∧
      (after ⟨stack, []⟩ calls).stack.counters.events ≤ calls.length := by
  obtain ⟨shape, rfl⟩ := eq_empty_of_create built
  have begun : Balanced ⟨(empty shape config : Stack Object), []⟩ 0 := rfl
  obtain ⟨balanced, events⟩ := begun.after (.of_empty shape config) tracks permitted kept
  have live : (after ⟨empty shape config, []⟩ calls).stack.statistics.live =
      (after ⟨empty shape config, []⟩ calls).blocks.length +
        discarded ⟨empty shape config, []⟩ calls 0 := Nat.sub_eq_of_eq_add' balanced
  refine ⟨live, fun single => ?_, Nat.le_trans events (Nat.le_of_eq (Nat.zero_add _))⟩
  rw [live, discarded_eq_zero single, Nat.add_zero]

/-- Two blocks are given back at once and a third is acquired: one block is live, and three are reported.
-/
theorem live_count_of_acquired_again :
    ∃ session : Session Unit, session.blocks = [⟨8, 12⟩] ∧ session.stack.statistics.live = 1 + 2 ∧
      session.stack.counters.events ≤ 4 := by
  have built : (Stack.create 64 8 .debug : Step Unit Unit (Stack Unit)).run () =
      ⟨.ok (.empty ⟨64, 8, rfl, by decide, by decide, rfl, by decide⟩ .debug), (),
        [.logged (.stackCreated 64 8 .debug)]⟩ := rfl
  have permitted : Permits ⟨.empty ⟨64, 8, rfl, by decide, by decide, rfl, by decide⟩ .debug, []⟩
      ([.allocate 8, .allocate 0, .releaseAll, .allocate 4] : List (Call Unit)) :=
    ⟨fun _ target => target.elim, fun _ target => target.elim, fun _ target => target.elim,
      fun _ target => target.elim, trivial⟩
  obtain ⟨live, _, events⟩ := live_count built rfl permitted (by simp)
  exact ⟨_, rfl, live, events⟩

/-- The report does not always say how many blocks are live: two are reported where both were given back
all at once. -/
theorem live_count_not_exact :
    ¬ ∀ (capacity align : Nat) (config : StackConfig) (stack : Stack Unit) (done : List (Effect Unit)),
      (Stack.create capacity align config).run () = ⟨.ok stack, (), done⟩ →
      config.trackStats = true → ∀ calls : List (Call Unit), calls.length < 2 ^ (64 : Nat) →
        Permits ⟨stack, []⟩ calls → Call.resetStatistics ∉ calls →
          (after ⟨stack, []⟩ calls).stack.statistics.live =
            (after ⟨stack, []⟩ calls).blocks.length := by
  intro truthful
  have live := truthful 64 8 .debug
    (.empty ⟨64, 8, rfl, by decide, by decide, rfl, by decide⟩ .debug) _ rfl rfl
    [.allocate 8, .allocate 0, .releaseAll] (by decide)
    ⟨fun _ target => target.elim, fun _ target => target.elim, fun _ target => target.elim, trivial⟩
    (by simp)
  cases live

end Session
end Stack
end Allotment
