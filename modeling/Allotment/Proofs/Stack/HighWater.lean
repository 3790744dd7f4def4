import Mathlib.Order.Bounds.Basic
import Mathlib.Data.Set.Insert
import Allotment.Proofs.Stack.Counting

namespace Allotment.Stack
variable {Object : Type}

/-- The counts are forgotten. -/
def Call.forgets : Call Object → Bool
  | reset | resetStatistics => true
  | _ => false

/-- The uses of a stack since its counts were last forgotten: the one it had then, and the one after each
later call, the last call first. -/
structure Epoch where
  first : Nat
  later : List Nat

namespace Epoch
variable {epoch : Epoch}

def uses (epoch : Epoch) : List Nat := epoch.later ++ [epoch.first]

def highest (epoch : Epoch) : Nat := epoch.later.foldr max epoch.first

private theorem isGreatest_highest (epoch : Epoch) : IsGreatest {used | used ∈ epoch.uses} epoch.highest := by
  obtain ⟨first, later⟩ := epoch
  induction later with
  | nil => simp [uses, highest]
  | cons used later ih =>
    have more : {other | other ∈ (⟨first, used :: later⟩ : Epoch).uses} =
        insert used {other | other ∈ (⟨first, later⟩ : Epoch).uses} := by
      ext other
      simp [uses]
    rw [more]
    exact ih.insert used

end Epoch

namespace Session
variable {session other : Session Object} {call : Call Object}

/-- The uses that are remembered after a call. -/
def note (session : Session Object) (call : Call Object) (epoch : Epoch) : Epoch :=
  match call.forgets with
  | true => ⟨(session.perform call).stack.used, []⟩
  | false => { epoch with later := (session.perform call).stack.used :: epoch.later }

def noteAll : Session Object → List (Call Object) → Epoch → Epoch
  | _, [], epoch => epoch
  | session, call :: rest, epoch => (session.perform call).noteAll rest (session.note call epoch)

/-- The uses that are remembered after calls, on a stack whose counts start with them. -/
def epoch (session : Session Object) (calls : List (Call Object)) : Epoch :=
  session.noteAll calls ⟨session.stack.used, []⟩

private theorem noteAll_append (session : Session Object) (calls more : List (Call Object)) (epoch : Epoch) :
    session.noteAll (calls ++ more) epoch =
      (session.after calls).noteAll more (session.noteAll calls epoch) := by
  induction calls generalizing session epoch with
  | nil => rfl
  | cons call rest ih => exact ih _ _

theorem note_of_kept (kept : call.forgets = false) (session : Session Object) (epoch : Epoch) :
    session.note call epoch =
      { epoch with later := (session.perform call).stack.used :: epoch.later } := by
  rw [note, kept]

/-- While nothing is forgotten the first use stays, and the highest never falls. -/
private theorem noteAll_of_kept {calls : List (Call Object)} (kept : ∀ call ∈ calls, call.forgets = false)
    (session : Session Object) (epoch : Epoch) :
    (session.noteAll calls epoch).first = epoch.first ∧
      epoch.highest ≤ (session.noteAll calls epoch).highest := by
  induction calls generalizing session epoch with
  | nil => exact ⟨rfl, le_refl _⟩
  | cons call rest ih =>
    have step := note_of_kept (kept call (List.mem_cons_self ..)) session epoch
    obtain ⟨first, highest⟩ := ih (fun later member => kept later (List.mem_cons_of_mem _ member))
      (session.perform call) (session.note call epoch)
    rw [noteAll]
    constructor
    · rw [first, step]
    · refine le_trans ?_ highest
      rw [step]
      exact le_max_right ..

private theorem Valid.used_eq (valid : session.Valid) (second : other.Valid)
    (same : other.blocks = session.blocks) : other.stack.used = session.stack.used := by
  have chain := second.chain
  rw [same] at chain
  exact congrArg Header.used (chain.unique valid.chain)

theorem Valid.used_eq_zero (valid : session.Valid) (none : session.blocks = []) :
    session.stack.used = 0 := by
  have chain := valid.chain
  rw [none] at chain
  have bare : Chain session.stack [] ⟨0, 0⟩ := .nil
  exact congrArg Header.used (chain.unique bare)

private theorem Valid.used_le_of_released (valid : session.Valid) (second : other.Valid) {block : Extent}
    (released : session.blocks = block :: other.blocks) : other.stack.used ≤ session.stack.used := by
  cases same : other.blocks with
  | nil =>
    rw [second.used_eq_zero same]
    exact Nat.zero_le _
  | cons lower rest =>
    obtain ⟨_, stop, _⟩ := second.top_offsets same
    have member : lower ∈ session.blocks := by simp [released, same]
    rw [stop]
    exact (valid.chain.bounds member).2.2.2.1

/-- Where nothing is forgotten, either the mark stays and the use does not grow, or the mark covers the
use. -/
theorem Tally.mark (tally : Tally session call other) (valid : session.Valid) (second : other.Valid)
    (kept : call.forgets = false) :
    (other.stack.counters.peak = session.stack.counters.peak ∧
        other.stack.used ≤ session.stack.used) ∨
      other.stack.counters.peak = max session.stack.counters.peak other.stack.used := by
  cases tally with
  | acquired requested blocks counters =>
    obtain ⟨_, stop, _⟩ := second.top_offsets blocks
    rw [counters, stop]
    exact .inr rfl
  | released released blocks counters =>
    rw [counters]
    exact .inl ⟨rfl, valid.used_le_of_released second blocks⟩
  | resized called asked live blocks counters =>
    obtain ⟨_, stop, _⟩ := second.top_offsets blocks
    rw [counters, stop]
    exact .inr rfl
  | failed exhausted blocks counters =>
    rw [counters]
    exact .inl ⟨rfl, le_of_eq (valid.used_eq second blocks)⟩
  | idle single blocks counters =>
    rw [counters]
    exact .inl ⟨rfl, le_of_eq (valid.used_eq second blocks)⟩
  | cleared called blocks counters =>
    rw [counters, second.used_eq_zero blocks]
    exact .inl ⟨rfl, Nat.zero_le _⟩
  | reset called => rw [called] at kept; cases kept
  | forgotten called => rw [called] at kept; cases kept

/-- The highest use is the one that the counts began with or the mark, and the present one is no higher. -/
structure Marked (session : Session Object) (epoch : Epoch) : Prop where
  highest : epoch.highest = max epoch.first session.stack.counters.peak
  current : session.stack.used ≤ epoch.highest

section Tracked
variable (valid : session.Valid) (tracks : session.stack.config.trackStats = true)
include valid tracks

private theorem Valid.counters_of_forgets (forgets : call.forgets = true) :
    (session.perform call).stack.counters = .zero := by
  cases call with
  | reset =>
    rw [(valid.carriesOut .reset).stack]
    exact counters_counted (by rw [config_cleared]; exact tracks) _
  | resetStatistics => rfl
  | _ => cases forgets

theorem Marked.perform {epoch : Epoch} (marked : session.Marked epoch)
    (confined : call.Confined session.blocks) :
    (session.perform call).Marked (session.note call epoch) := by
  cases forgets : call.forgets with
  | true =>
    rw [note, forgets]
    refine ⟨?_, le_refl _⟩
    rw [valid.counters_of_forgets tracks forgets]
    exact (Nat.max_zero _).symm
  | false =>
    have mark := (valid.tally tracks call).mark valid (valid.perform confined) forgets
    have known := marked.highest
    have current := marked.current
    rw [note_of_kept forgets]
    constructor
    · change max _ epoch.highest = max epoch.first _
      omega
    · exact le_max_left ..

theorem Marked.after {calls : List (Call Object)} {epoch : Epoch} (marked : session.Marked epoch)
    (permitted : session.Permits calls) :
    (session.after calls).Marked (session.noteAll calls epoch) := by
  induction calls generalizing session epoch with
  | nil => exact marked
  | cons call rest ih =>
    exact ih (valid.perform permitted.1) (by rw [(valid.transition call).config]; exact tracks)
      (marked.perform valid tracks permitted.1) permitted.2

end Tracked

theorem Marked.report {epoch : Epoch} (marked : session.Marked epoch) :
    max epoch.first session.stack.statistics.peakBytes = epoch.highest := by
  have known := marked.highest
  have current := marked.current
  change max epoch.first (max session.stack.counters.peak session.stack.used) = epoch.highest
  omega

/-- The counts alone are forgotten only while no block is live. -/
def ForgetsIdle (session : Session Object) (call : Call Object) : Prop :=
  call = .resetStatistics → session.blocks = []

private theorem Valid.first_eq_zero {calls : List (Call Object)} {epoch : Epoch} (valid : session.Valid)
    (permitted : session.Permits calls) (idle : session.Follows ForgetsIdle calls)
    (none : epoch.first = 0) : (session.noteAll calls epoch).first = 0 := by
  induction calls generalizing session epoch with
  | nil => exact none
  | cons call rest ih =>
    refine ih (valid.perform permitted.1) permitted.2 idle.2 ?_
    cases forgets : call.forgets with
    | false =>
      rw [note_of_kept forgets]
      exact none
    | true =>
      rw [note, forgets]
      refine (valid.perform permitted.1).used_eq_zero ?_
      cases call with
      | reset => exact valid.blocks_of_bulk trivial
      | resetStatistics => exact idle.1 rfl
      | _ => cases forgets

/-- The highest use since the counts were last forgotten is the report, or the use that was there when they
were forgotten. It is the report where counts alone were forgotten only while no block was live. -/
theorem peak_highest {capacity align : Nat} {config : StackConfig} {stack : Stack Object}
    {done : List (Effect Object)}
    (built : (Stack.create capacity align config).run () = ⟨.ok stack, (), done⟩)
    (tracks : config.trackStats = true) {calls : List (Call Object)}
    (permitted : Permits ⟨stack, []⟩ calls) :
    IsGreatest {used | used ∈ (epoch ⟨stack, []⟩ calls).uses}
        (max (epoch ⟨stack, []⟩ calls).first
          (after ⟨stack, []⟩ calls).stack.statistics.peakBytes) ∧
      (Follows ForgetsIdle ⟨stack, []⟩ calls →
        (epoch ⟨stack, []⟩ calls).first = 0 ∧
          IsGreatest {used | used ∈ (epoch ⟨stack, []⟩ calls).uses}
            (after ⟨stack, []⟩ calls).stack.statistics.peakBytes) ∧
      ∀ more : List (Call Object), Permits ⟨stack, []⟩ (calls ++ more) →
        (∀ call ∈ more, call.forgets = false) →
          (after ⟨stack, []⟩ calls).stack.statistics.peakBytes ≤
            max (epoch ⟨stack, []⟩ calls).first
              (after ⟨stack, []⟩ (calls ++ more)).stack.statistics.peakBytes := by
  obtain ⟨shape, rfl⟩ := eq_empty_of_create built
  have begun : Valid ⟨(empty shape config : Stack Object), []⟩ := .of_empty shape config
  have unmarked : Marked ⟨(empty shape config : Stack Object), []⟩ ⟨0, []⟩ := ⟨rfl, le_refl 0⟩
  have marked := unmarked.after begun tracks permitted
  have greatest := (epoch ⟨empty shape config, []⟩ calls).isGreatest_highest
  have report := marked.report
  refine ⟨report ▸ greatest, fun idle => ?_, fun more allowed kept => ?_⟩
  · have first : (epoch ⟨(empty shape config : Stack Object), []⟩ calls).first = 0 :=
      begun.first_eq_zero permitted idle rfl
    refine ⟨first, ?_⟩
    rw [← Nat.zero_max (after _ calls).stack.statistics.peakBytes, ← first]
    exact report ▸ greatest
  · have last := (unmarked.after begun tracks allowed).report
    obtain ⟨first, rises⟩ := noteAll_of_kept kept (after ⟨empty shape config, []⟩ calls)
      (epoch ⟨empty shape config, []⟩ calls)
    rw [noteAll_append] at last
    calc (after ⟨empty shape config, []⟩ calls).stack.statistics.peakBytes
      _ ≤ (epoch ⟨empty shape config, []⟩ calls).highest := report ▸ le_max_right ..
      _ ≤ _ := rises
      _ = _ := last.symm
      _ = _ := congrArg (max · _) first

/-- The counts are forgotten while a block ends at 24. It is given back, and a smaller one acquired: the
report is 12, and the highest use since then was 24. -/
theorem peak_highest_of_forgotten_early :
    ∃ (stack : Stack Unit) (calls : List (Call Unit)),
      (epoch ⟨stack, []⟩ calls).uses = [12, 0, 24] ∧
      (after ⟨stack, []⟩ calls).stack.statistics.peakBytes = 12 ∧
      IsGreatest {used | used ∈ (epoch ⟨stack, []⟩ calls).uses}
        (max (epoch ⟨stack, []⟩ calls).first
          (after ⟨stack, []⟩ calls).stack.statistics.peakBytes) := by
  have built : (Stack.create 64 8 .debug : Step Unit Unit (Stack Unit)).run () =
      ⟨.ok (.empty ⟨64, 8, rfl, by decide, by decide, rfl, by decide⟩ .debug), (),
        [.logged (.stackCreated 64 8 .debug)]⟩ := rfl
  have permitted : Permits ⟨.empty ⟨64, 8, rfl, by decide, by decide, rfl, by decide⟩ .debug, []⟩
      ([.allocate 16, .resetStatistics, .release (some 8), .allocate 4] : List (Call Unit)) :=
    ⟨fun _ target => target.elim, fun _ target => target.elim, fun _ target => target.elim,
      fun _ target => target.elim, trivial⟩
  obtain ⟨greatest, _⟩ := peak_highest built rfl permitted
  exact ⟨_, _, by decide +kernel, by decide +kernel, greatest⟩

/-- The report is not always the highest use since the counts were last forgotten. -/
theorem peak_not_highest :
    ¬ ∀ (capacity align : Nat) (config : StackConfig) (stack : Stack Unit) (done : List (Effect Unit)),
      (Stack.create capacity align config).run () = ⟨.ok stack, (), done⟩ →
      config.trackStats = true → ∀ calls : List (Call Unit), Permits ⟨stack, []⟩ calls →
        IsGreatest {used | used ∈ (epoch ⟨stack, []⟩ calls).uses}
          (after ⟨stack, []⟩ calls).stack.statistics.peakBytes := by
  intro highest
  have greatest := highest 64 8 .debug
    (.empty ⟨64, 8, rfl, by decide, by decide, rfl, by decide⟩ .debug) _ rfl rfl
    [.allocate 16, .resetStatistics, .release (some 8)]
    ⟨fun _ target => target.elim, fun _ target => target.elim, fun _ target => target.elim, trivial⟩
  have bound : 24 ≤ 0 := greatest.2 (.tail _ (.head _))
  cases bound

end Session
end Allotment.Stack
