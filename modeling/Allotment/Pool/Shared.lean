import Allotment.Pool.Basic

/-! Pools with several owners. All handles lead to the same pool; the pool is torn down with its
last handle. -/
namespace Allotment

/-- A pool and the number of handles on it. -/
structure SharedPool (T : Type) where
  pool : Pool T
  handles : Nat

namespace SharedPool
variable {Object σ T α : Type} [Allocator Object σ] [Element Object T]

def ofPool (pool : Pool T) : SharedPool T := ⟨pool, 1⟩

/-- Runs an operation of the pool, whichever handle it came through. -/
def onPool (operation : Step Object (Pool T × σ) α) : Step Object (SharedPool T × σ) α :=
  Step.within (fun state => (state.1.pool, state.2))
    (fun state inner => ({ state.1 with pool := inner.1 }, inner.2)) operation

def clone : Step Object (SharedPool T × σ) Unit :=
  Step.modify fun state => ({ state.1 with handles := state.1.handles + 1 }, state.2)

/-- One handle less; the pool goes with the last one. -/
def drop : Step Object (SharedPool T × σ) Unit := do
  let (shared, host) ← Step.get
  Step.set ({ shared with handles := shared.handles - 1 }, host)
  if shared.handles = 1 then onPool Pool.dispose

/-- Destroys the pool if there is one handle and answers how many values were leaked; otherwise
nothing happens. -/
def destroy : Step Object (SharedPool T × σ) (Option Nat) := do
  let (shared, host) ← Step.get
  if shared.handles = 1 then
    Step.set ({ shared with handles := 0 }, host)
    some <$> onPool Pool.destroy
  else pure none

section Runs
variable {shared : SharedPool T} {host : σ}

theorem run_drop_of_several (several : shared.handles ≠ 1) :
    drop.run (shared, host) = ⟨.ok (), ({ shared with handles := shared.handles - 1 }, host), []⟩ := by
  rw [drop, Step.run_bind_of_quiet (Step.run_get _)]
  dsimp only
  rw [Step.run_bind_of_quiet (Step.run_set _ _), if_neg several]
  rfl

theorem run_drop_of_last (last : shared.handles = 1) :
    drop.run (shared, host) =
      (Pool.dispose.run (shared.pool, host)).mapState fun inner => (⟨inner.1, 0⟩, inner.2) := by
  rw [drop, Step.run_bind_of_quiet (Step.run_get _)]
  dsimp only
  rw [Step.run_bind_of_quiet (Step.run_set _ _), if_pos last, last]
  rfl

theorem run_destroy_of_several (several : shared.handles ≠ 1) :
    destroy.run (shared, host) = ⟨.ok none, (shared, host), []⟩ := by
  rw [destroy, Step.run_bind_of_quiet (Step.run_get _)]
  dsimp only
  rw [if_neg several]
  rfl

theorem run_destroy_of_last (last : shared.handles = 1) :
    destroy.run (shared, host) =
      ((some <$> Pool.destroy).run (shared.pool, host)).mapState
        fun inner => (⟨inner.1, 0⟩, inner.2) := by
  rw [destroy, Step.run_bind_of_quiet (Step.run_get _)]
  dsimp only
  rw [if_pos last, Step.run_bind_of_quiet (Step.run_set _ _), Step.run_map, Step.run_map]
  rfl

end Runs

def text (shared : SharedPool T) : String :=
  Text.record "SharedPool" [("handles", toString shared.handles)] true

end SharedPool
end Allotment
