import Allotment.Proofs.Pool.Atomicity
import Allotment.Proofs.Stream.Frame

namespace Allotment

namespace Pool
open Allocator Custody
variable {Object σ T : Type} [Allocator Object σ] [Element Object T] [Custody σ]
  [LawfulAllocator Object σ] [SteadyAllocator Object σ] [LawfulElement Object T]

private theorem Represents.run_insert_of_error {pool : Pool T} {host : σ} {table : SlotTable T}
    (represents : pool.Represents host table) (valid : table.Valid) {value : T} {fault : Fault}
    (refused : ((Pool.insert value).run (pool, host)).result = .error fault) :
    ∃ last done, (Pool.insert value).run (pool, host) = ⟨.error fault, (pool, last), done⟩ ∧
      pool.Represents last table ∧ SteadyAllocator.Recounted host last := by
  rcases represents.insert valid value with
    ⟨_, _, _, _, _, ran, _⟩ | ⟨_, last, done, stopped, kept, none, _⟩
  · rw [ran] at refused
    cases refused
  · have head : pool.freeHead = .none := represents.freeHead_eq.trans none
    rcases pushSlot_cases represents value with ⟨fault', _, _, denied, _⟩ | ⟨_, _, _, pushed, _⟩
    · have failed : ((pushSlot value).run (pool, host)).result = .error fault' :=
        congrArg Outcome.result denied
      obtain ⟨_, _, ran, recounted, _⟩ := run_pushSlot_of_error represents.owned failed
      have same := stopped.symm.trans (run_insert_of_refused head ran)
      rw [stopped] at refused
      cases refused
      cases same
      exact ⟨_, _, stopped, kept, recounted⟩
    · rw [run_insert_of_pushed head pushed] at refused
      cases refused

end Pool

namespace StreamPool
open Allocator Custody
variable {σ : Type} [Allocator BufferedFile σ] [Custody σ]

/-- The pool, what is in its slots and the handles on it are what they were, and so is the allocator but for
what it counts. -/
structure Spared [SteadyAllocator BufferedFile σ] (before after : StreamPool σ) : Prop where
  shared : after.shared = before.shared
  slots : after.shared.pool.table (memory after.host) = before.shared.pool.table (memory before.host)
  files : ∀ id, after.file? id = before.file? id
  host : SteadyAllocator.Recounted before.host after.host

variable [LawfulAllocator BufferedFile σ] {state : StreamPool σ} {table : SlotTable BufferedFile}

private theorem Represents.register_of_error [SteadyAllocator BufferedFile σ]
    (represents : state.Represents table) (file : OpenFile) (name : String) {error : StreamError}
    (refused : ((register file name).run state).result = .ok (.error error)) :
    Spared state ((register file name).run state).state ∧
      ((register file name).run state).state.disk = state.disk := by
  rcases ran : (Pool.insert (.ofFile file name)).run (state.shared.pool, state.host) with
    ⟨fault | id, ⟨pool, host⟩, done⟩
  · obtain ⟨last, done', ran', kept, recounted⟩ :=
      represents.pool.run_insert_of_error represents.valid (congrArg Outcome.result ran)
    rw [ran] at ran'
    cases ran'
    have spared : Spared state (state.withPool state.shared.pool host) :=
      ⟨rfl, kept.table_eq.trans represents.pool.table_eq.symm,
        fun id => (kept.get? id).trans (represents.pool.get? id).symm, recounted⟩
    rw [register, Step.run_bind_of_ok (Step.run_attempt_of_run (run_onPool_of_run ran))]
    cases fault <;> exact ⟨spared, rfl⟩
  · rw [register, Step.run_bind_of_ok (Step.run_attempt_of_run (run_onPool_of_run ran))] at refused
    cases refused

/-- The state once a file was taken out of the pool and closed. -/
def taken (state : StreamPool σ) (id : ResourceId) (stream : BufferedFile) : StreamPool σ :=
  { state.freed id stream with disk := stream.closeOn state.disk }

omit [Custody σ] [LawfulAllocator BufferedFile σ] in
private theorem run_evict_of_open {id : ResourceId} {stream : BufferedFile}
    (live : state.file? id = some stream) : ((evict id).run state).state = state.taken id stream := by
  have removed := run_onPool_of_run (Pool.run_remove?_of_live live)
  rw [evict, Step.run_bind_of_ok removed]
  rfl

omit [Custody σ] [LawfulAllocator BufferedFile σ] in
private theorem run_free_of_open {id : ResourceId} {stream : BufferedFile}
    (live : state.file? id = some stream) : ((free id).run state).state = state.taken id stream := by
  have held : state.shared.pool.get? (Allocator.memory state.host) id = some stream := live
  have freed := Pool.run_remove_of_live held
  rw [Pool.run_remove?_of_live held] at freed
  rw [free, Step.run_bind_of_ok (run_onPool_of_run freed)]
  rfl

/-- A file that was taken out of the pool leaves the others where they were. -/
private theorem Represents.taken {id : ResourceId} {stream : BufferedFile}
    (represents : state.Represents table) (live : table.get? id = some stream) :
    ∃ fewer, (state.taken id stream).Represents fewer ∧
      ∀ other, other ≠ id → fewer.get? other = table.get? other := by
  have freed := represents.freed live
  refine ⟨table.removed id, ⟨freed.pool, freed.valid⟩, fun other distinct => ?_⟩
  rw [SlotTable.get?_removed live, if_neg distinct]

theorem Represents.evict (represents : state.Represents table) (id : ResourceId) :
    ∃ fewer, ((evict id).run state).state.Represents fewer ∧
      ∀ other, other ≠ id → fewer.get? other = table.get? other := by
  have found := represents.file?_eq id
  cases live : table.get? id with
  | none =>
    have nothing := run_onPool_of_run (Pool.run_remove?_of_dead (found.trans live))
    rw [StreamPool.evict, Step.run_bind_of_quiet nothing]
    exact ⟨table, represents, fun _ _ => rfl⟩
  | some stream =>
    rw [run_evict_of_open (found.trans live)]
    exact represents.taken live

theorem Represents.free (represents : state.Represents table) (id : ResourceId) :
    ∃ fewer, ((free id).run state).state.Represents fewer ∧
      ∀ other, other ≠ id → fewer.get? other = table.get? other := by
  have found := represents.file?_eq id
  cases live : table.get? id with
  | none =>
    have nothing := run_onPool_of_run (Pool.run_remove_of_dead (found.trans live))
    rw [StreamPool.free, Step.run_bind_of_error nothing]
    exact ⟨table, represents, fun _ _ => rfl⟩
  | some stream =>
    rw [run_free_of_open (found.trans live)]
    exact represents.taken live

/-- A pool of streams on any allocator, whatever was done with it. Others may change the files and use the
allocator in between. -/
inductive Reached : StreamPool σ → Prop where
  | standard {host : σ} (sound : Sound host) (disk : Disk) : Reached (.empty host disk)
  | created {host : σ} {disk : Disk} {config : PoolConfig} {state : StreamPool σ}
      {done : List (Effect BufferedFile)} (sound : Sound host)
      (built : (create config).run (.empty host disk) = ⟨.ok (), state, done⟩) : Reached state
  | called {state : StreamPool σ} {α : Type} (reached : Reached state) (call : Call α)
      (streams : List ResourceId) (permitted : call.Permitted state streams) :
      Reached (call.operation.run state).state
  | evicted {state : StreamPool σ} (reached : Reached state) (id : ResourceId) :
      Reached ((evict id).run state).state
  | freed {state : StreamPool σ} (reached : Reached state) (id : ResourceId) :
      Reached ((free id).run state).state
  | elsewhere {state : StreamPool σ} (reached : Reached state) (disk : Disk) :
      Reached { state with disk := disk }
  | disturbed {state : StreamPool σ} {host : σ} (reached : Reached state) (spared : state.SparedBy host) :
      Reached { state with host := host }

theorem Reached.represents (reached : state.Reached) : ∃ table, state.Represents table := by
  induction reached with
  | standard sound disk => exact ⟨_, represents_of_standard sound disk⟩
  | created sound built =>
    obtain ⟨table, represents, _⟩ := represents_of_create sound built
    exact ⟨table, represents⟩
  | called _ call streams permitted ih =>
    obtain ⟨table, represents⟩ := ih
    exact (transition represents permitted).represents represents
  | evicted _ id ih =>
    obtain ⟨table, represents⟩ := ih
    obtain ⟨fewer, kept, _⟩ := represents.evict id
    exact ⟨fewer, kept⟩
  | freed _ id ih =>
    obtain ⟨table, represents⟩ := ih
    obtain ⟨fewer, kept, _⟩ := represents.free id
    exact ⟨fewer, kept⟩
  | elsewhere _ disk ih =>
    obtain ⟨table, represents⟩ := ih
    exact ⟨table, represents.pool, represents.valid⟩
  | disturbed _ spared ih =>
    obtain ⟨table, represents⟩ := ih
    exact ⟨table, represents.disturbed spared⟩

/-- To open a file for which the pool has no slot, or finds no room for one, changes nothing. To open a new
one changes that file alone, which was emptied, or made, before the pool was asked. -/
theorem Reached.refusal [SteadyAllocator BufferedFile σ] (reached : state.Reached) (name : String)
    (error : MemoryError) :
    (((openExisting name).run state).result = .ok (.error (.memory error)) →
      Spared state ((openExisting name).run state).state ∧
        ((openExisting name).run state).state.disk = state.disk) ∧
    (((openNew name).run state).result = .ok (.error (.memory error)) →
      Spared state ((openNew name).run state).state ∧
        ∃ file, state.disk.create name = .ok (file, ((openNew name).run state).state.disk) ∧
          ((openNew name).run state).state.disk.content? file.path = some .empty ∧
          ∀ other, other ≠ file.path →
            ((openNew name).run state).state.disk.node? other = state.disk.node? other) := by
  obtain ⟨table, represents⟩ := reached.represents
  constructor
  · intro refused
    cases found : state.disk.openExisting name with
    | error fault =>
      rw [run_openExisting_of_error found] at refused
      cases refused
    | ok file =>
      rw [run_openExisting_of_ok found] at refused ⊢
      exact represents.register_of_error file name refused
  · intro refused
    cases made : state.disk.create name with
    | error fault =>
      rw [run_openNew_of_error made] at refused
      cases refused
    | ok opened =>
      obtain ⟨file, disk⟩ := opened
      have ready : ({ state with disk := disk } : StreamPool σ).Represents table :=
        ⟨represents.pool, represents.valid⟩
      rw [run_openNew_of_ok made] at refused ⊢
      obtain ⟨spared, same⟩ := ready.register_of_error file name refused
      obtain ⟨_, emptied, free⟩ := Disk.create_eq made
      refine ⟨⟨spared.shared, spared.slots, spared.files, spared.host⟩, file, ?_, ?_,
        fun other elsewhere => ?_⟩
      · rw [same]
      · rw [same]
        change disk.content? file.path = _
        rw [emptied, Disk.content?_put _ free]
      · rw [same]
        change disk.node? other = _
        rw [emptied, Disk.node?_put_of_ne elsewhere]

/-- A pool with room for one file, which is open, over a disk with another file that holds a byte. -/
def full : StreamPool (Heap BufferedFile) :=
  ((openNew "a").run
    ((create (.bounded 1)).run (.empty (.empty false) ⟨[(["b"], .file (.ofList [7]))]⟩)).state).state

theorem reached_full : full.Reached := by
  have built : (create (.bounded 1)).run (.empty (Heap.empty false) ⟨[(["b"], .file (.ofList [7]))]⟩) =
    ⟨.ok (), _, _⟩ := rfl
  exact (Reached.created (Heap.Orderly.empty false) built).called (.openNew "a") [] trivial

theorem exhausted_full : ((openNew "b").run full).result =
    .ok (.error (.memory (.poolExhausted Pool.component 1))) := by decide +kernel

theorem content_full : (full.disk.content? ["b"]).map FileContent.toList = some [7] := by decide +kernel

/-- The other file finds no slot. It keeps its byte if it is opened as it is, and loses it if it is opened
as a new one. -/
theorem refusal_of_full_pool :
    Spared full ((openExisting "b").run full).state ∧
      ((openExisting "b").run full).state.disk = full.disk ∧
      (full.disk.content? ["b"]).map FileContent.toList = some [7] ∧
      (((openNew "b").run full).state.disk.content? ["b"]).map FileContent.toList = some [] ∧
      Spared full ((openNew "b").run full).state := by
  have exhausted : ((openExisting "b").run full).result =
      .ok (.error (.memory (.poolExhausted Pool.component 1))) := by decide +kernel
  obtain ⟨kept, emptied⟩ := reached_full.refusal "b" (.poolExhausted Pool.component 1)
  obtain ⟨spared, file, made, content, _⟩ := emptied exhausted_full
  have place : (full.disk.create "b").map (·.1.path) = .ok ["b"] := by decide +kernel
  rw [made] at place
  have path : file.path = ["b"] := Except.ok.inj place
  rw [path] at content
  obtain ⟨spared', same⟩ := kept exhausted
  refine ⟨spared', same, content_full, ?_, spared⟩
  rw [content, Option.map_some, FileContent.toList_empty]

/-- A file that finds no slot may lose its content. -/
theorem refused_file_emptied :
    ¬ ∀ state : StreamPool (Heap BufferedFile), state.Reached → ∀ (name : String) (error : MemoryError),
      ((openNew name).run state).result = .ok (.error (.memory error)) →
        ∀ path content, state.disk.content? path = some content →
          ((openNew name).run state).state.disk.content? path = some content := by
  intro kept
  obtain ⟨content, found, holds⟩ := Option.map_eq_some_iff.mp content_full
  have same := kept full reached_full "b" _ exhausted_full ["b"] content found
  have emptied : (((openNew "b").run full).state.disk.content? ["b"]).map FileContent.toList = some [] := by
    decide +kernel
  rw [same, Option.map_some, holds] at emptied
  cases emptied

end StreamPool
end Allotment
