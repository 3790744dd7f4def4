import Mathlib.Tactic.ByContra
import Allotment.Proofs.Stream.Session

namespace Allotment.StreamPool

/-- The streams of the closes that were not answered that the stream is closed. -/
def freedBy (closes : List (ResourceId × Answer Unit)) : List ResourceId :=
  (closes.filter fun entry => !entry.2.saysClosed).map Prod.fst

theorem freedBy_cons (id : ResourceId) (answer : Answer Unit)
    (earlier : List (ResourceId × Answer Unit)) :
    freedBy ((id, answer) :: earlier) =
      if answer.saysClosed then freedBy earlier else id :: freedBy earlier := by
  unfold freedBy
  cases said : answer.saysClosed <;> simp [said]

/-- In a log, the latest first, a stream is closed by the first of its closes and said to be closed by
all others. -/
def FirstCloses : List (ResourceId × Answer Unit) → Prop
  | [] => True
  | (id, answer) :: earlier =>
    (if id ∈ earlier.map Prod.fst then answer = .ok (.error (.closed id))
      else answer.saysClosed = false) ∧ FirstCloses earlier

namespace FirstCloses
variable {closes earlier : List (ResourceId × Answer Unit)} {id : ResourceId} {answer : Answer Unit}

private theorem mem_freedBy (first : FirstCloses closes) (closed : id ∈ closes.map Prod.fst) :
    id ∈ freedBy closes := by
  induction closes with
  | nil => cases closed
  | cons entry earlier ih =>
    obtain ⟨other, answer⟩ := entry
    obtain ⟨latest, before⟩ := first
    have older : id ∈ earlier.map Prod.fst → id ∈ freedBy ((other, answer) :: earlier) := by
      intro member
      rw [freedBy_cons]
      split
      · exact ih before member
      · exact List.mem_cons_of_mem _ (ih before member)
    rcases List.mem_cons.mp closed with rfl | member
    · by_cases again : id ∈ earlier.map Prod.fst
      · exact older again
      · rw [if_neg again] at latest
        rw [freedBy_cons, latest]
        exact List.mem_cons_self
    · exact older member

private theorem of_append {later : List (ResourceId × Answer Unit)}
    (first : FirstCloses (later ++ earlier)) : FirstCloses earlier := by
  induction later with
  | nil => exact first
  | cons entry later ih => exact ih first.2

end FirstCloses

private theorem mem_of_freedBy {closes : List (ResourceId × Answer Unit)} {id : ResourceId}
    (freed : id ∈ freedBy closes) : id ∈ closes.map Prod.fst := by
  obtain ⟨entry, kept, rfl⟩ := List.mem_map.mp freed
  exact List.mem_map_of_mem (List.mem_filter.mp kept).1

namespace Session
open Allocator Custody
variable {α σ : Type} {session : Session σ}

/-- A close was performed through a copy of the stream. -/
def Closed (session : Session σ) (id : ResourceId) : Prop := id ∈ session.closes.map Prod.fst

/-- How often a close freed the slot at an index. -/
def frees (session : Session σ) (index : Nat) : Nat :=
  (freedBy session.closes).countP fun id => id.index.toNat == index

variable [Allocator BufferedFile σ] [Custody σ]

/-- The table is described by a map of the streams opened and freed; what was opened and not freed has
a file. -/
structure Valid (session : Session σ) (table : SlotTable BufferedFile)
    (registry : Registry BufferedFile) : Prop where
  represents : session.state.Represents table
  describes : registry.Describes table
  issued : registry.issued = session.streams
  freed : registry.freed = freedBy session.closes
  open_or_freed : ∀ id ∈ session.streams, id ∈ freedBy session.closes ∨ (table.get? id).isSome
  first : FirstCloses session.closes

namespace Valid
variable {table : SlotTable BufferedFile} {registry : Registry BufferedFile} {id : ResourceId}

private theorem mem_freedBy_iff (valid : session.Valid table registry) :
    id ∈ freedBy session.closes ↔ session.Closed id :=
  ⟨mem_of_freedBy, valid.first.mem_freedBy⟩

/-- Of the streams that were opened those have no file that were closed. -/
theorem dead_iff (valid : session.Valid table registry) (opened : id ∈ session.streams) :
    table.get? id = none ↔ session.Closed id := by
  constructor
  · intro dead
    rcases valid.open_or_freed id opened with freed | live
    · exact valid.mem_freedBy_iff.mp freed
    · rw [dead] at live
      cases live
  · intro closed
    refine valid.describes.dead_of_freed ?_
    rw [valid.freed]
    exact valid.mem_freedBy_iff.mpr closed

/-- A call that closes nothing may open a stream under a new identifier or change a file. -/
theorem unclosed (valid : session.Valid table registry) {state : StreamPool σ}
    {larger : SlotTable BufferedFile} {registry' : Registry BufferedFile} (opened : List ResourceId)
    (represents : state.Represents larger) (describes : registry'.Describes larger)
    (issued : registry'.issued = opened ++ registry.issued) (freed : registry'.freed = registry.freed)
    (new : ∀ id ∈ opened, (larger.get? id).isSome)
    (kept : ∀ id, (table.get? id).isSome → (larger.get? id).isSome) :
    Valid ⟨state, opened ++ session.streams, session.closes⟩ larger registry' := by
  refine ⟨represents, describes, ?_, ?_, ?_, valid.first⟩
  · rw [issued, valid.issued]
  · rw [freed, valid.freed]
  · intro id member
    rcases List.mem_append.mp member with latest | older
    · exact .inr (new id latest)
    · exact (valid.open_or_freed id older).imp_right (kept id)

theorem closed_again (valid : session.Valid table registry) (opened : id ∈ session.streams)
    (dead : table.get? id = none) :
    Valid ⟨session.state, session.streams, (id, .ok (.error (.closed id))) :: session.closes⟩
      table registry := by
  have closed : id ∈ session.closes.map Prod.fst := (valid.dead_iff opened).mp dead
  have same : freedBy ((id, .ok (.error (.closed id))) :: session.closes) = freedBy session.closes :=
    freedBy_cons ..
  exact ⟨valid.represents, valid.describes, valid.issued, same ▸ valid.freed,
    same ▸ valid.open_or_freed, ⟨by rw [if_pos closed], valid.first⟩⟩

/-- The first close of a stream frees its slot, whatever the flush answers. -/
theorem closed_first [LawfulAllocator BufferedFile σ] (valid : session.Valid table registry)
    {stream : BufferedFile}
    (live : table.get? id = some stream) {answer : Answer Unit} (effective : answer.saysClosed = false)
    (opened : id ∈ session.streams)
    (few : ∀ index, frees ⟨session.state, session.streams, (id, answer) :: session.closes⟩ index <
      2 ^ (32 : Nat)) :
    Valid ⟨session.state.freed id stream, session.streams, (id, answer) :: session.closes⟩
      (table.removed id) (registry.free id) := by
  have freed : freedBy ((id, answer) :: session.closes) = id :: freedBy session.closes := by
    rw [freedBy_cons, effective]
    rfl
  have fresh : id ∉ session.closes.map Prod.fst := by
    intro closed
    rw [(valid.dead_iff opened).mpr closed] at live
    cases live
  have same : (registry.free id).freed = freedBy ((id, answer) :: session.closes) := by
    rw [freed, ← valid.freed]
    rfl
  refine ⟨valid.represents.freed live, valid.describes.removed live ?_, valid.issued, same, ?_,
    ⟨?_, valid.first⟩⟩
  · have bound := few id.index.toNat
    rwa [frees, ← same] at bound
  · intro other member
    rw [freed, SlotTable.get?_removed live]
    by_cases same : other = id
    · exact .inl (same ▸ List.mem_cons_self)
    · rw [if_neg same]
      exact (valid.open_or_freed other member).imp_left (List.mem_cons_of_mem _)
  · rw [if_neg fresh]
    exact effective

/-- Whatever is called, what is opened and closed is still described, as long as no slot was freed too
often. -/
theorem step [LawfulAllocator BufferedFile σ] (valid : session.Valid table registry) {call : Call α}
    (permitted : call.Permitted session.state session.streams)
    (few : ∀ index, (session.perform call).frees index < 2 ^ (32 : Nat)) :
    ∃ table' registry', (session.perform call).Valid table' registry' := by
  have moved := transition valid.represents permitted
  rw [perform, answer] at few ⊢
  generalize (call.operation.run session.state).result = answer at moved few ⊢
  generalize (call.operation.run session.state).state = after at moved few ⊢
  cases moved with
  | opened issued _ opens inserted represents =>
    obtain ⟨_, describes⟩ := valid.describes.inserted inserted
    have resolves := inserted.get?_eq valid.describes.valid
    rw [issued, Call.closing_of_no_stream (Call.no_stream_of_opens opens)]
    refine ⟨_, _, valid.unclosed _ represents describes rfl rfl ?_ ?_⟩
    · intro id member
      rw [List.mem_singleton.mp member, resolves, if_pos rfl]
      rfl
    · intro id live
      rw [resolves]
      split
      · rfl
      · exact live
  | kept through issued _ _ represents =>
    rw [issued, Call.closing_of_no_stream through]
    exact ⟨_, _, valid.unclosed _ represents valid.describes rfl rfl nofun fun _ live => live⟩
  | closed through dead =>
    rw [Call.issued_of_error]
    cases call with
    | use id asked => exact ⟨_, _, valid⟩
    | close id =>
      cases through
      exact ⟨_, _, valid.closed_again permitted dead⟩
    | _ => cases through
  | used live =>
    refine ⟨_, _, valid.unclosed [] (valid.represents.stored live _)
      (valid.describes.overwritten live _) rfl rfl nofun ?_⟩
    intro other alive
    rw [SlotTable.get?_overwritten live]
    split
    · rfl
    · exact alive
  | freed live =>
    refine ⟨_, _, valid.closed_first live ?_ permitted few⟩
    cases (BufferedFile.flush (_, session.state.disk)).1 <;> rfl

end Valid

omit [Custody σ] in
theorem frees_le_perform (session : Session σ) (call : Call α) (index : Nat) :
    session.frees index ≤ (session.perform call).frees index := by
  have logged (closes : List (ResourceId × Answer Unit)) (id : ResourceId) (answer : Answer Unit) :
      (freedBy closes).countP (fun id => id.index.toNat == index) ≤
        (freedBy ((id, answer) :: closes)).countP fun id => id.index.toNat == index := by
    rw [freedBy_cons]
    split
    · exact Nat.le_refl _
    · rw [List.countP_cons]
      exact Nat.le_add_right ..
  cases call with
  | close id => exact logged session.closes id _
  | _ => exact Nat.le_refl _

variable [LawfulAllocator BufferedFile σ]

theorem Reachable.valid (reached : session.Reachable) (few : ∀ index, session.frees index < 2 ^ (32 : Nat)) :
    ∃ table registry, session.Valid table registry := by
  induction reached with
  | standard sound disk =>
    exact ⟨_, _, represents_of_standard sound disk, .blank, rfl, rfl, nofun, trivial⟩
  | created sound built =>
    obtain ⟨table, represents, describes⟩ := represents_of_create sound built
    exact ⟨table, _, represents, describes, rfl, rfl, nofun, trivial⟩
  | performed reached call permitted ih =>
    obtain ⟨table, registry, valid⟩ := ih fun index =>
      Nat.lt_of_le_of_lt (frees_le_perform _ call index) (few index)
    exact valid.step permitted few
  | disturbed _ spared ih =>
    obtain ⟨table, registry, valid⟩ := ih few
    exact ⟨table, registry, { valid with represents := valid.represents.disturbed spared }⟩

namespace Valid
variable {table : SlotTable BufferedFile} {registry : Registry BufferedFile} {id : ResourceId}

omit [LawfulAllocator BufferedFile σ] in
/-- Through a copy of a closed stream there is only one answer, and nothing happens. -/
private theorem answer_of_closed (valid : session.Valid table registry) (opened : id ∈ session.streams)
    (closed : session.Closed id) {call : Call α} (through : call.stream? = some id) :
    session.answer call = .ok (.error (.closed id)) ∧ (session.perform call).state = session.state := by
  have dead : session.state.file? id = none :=
    (valid.represents.file?_eq id).trans ((valid.dead_iff opened).mpr closed)
  cases call with
  | use id asked =>
    cases through
    have ran : (Call.use id asked).operation.run session.state = _ :=
      run_onFile_of_closed dead asked.operation
    rw [answer, perform, ran]
    exact ⟨rfl, rfl⟩
  | close id =>
    cases through
    have ran : (Call.close id).operation.run session.state = _ := run_close_of_closed dead
    rw [answer, perform, ran]
    exact ⟨rfl, rfl⟩
  | _ => cases through

omit [Custody σ] [LawfulAllocator BufferedFile σ] in
private theorem answer_of_open {stream : BufferedFile} (live : session.state.file? id = some stream)
    {call : Call α} (through : call.stream? = some id) : (session.answer call).saysClosed = false := by
  cases call with
  | use id asked =>
    cases through
    have ran : (Call.use id asked).operation.run session.state = _ :=
      run_onFile_of_open live asked.operation
    rw [answer, ran]
    cases (asked.operation (stream, session.state.disk)).1 <;> rfl
  | close id =>
    cases through
    have closing : session.answer (.close id) = _ := (run_close_of_open live).1
    rw [closing]
    cases (BufferedFile.flush (stream, session.state.disk)).1 <;> rfl
  | _ => cases through

/-- The first close answers what the flush answers. The slot is free after it and the next to be used,
and every other stream has the file it had. -/
theorem first_close (valid : session.Valid table registry) {stream : BufferedFile}
    (live : session.state.file? id = some stream) :
    session.answer (.close id) =
        .ok ((BufferedFile.flush (stream, session.state.disk)).1.mapError .disk) ∧
      (session.perform (.close id)).state.isOpen id = false ∧
      (session.perform (.close id)).state.shared.pool.freeHead = some id.index ∧
      (session.perform (.close id)).state.shared.pool.length + 1 =
        session.state.shared.pool.length ∧
      ∀ other, other ≠ id →
        (session.perform (.close id)).state.file? other = session.state.file? other := by
  obtain ⟨result, last⟩ := run_close_of_open live
  have after : (session.perform (.close id)).state = session.state.freed id stream := last
  rw [after]
  exact ⟨result, valid.represents.slot_freed live⟩

end Valid

/-- A stream is open until a close is performed through one of its copies, which frees the slot whatever the
flush answers. From then on every copy is answered that this stream is closed, whatever the slot holds. -/
theorem Reachable.closes_for_good (reached : session.Reachable)
    (few : ∀ index, session.frees index < 2 ^ (32 : Nat)) :
    (∀ id ∈ session.streams,
      (session.state.isOpen id = false ↔ session.Closed id) ∧
      (∀ {α : Type} (call : Call α), call.stream? = some id →
        ((session.answer call).saysClosed = true ↔ session.Closed id) ∧
        (session.Closed id → session.answer call = .ok (.error (.closed id)) ∧
          (session.perform call).state = session.state)) ∧
      (¬ session.Closed id → ∃ stream, session.state.file? id = some stream ∧
        session.answer (.close id) =
          .ok ((BufferedFile.flush (stream, session.state.disk)).1.mapError .disk) ∧
        (session.perform (.close id)).state.isOpen id = false ∧
        (session.perform (.close id)).state.shared.pool.freeHead = some id.index ∧
        (session.perform (.close id)).state.shared.pool.length + 1 =
          session.state.shared.pool.length ∧
        ∀ other, other ≠ id →
          (session.perform (.close id)).state.file? other = session.state.file? other)) ∧
    ∀ later id answer earlier, session.closes = later ++ (id, answer) :: earlier →
      (id ∈ earlier.map Prod.fst → answer = .ok (.error (.closed id))) ∧
      (id ∉ earlier.map Prod.fst → answer.saysClosed = false) := by
  obtain ⟨table, registry, valid⟩ := reached.valid few
  constructor
  · intro id opened
    have dead : session.state.file? id = none ↔ session.Closed id := by
      rw [valid.represents.file?_eq]
      exact valid.dead_iff opened
    refine ⟨?_, ?_, ?_⟩
    · rw [isOpen, Option.isSome_eq_false_iff, Option.isNone_iff_eq_none]
      exact dead
    · intro α call through
      refine ⟨⟨fun said => ?_, fun closed => ?_⟩,
        fun closed => valid.answer_of_closed opened closed through⟩
      · by_contra unclosed
        obtain ⟨stream, live⟩ := Option.ne_none_iff_exists'.mp (mt dead.mp unclosed)
        rw [Valid.answer_of_open live through] at said
        cases said
      · rw [(valid.answer_of_closed opened closed through).1]
        rfl
    · intro unclosed
      obtain ⟨stream, live⟩ := Option.ne_none_iff_exists'.mp (mt dead.mp unclosed)
      exact ⟨stream, live, valid.first_close live⟩
  · intro later id answer earlier split
    obtain ⟨latest, _⟩ := FirstCloses.of_append (split ▸ valid.first)
    constructor
    · intro again
      rwa [if_pos again] at latest
    · intro fresh
      rwa [if_neg fresh] at latest

/-- A file of one byte that was opened for reading. -/
def openedOnce : Session (Heap BufferedFile) :=
  Session.perform ⟨.empty (.empty false) (Disk.empty.put ["a"] (.file (.ofList [7]))), [], []⟩
    (.openExisting "a")

/-- A byte was written to the stream, so that its close failed, and the file was opened again. -/
def reopened : Session (Heap BufferedFile) :=
  ((openedOnce.perform (.use ⟨0, 0⟩ (.write [1]))).perform (.close ⟨0, 0⟩)).perform
    (.openExisting "a")

/-- The slot is free although the close failed; it serves another stream, and the old copies stay
closed. -/
theorem closes_for_good_of_reopened :
    reopened.Reachable ∧ (∀ index, reopened.frees index < 2 ^ (32 : Nat)) ∧
      reopened.streams = [⟨0, 1⟩, ⟨0, 0⟩] ∧
      reopened.closes = [(⟨0, 0⟩, .ok (.error (.disk .badDescriptor)))] ∧
      reopened.state.isOpen ⟨0, 0⟩ = false ∧ reopened.state.isOpen ⟨0, 1⟩ ≠ false ∧
      reopened.answer (.use ⟨0, 0⟩ (.write [2])) = .ok (.error (.closed ⟨0, 0⟩)) ∧
      (reopened.answer (.use ⟨0, 1⟩ (.write [2]))).saysClosed ≠ true := by
  have logs : (reopened.streams, reopened.closes) =
      ([⟨0, 1⟩, ⟨0, 0⟩], [(⟨0, 0⟩, .ok (.error (.disk .badDescriptor)))]) := by decide +kernel
  obtain ⟨streams, closes⟩ := Prod.mk.inj logs
  have once : openedOnce.streams = [⟨0, 0⟩] := by decide +kernel
  have first : (⟨0, 0⟩ : ResourceId) ∈ openedOnce.streams := once ▸ List.mem_cons_self
  have opened : openedOnce.Reachable :=
    (Reachable.standard (Heap.Orderly.empty false) _).performed (.openExisting "a") trivial
  have reached : reopened.Reachable :=
    ((opened.performed (.use ⟨0, 0⟩ (.write [1])) first).performed (.close ⟨0, 0⟩) first).performed
      (.openExisting "a") trivial
  have few : ∀ index, reopened.frees index < 2 ^ (32 : Nat) := by
    intro index
    refine Nat.lt_of_le_of_lt List.countP_le_length ?_
    rw [closes]
    decide
  obtain ⟨all, _⟩ := reached.closes_for_good few
  obtain ⟨old, answers, _⟩ := all ⟨0, 0⟩ (by rw [streams]; decide)
  obtain ⟨new, answers', _⟩ := all ⟨0, 1⟩ (by rw [streams]; decide)
  have closed : reopened.Closed ⟨0, 0⟩ := by
    rw [Closed, closes]
    decide
  have unclosed : ¬ reopened.Closed ⟨0, 1⟩ := by
    rw [Closed, closes]
    decide
  exact ⟨reached, few, streams, closes, old.mpr closed, mt new.mp unclosed,
    ((answers (.use ⟨0, 0⟩ (.write [2])) rfl).2 closed).1,
    mt (answers' (.use ⟨0, 1⟩ (.write [2])) rfl).1.mp unclosed⟩

end Session
end Allotment.StreamPool
