import Allotment.Proofs.GrowArray.Refinement
import Allotment.Proofs.SharedStack.Arrays
import Allotment.Proofs.Stack.Replacement

/-! An array that is alone on top of a stack grows where it stands. Its block is placed at the first
growth, every later growth moves the end of that block, and to dispose of the array takes the block off
again. All of it follows from one fact about every state: the live blocks are those below the array, and
the array's block, if it has one, on top of them. -/
namespace Allotment.GrowArray
open Allocator Custody
variable {Object T α : Type} [Element Object T] {array larger after : GrowArray T}

section Asking
variable {σ : Type} [Allocator Object σ] {host : σ}

/-- A call that needs more room than there is fails as the request for that room does. -/
theorem result_eq_error_iff (fits : array.length ≤ array.capacity) (call : Call T α)
    (more : array.capacity < array.length + call.asks) (fault : Fault) :
    (call.operation.run (array, host)).result = .error fault ↔
      ((reserve call.asks).run (array, host)).result = .error fault := by
  cases call with
  | push value =>
    have full : array.length = array.capacity := Nat.le_antisymm fits (Nat.le_of_lt_succ more)
    change ((push value).run (array, host)).result = _ ↔ ((reserve 1).run (array, host)).result = _
    rcases ran : (reserve 1).run (array, host) with ⟨refused | _, ⟨after, last⟩, done⟩
    · rw [run_push_of_refused full ran]
    · rw [run_push_of_grown full ran]
  | reserve additional => exact Iff.rfl
  | _ => exact absurd fits (Nat.not_le.mpr more)

end Asking

/-- The fault of an array that needs more room than the stack has for its new capacity: the length or the
bytes are no word, or the bytes do not fit the buffer. -/
def roomFault (array : GrowArray T) (stack : Stack Object) (additional newCapacity : Nat) : Fault :=
  if wordLimit ≤ array.length + additional then .refused (.sizeOverflow "AllocVec::try_reserve")
  else if wordLimit ≤ Element.size T * newCapacity then .refused (.sizeOverflow "realloc_array")
  else (MemoryError.arenaExhausted Stack.component (Element.size T * newCapacity)
    (stack.capacity - stack.used)).fault stack.config.failFast

/-- Where the block of the array lies, if it has one. -/
def extent (array : GrowArray T) : Extent :=
  ⟨array.address, array.address + Element.size T * array.capacity⟩

/-- The live blocks of a stack with the array on top of the blocks below. -/
def ledger (array : GrowArray T) (below : List Extent) : List Extent :=
  if array.capacity = 0 then below else array.extent :: below

theorem ledger_of_none (bare : array.capacity = 0) (below : List Extent) :
    array.ledger below = below := if_pos bare

theorem ledger_of_some (roomy : array.capacity ≠ 0) (below : List Extent) :
    array.ledger below = array.extent :: below := if_neg roomy

private theorem ledger_congr (address : after.address = array.address)
    (capacity : after.capacity = array.capacity) (below : List Extent) :
    after.ledger below = array.ledger below := by
  rw [ledger, ledger, extent, extent, address, capacity]

theorem confined_ledger {call : Stack.Call Object} {below : List Extent}
    (confined : call.Confined below) : call.Confined (array.ledger below) := by
  intro address target
  obtain ⟨block, live, covers⟩ := confined address target
  refine ⟨block, ?_, covers⟩
  rw [ledger]
  split
  · exact live
  · exact List.mem_cons_of_mem _ live

/-- The ledger of an array that got another block: a new one, or its own where it was. -/
private theorem ledger_resized {place newCapacity : Nat} (more : array.capacity < newCapacity)
    (same : array.capacity ≠ 0 → place = array.address) (oldSize : Nat) (below : List Extent) :
    (Stack.Call.resize array.block? (Element.size T * newCapacity) oldSize : Stack.Call Object).ledger
      (some place) (array.ledger below) = (array.moved place newCapacity).ledger below := by
  rw [ledger_of_some (show (array.moved place newCapacity).capacity ≠ 0 from Nat.ne_zero_of_lt more)]
  by_cases bare : array.capacity = 0
  · rw [block?_of_none bare, ledger_of_none bare]
    rfl
  · rw [block?_of_some bare, ledger_of_some bare, same bare]
    exact if_pos rfl

/-- The array, if it has a block, is on top of the blocks of `base`, and these are as they were. -/
structure OnTop (base : Stack.Session Object) (array : GrowArray T) (stack : Stack Object) : Prop where
  shape : stack.shape = base.stack.shape
  valid : Stack.Session.Valid ⟨stack, array.ledger base.blocks⟩

namespace OnTop
variable {base : Stack.Session Object} {stack last : Stack Object} {place newCapacity : Nat}

theorem empty (valid : base.Valid) (sized : Element.size T ≠ 0) :
    OnTop base (GrowArray.empty T) base.stack := by
  refine ⟨rfl, ?_⟩
  rw [ledger_of_none (if_neg sized)]
  exact valid

variable (onTop : OnTop base array stack)
include onTop

private theorem capacity_eq : stack.capacity = base.stack.capacity :=
  congrArg StackShape.capacity onTop.shape

theorem align_eq : stack.align = base.stack.align := congrArg StackShape.align onTop.shape

section Below
variable (below : base.Valid)
include below

theorem offsets_of_none (bare : array.capacity = 0) : stack.offsets = base.stack.offsets := by
  have chain := onTop.valid.chain
  rw [ledger_of_none bare] at chain
  exact chain.unique below.chain

theorem offsets_popped (roomy : array.capacity ≠ 0) :
    (stack.popped array.address).offsets = base.stack.offsets := by
  have released : (Stack.Call.release (some array.address) : Stack.Call Object).released? =
    some array.address := rfl
  have valid := onTop.valid.perform (Stack.Session.confined_of_released released)
  rw [onTop.valid.perform_release (ledger_of_some roomy _) released] at valid
  exact valid.chain.unique below.chain

/-- The array has the place where the next block goes without it. -/
theorem isPlace (roomy : array.capacity ≠ 0) : base.stack.IsPlace array.address := by
  have popped := onTop.valid.isPlace_popped (ledger_of_some roomy _)
  change (stack.popped array.address).IsPlace array.address at popped
  have align : (stack.popped array.address).align = base.stack.align :=
    (congrArg StackShape.align (Stack.shape_popped stack array.address)).trans onTop.align_eq
  have used : (stack.popped array.address).used = base.stack.used :=
    congrArg Header.used (onTop.offsets_popped below roomy)
  rwa [Stack.IsPlace, align, used] at popped

private theorem isPlace_of_none (bare : array.capacity = 0) (isPlace : base.stack.IsPlace place) :
    stack.IsPlace place := by
  have used : stack.used = base.stack.used :=
    congrArg Header.used (onTop.offsets_of_none below bare)
  rwa [Stack.IsPlace, onTop.align_eq, used]

/-- The array gets a block of that size, its first or a larger one, if it ends in the buffer from its
place. -/
theorem answer_resize (isPlace : base.stack.IsPlace place) {newSize : Nat} (asked : newSize ≠ 0)
    (oldSize : Nat) :
    Stack.Session.answer ⟨stack, array.ledger base.blocks⟩ (.resize array.block? newSize oldSize) =
      if base.stack.capacity < place + newSize then
        .error ((stack.roomError newSize).fault stack.config.failFast)
      else .ok (some place) := by
  rw [← onTop.capacity_eq]
  by_cases bare : array.capacity = 0
  · have free := onTop.isPlace_of_none below bare isPlace
    rw [block?_of_none bare]
    split
    · next full => exact (onTop.valid.refused free rfl full).1
    · next fits => exact (onTop.valid.granted free rfl (Nat.le_of_not_lt fits)).1
  · have live := ledger_of_some bare base.blocks
    have same : place = array.address := isPlace.unique (onTop.isPlace below bare)
    rw [block?_of_some bare, same]
    split
    · next full => exact (onTop.valid.resized_full live oldSize asked full).1
    · next fits => exact (onTop.valid.resized_top live oldSize asked (Nat.le_of_not_lt fits)).1

end Below

private theorem offsets_of_some (roomy : array.capacity ≠ 0) :
    stack.offsets = ⟨array.address, array.address + Element.size T * array.capacity⟩ := by
  have chain := onTop.valid.chain
  rw [ledger_of_some roomy] at chain
  exact chain.head_start rfl

private theorem offsets_eq (below : base.Valid) (isPlace : base.stack.IsPlace place) :
    stack.offsets = if array.capacity = 0 then base.stack.offsets
      else ⟨place, place + Element.size T * array.capacity⟩ := by
  split
  · next bare => exact onTop.offsets_of_none below bare
  · next roomy =>
    rw [isPlace.unique (onTop.isPlace below roomy)]
    exact onTop.offsets_of_some roomy

/-- Whatever is called on the stack, an array is on top if the live blocks are its ledger afterwards. -/
theorem performed {call : Stack.Call Object} (confined : call.Confined (array.ledger base.blocks))
    (blocks : (Stack.Session.perform ⟨stack, array.ledger base.blocks⟩ call).blocks =
      larger.ledger base.blocks) :
    OnTop base larger (Stack.Session.perform ⟨stack, array.ledger base.blocks⟩ call).stack := by
  refine ⟨(onTop.valid.transition call).shape.trans onTop.shape, ?_⟩
  rw [← blocks]
  exact onTop.valid.perform confined

/-- What others do to the blocks below leaves the array's block to it, with what is in it. -/
private theorem keeps_aside {call : Stack.Call Object} (confined : call.Confined base.blocks)
    (still : (Stack.Session.perform ⟨stack, array.ledger base.blocks⟩ call).blocks =
      array.ledger base.blocks) (roomy : array.capacity ≠ 0) :
    Keeps stack (Stack.Session.perform ⟨stack, array.ledger base.blocks⟩ call).stack array.address
      (Element.size T * array.capacity) := by
  have valid := onTop.valid.perform (confined_ledger confined)
  have live : array.extent ∈ array.ledger base.blocks := by
    rw [ledger_of_some roomy]
    exact List.mem_cons_self ..
  have alive := live
  rw [← still] at alive
  obtain ⟨_, kept⟩ := (onTop.valid.transition call).kept onTop.valid live alive rfl
  refine valid.keeps alive (fun address covers => kept address covers covers fun target => ?_)
    (Nat.le_refl _)
  -- a block below ends in front of the array's
  obtain ⟨other, lower, covers'⟩ := confined address target
  have apart := onTop.valid.chain.separated
  rw [ledger_of_some roomy] at apart
  have gap := (List.pairwise_cons.mp apart).1 other lower
  have first := covers.1
  have last := covers'.2
  omega

/-- After a request for another block an array is on top if the ledger is its own. -/
theorem resized {newSize oldSize : Nat} {result : Except Fault (Option Nat)}
    {done : List (Effect Object)}
    (ran : (resize array.block? newSize oldSize).run stack = ⟨result, last, done⟩)
    (blocks : Stack.Session.hold ⟨stack, array.ledger base.blocks⟩
      (.resize array.block? newSize oldSize) (array.ledger base.blocks) = larger.ledger base.blocks) :
    OnTop base larger last := by
  have kept := onTop.performed (fun _ target => target.elim :
    (Stack.Call.resize array.block? newSize oldSize : Stack.Call Object).Confined _) blocks
  have state : (Stack.Session.perform ⟨stack, array.ledger base.blocks⟩
      (.resize array.block? newSize oldSize)).stack = last := congrArg Outcome.state ran
  rwa [state] at kept

section Growing
variable (sized : Element.size T ≠ 0) (below : base.Valid) (isPlace : base.stack.IsPlace place)
  (aligned : Element.alignment T ≤ base.stack.align)
include sized below isPlace aligned

private theorem result_enlarge (more : array.capacity < newCapacity) :
    ((array.enlarge newCapacity).run stack).result =
      if base.stack.capacity < place + Element.size T * newCapacity then
        .error (if wordLimit ≤ Element.size T * newCapacity then .refused (.sizeOverflow "realloc_array")
          else (stack.roomError (Element.size T * newCapacity)).fault stack.config.failFast)
      else .ok (some place) := by
  have strict : Element.alignment T ≤ alignment stack :=
    Nat.le_trans aligned (Nat.le_of_eq onTop.align_eq.symm)
  by_cases large : wordLimit ≤ Element.size T * newCapacity
  · have small := base.stack.capacity_lt_wordLimit
    have bytes : arraySize? (Element.size T) newCapacity = none := if_neg (Nat.not_lt.mpr large)
    rw [enlarge, run_resizeArray_of_overflow _ _ strict bytes, if_pos (by omega), if_pos large]
  · have bytes : arraySize? (Element.size T) newCapacity = some (Element.size T * newCapacity) :=
      if_pos (Nat.lt_of_not_le large)
    have asked : Element.size T * newCapacity ≠ 0 := Nat.mul_ne_zero sized (by omega)
    rw [enlarge, run_resizeArray_of_size _ _ strict bytes, if_neg large]
    exact onTop.answer_resize below isPlace asked _

theorem result_reserve {additional : Nat} (more : array.capacity < array.length + additional) :
    ((reserve additional).run (array, stack)).result =
      if base.stack.capacity < place + Element.size T * array.grownCapacity additional then
        .error (array.roomFault stack additional (array.grownCapacity additional))
      else .ok () := by
  have grows := lt_grownCapacity more
  by_cases large : wordLimit ≤ array.length + additional
  · have small := base.stack.capacity_lt_wordLimit
    have enough : array.length + additional ≤ array.grownCapacity additional := by
      rw [grownCapacity]
      omega
    have bytes := Nat.le_mul_of_pos_left (array.grownCapacity additional) (Nat.pos_of_ne_zero sized)
    rw [run_reserve_of_overflow large, if_pos (by omega), roomFault, if_pos large]
  · have result := onTop.result_enlarge sized below isPlace aligned grows
    rw [run_reserve_of_full (Nat.lt_of_not_le large) more, roomFault, if_neg large]
    rcases ran : (array.enlarge (array.grownCapacity additional)).run stack with
      ⟨fault | answer, last, done⟩
    · rw [ran] at result
      rw [run_growTo_of_error sized grows ran]
      split at result
      · next full =>
        rw [if_pos full]
        exact congrArg Except.error (Except.error.inj result)
      · cases result
    · rw [ran] at result
      split at result
      · cases result
      · next fits =>
        cases result
        rw [run_growTo_of_ok sized grows ran, if_neg fits]

end Growing

theorem dispose (sized : Element.size T ≠ 0) (below : base.Valid) :
    (GrowArray.dispose.run (array, stack)).result = .ok () ∧
      (GrowArray.dispose.run (array, stack)).state.2.offsets = base.stack.offsets := by
  rw [GrowArray.dispose, Step.run_bind_of_ok run_clear, Step.run_bind_of_quiet (Step.run_get _)]
  dsimp only
  by_cases bare : array.capacity = 0
  · rw [if_neg fun both : _ ∧ _ => Nat.ne_of_gt both.2 bare]
    exact ⟨rfl, onTop.offsets_of_none below bare⟩
  · have live := ledger_of_some bare base.blocks
    obtain ⟨state, answer⟩ := Stack.Session.run_operation ⟨stack, array.ledger base.blocks⟩
      (show (Stack.Call.release (some array.extent.start) : Stack.Call Object).operation =
        (fun _ => none) <$> Allocator.release (some array.address) from rfl)
    rw [onTop.valid.perform_release live rfl] at state
    rw [onTop.valid.answer_release live] at answer
    rw [if_pos ⟨sized, Nat.pos_of_ne_zero bare⟩]
    refine ⟨?_, (congrArg Stack.offsets state).trans (onTop.offsets_popped below bare)⟩
    change ((Allocator.release (some array.address)).run stack).result = _
    cases released : ((Allocator.release (some array.address)).run stack).result with
    | ok _ => rfl
    | error fault =>
      rw [released] at answer
      cases answer

variable (owned : array.Owned stack) (sized : Element.size T ≠ 0)
include owned sized

theorem asked (asked : Asked array stack larger last) : OnTop base larger last := by
  cases asked with
  | nothing => exact onTop
  | @refused newCapacity fault last done ran =>
    rcases owned.run_enlarge newCapacity with ⟨_, rejected⟩ | ⟨_, _, resized⟩
    · cases rejected.symm.trans ran
      exact onTop
    · have answer : Stack.Session.answer ⟨stack, array.ledger base.blocks⟩ (.resize array.block?
          (Element.size T * newCapacity) (Element.size T * array.capacity)) = .error fault :=
        congrArg Outcome.result (resized.symm.trans ran)
      refine onTop.resized (resized.symm.trans ran) ?_
      rw [Stack.Session.hold, answer]
  | @granted newCapacity place last done more ran =>
    rcases owned.run_enlarge newCapacity with ⟨_, rejected⟩ | ⟨_, _, resized⟩
    · cases rejected.symm.trans ran
    · have answer : Stack.Session.answer ⟨stack, array.ledger base.blocks⟩ (.resize array.block?
          (Element.size T * newCapacity) (Element.size T * array.capacity)) = .ok (some place) :=
        congrArg Outcome.result (resized.symm.trans ran)
      refine onTop.resized (resized.symm.trans ran) ?_
      rw [Stack.Session.hold, answer]
      refine ledger_resized more (fun roomy => ?_) _ _
      rw [block?_of_some roomy] at answer
      have asked : Element.size T * newCapacity ≠ 0 := Nat.mul_ne_zero sized (by omega)
      exact Option.some.inj (onTop.valid.answer_resize asked answer)

omit sized in
theorem filled (filled : Filled array stack after last) : OnTop base after last := by
  obtain ⟨address, capacity, memory', rfl, outside⟩ := filled
  refine ⟨onTop.shape, ?_⟩
  rw [ledger_congr address capacity]
  by_cases bare : array.capacity = 0
  · refine ⟨onTop.valid.chain.transport rfl fun _ _ other _ => ?_, onTop.valid.inside⟩
    exact outside other fun roomy => absurd bare roomy
  · exact onTop.valid.written (owned.held bare) fun other apart => outside other fun _ => apart

theorem called [LawfulElement Object T] (call : Call T α) :
    OnTop base (call.operation.run (array, stack)).state.1
      (call.operation.run (array, stack)).state.2 := by
  obtain @⟨larger, middle, asked, kept, filled⟩ := owned.contact sized call
  exact (onTop.asked owned sized asked).filled kept filled

end OnTop

namespace Session
variable {base : Stack.Session Object} {session : Session T (Stack Object)}

/-- The sessions of an array that begin on a stack with live blocks, while no other block comes, goes or
changes its size. -/
inductive Above (base : Stack.Session Object) : Session T (Stack Object) → Prop where
  | unreserved : Above base ⟨.empty T, base.stack, []⟩
  | reserved {before array : GrowArray T} {last : Stack Object} {capacity : Nat}
      {done : List (Effect Object)}
      (built : (createWithCapacity capacity).run (before, base.stack) = ⟨.ok (), (array, last), done⟩) :
      Above base ⟨array, last, []⟩
  | performed {session : Session T (Stack Object)} {α : Type} (above : Above base session)
      (call : Call T α) : Above base (session.perform call)
  /-- Others call the stack, and write to the blocks below. -/
  | aside {session : Session T (Stack Object)} (above : Above base session) (call : Stack.Call Object)
      (confined : call.Confined base.blocks)
      (still : (Stack.Session.perform ⟨session.host, session.array.ledger base.blocks⟩ call).blocks =
        session.array.ledger base.blocks) :
      Above base { session with
        host := (Stack.Session.perform ⟨session.host, session.array.ledger base.blocks⟩ call).stack }

variable [LawfulElement Object T]

/-- Whatever happened, the array is on top of the blocks that were live when it began. -/
theorem Above.onTop (above : Above base session) (below : base.Valid) (sized : Element.size T ≠ 0) :
    OnTop base session.array session.host ∧ session.Reachable := by
  induction above with
  | unreserved => exact ⟨.empty below sized, .unreserved below.sound⟩
  | @reserved before array last capacity done built =>
    refine ⟨?_, .reserved below.sound built⟩
    rw [run_createWithCapacity] at built
    have onTop := (OnTop.empty below sized).called (.empty sized below.sound) sized
      (.reserve capacity : Call T Unit)
    have ran : (Call.reserve capacity : Call T Unit).operation.run (GrowArray.empty T, base.stack) =
      ⟨.ok (), (array, last), done⟩ := built
    rwa [ran] at onTop
  | performed _ call ih =>
    obtain ⟨onTop, reached⟩ := ih
    exact ⟨onTop.called (reached.valid.sized sized).1 sized call, reached.performed call⟩
  | aside _ call confined still ih =>
    obtain ⟨onTop, reached⟩ := ih
    have onTop' := onTop.performed (confined_ledger confined) still
    exact ⟨onTop', reached.disturbed onTop'.valid.sound fun _ => onTop.keeps_aside confined still⟩

/-- What comes of a call that needs a larger capacity: that capacity with the block where it stands, or
nothing but a fault. -/
structure Grown (base : Stack.Session Object) (place : Nat) (session : Session T (Stack Object))
    (call : Call T α) (newCapacity : Nat) : Prop where
  fails_iff : (∃ fault, session.answer call = .error fault) ↔
    base.stack.capacity < place + Element.size T * newCapacity
  answered : ∀ answer, session.answer call = .ok answer →
    answer = (call.onList session.contents).1 ∧
    (session.perform call).array.capacity = newCapacity ∧
    (session.perform call).host.offsets = ⟨place, place + Element.size T * newCapacity⟩
  failed : ∀ fault, session.answer call = .error fault →
    fault = session.array.roomFault session.host call.asks newCapacity ∧
    (session.perform call).array = session.array ∧
    (session.perform call).contents = session.contents ∧
    (session.perform call).host.offsets = session.host.offsets

section Calls
variable {place : Nat} (above : session.Above base) (below : base.Valid) (sized : Element.size T ≠ 0)
include above below sized

theorem Above.offsets (isPlace : base.stack.IsPlace place) :
    session.host.offsets = if session.array.capacity = 0 then base.stack.offsets
      else ⟨place, place + Element.size T * session.array.capacity⟩ :=
  (above.onTop below sized).1.offsets_eq below isPlace

theorem Above.grown (isPlace : base.stack.IsPlace place)
    (aligned : Element.alignment T ≤ base.stack.align) (call : Call T α)
    (more : session.array.capacity < session.array.length + call.asks) :
    Grown base place session call (session.array.grownCapacity call.asks) := by
  obtain ⟨onTop, reached⟩ := above.onTop below sized
  have result := onTop.result_reserve sized below isPlace aligned more
  have fails (fault : Fault) : session.answer call = .error fault ↔
      ((reserve call.asks).run (session.array, session.host)).result = .error fault :=
    result_eq_error_iff reached.valid.fits call more fault
  have now := above.offsets below sized isPlace
  have later := (above.performed call).offsets below sized isPlace
  cases (reached.valid.step call).2 with
  | answered answer capacity =>
    have unfailed (fault : Fault) : session.answer call ≠ .error fault := by
      rw [answer]
      exact nofun
    have grown : session.array.capacityFor call.asks = session.array.grownCapacity call.asks :=
      if_neg (Nat.not_le.mpr more)
    have roomy : session.array.grownCapacity call.asks ≠ 0 :=
      Nat.ne_zero_of_lt (lt_grownCapacity more)
    rw [grown] at capacity
    rw [capacity, if_neg roomy] at later
    refine ⟨iff_of_false (fun ⟨fault, failed⟩ => unfailed fault failed) fun full => ?_, ?_,
      fun fault failed => absurd failed (unfailed fault)⟩
    · rw [if_pos full] at result
      exact unfailed _ ((fails _).mpr result)
    · intro other answered
      exact ⟨Except.ok.inj (answered.symm.trans answer), capacity, later⟩
  | @refused fault answer _ array contents _ =>
    rw [array, ← now] at later
    have failed := (fails fault).mp answer
    rw [result] at failed
    split at failed
    · next full =>
      refine ⟨iff_of_true ⟨fault, answer⟩ full, fun other answered => ?_, fun other again => ?_⟩
      · cases answered.symm.trans answer
      · rw [← Except.error.inj failed] at answer
        exact ⟨Except.error.inj (again.symm.trans answer), array, contents, later⟩
    · cases failed

end Calls

/-- An array that begins on top of any live blocks is one block that grows in place, as long as no other block
comes, goes or changes its size. It fails to grow exactly where a block of the new capacity would end outside
the buffer, and to dispose of it restores the offsets. -/
theorem Above.grows_in_place (reached : base.Reachable) (sized : Element.size T ≠ 0)
    (aligned : Element.alignment T ≤ base.stack.align) :
    ∃ place, IsLeast {offset | base.stack.align ∣ offset ∧ base.stack.used + headerSize ≤ offset} place ∧
      ∀ session : Session T (Stack Object), session.Above base →
        session.array.toList session.host.memory = session.contents ∧
        session.host.offsets = (if session.array.capacity = 0 then base.stack.offsets
          else ⟨place, place + Element.size T * session.array.capacity⟩) ∧
        (session.array.capacity ≠ 0 → session.array.address = place) ∧
        (∀ {α : Type} (call : Call T α),
          session.array.length + call.asks ≤ session.array.capacity →
          session.answer call = .ok (call.onList session.contents).1 ∧
          (session.perform call).array.capacity = session.array.capacity ∧
          (session.perform call).host.offsets = session.host.offsets) ∧
        (∀ {α : Type} (call : Call T α),
          session.array.capacity < session.array.length + call.asks →
          Grown base place session call
            (max (max (session.array.length + call.asks) (2 * session.array.capacity)) 4)) ∧
        (dispose.run (session.array, session.host)).result = .ok () ∧
        (dispose.run (session.array, session.host)).state.2.offsets = base.stack.offsets := by
  have below := reached.valid
  obtain ⟨place, _, isPlace⟩ := Stack.exists_isPlace below.inside
  refine ⟨place, isPlace, fun session above => ?_⟩
  obtain ⟨onTop, reached⟩ := above.onTop below sized
  have valid := reached.valid
  have offsets := above.offsets below sized isPlace
  obtain ⟨disposed, restored⟩ := onTop.dispose sized below
  refine ⟨valid.toList, offsets, ?_, ?_, ?_, disposed, restored⟩
  · exact fun roomy => (onTop.isPlace below roomy).unique isPlace
  · intro α call enough
    cases (valid.step call).2 with
    | answered answer capacity =>
      have same : (session.perform call).array.capacity = session.array.capacity :=
        capacity.trans (if_pos enough)
      refine ⟨answer, same, ?_⟩
      rw [(above.performed call).offsets below sized isPlace, offsets, same]
    | refused _ full => exact absurd enough (Nat.not_le.mpr full)
  · intro α call more
    rw [← grownCapacity_of_small sized (valid.sized sized).2]
    exact above.grown below sized isPlace aligned call more

/-- An array on a stack of 64 bytes, above a block of five: it has grown in place to eight numbers, and
does not grow to seventeen, with a failed request of another caller in between. -/
theorem grows_in_place_above_five_bytes :
    ∃ base : Stack.Session Value, base.Reachable ∧ base.stack.offsets = ⟨8, 13⟩ ∧
      Element.size UInt32 ≠ 0 ∧ Element.alignment UInt32 ≤ base.stack.align ∧
      ∃ session : Session UInt32 (Stack Value), session.Above base ∧ session.array.capacity = 8 ∧
        session.array.toList session.host.memory = [7] ∧ session.host.offsets = ⟨24, 56⟩ ∧
        session.answer (.reserve 16) = .error (.refused (.arenaExhausted Stack.component 68 8)) ∧
        (session.perform (.reserve 16)).array = session.array ∧
        (session.perform (.reserve 16)).host.offsets = ⟨24, 56⟩ ∧
        (dispose.run (session.array, session.host)).state.2.offsets = ⟨8, 13⟩ := by
  have built : (Stack.create 64 8 .debug : Step Value Unit (Stack Value)).run () =
      ⟨.ok (.empty ⟨64, 8, rfl, by decide, by decide, rfl, by decide⟩ .debug), (),
        [.logged (.stackCreated 64 8 .debug)]⟩ := rfl
  have reached := (Stack.Session.Reachable.created built).after [.allocate 5]
    ⟨fun _ target => target.elim, trivial⟩
  have begun {base : Stack.Session Value} (_ : base.Reachable) :
    Above base ⟨.empty UInt32, base.stack, []⟩ := .unreserved
  have grown := ((begun reached).performed (.push 7)).performed (.reserve 4)
  have above := grown.aside (.allocate 100) (fun _ target => target.elim) rfl
  obtain ⟨place, _, sessions⟩ := Above.grows_in_place (T := UInt32) reached (by decide) (by decide)
  obtain ⟨contents, offsets, address, _, grows, _, restored⟩ := sessions _ above
  have placed : 24 = place := address (by decide)
  subst placed
  have growth := grows (.reserve 16) (by decide)
  obtain ⟨fault, failed⟩ := growth.fails_iff.mpr (by decide)
  obtain ⟨rfl, array, _, still⟩ := growth.failed fault failed
  exact ⟨_, reached, rfl, by decide, by decide, _, above, rfl, contents, offsets, failed, array,
    still.trans offsets, restored⟩

end Session
end Allotment.GrowArray
