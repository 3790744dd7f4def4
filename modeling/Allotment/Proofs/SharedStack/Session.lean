import Allotment.Proofs.SharedStack.Containers

namespace Allotment
open Allocator Custody
variable {Object α : Type}

/-- An array or a pool. -/
structure Container (Object : Type) : Type 1 where
  kind : ContainerKind Object
  carrier : kind.Carrier

namespace Container

/-- Where the container's block starts, if it has one. -/
def own (container : Container Object) : List Nat := container.kind.own container.carrier

/-- The container is in order on the stack. -/
def Housed (container : Container Object) (stack : Stack Object) : Prop :=
  container.kind.Housed container.carrier stack

/-- What the container's owner can see of it. -/
def view (container : Container Object) (memory : Memory Object) : container.kind.View :=
  container.kind.view container.carrier memory

end Container

/-- A stack, the containers on it under their names, and where raw blocks start. The parties that share
the stack are the containers, and whoever holds the raw blocks. -/
structure SharedStack (Object : Type) : Type 1 where
  stack : Stack Object
  containers : Nat → Option (Container Object)
  raw : List Nat

namespace SharedStack
variable {session next : SharedStack Object} {party : Option Nat} {name : Nat}
  {container : Container Object}

/-- Where the blocks of a party start: of the container under a name, or of the holders of raw blocks. -/
def own (session : SharedStack Object) : Option Nat → List Nat
  | none => session.raw
  | some name => (session.containers name).elim [] Container.own

/-- The session with another container under a name, or with none, on a stack. -/
def put (session : SharedStack Object) (name : Nat) (container : Option (Container Object))
    (last : Stack Object) : SharedStack Object :=
  { session with stack := last, containers := Function.update session.containers name container }

/-- What a call on a container answers, and what is seen of the container then. -/
def outcome (session : SharedStack Object) (container : Container Object)
    (call : container.kind.Call α) : Except Fault α × container.kind.View :=
  let ran := call.operation.run (container.carrier, session.stack)
  (ran.result, container.kind.view ran.state.1 ran.state.2.memory)

/-- The session after a call on the container under a name. -/
def afterCall (session : SharedStack Object) (name : Nat) (container : Container Object)
    (call : container.kind.Call α) : SharedStack Object :=
  let last := (call.operation.run (container.carrier, session.stack)).state
  session.put name (some ⟨container.kind, last.1⟩) last.2

/-- The session after a container was to be built. One that cannot be leaves nothing under its name. -/
def afterBuild (session : SharedStack Object) (name : Nat) (kind : ContainerKind Object)
    (plan : kind.Plan) : SharedStack Object :=
  let ran := (kind.build plan).run (kind.blank, session.stack)
  session.put name
    (match ran.result with
      | .ok _ => some ⟨kind, ran.state.1⟩
      | .error _ => none)
    ran.state.2

/-- The session after the container under a name was disposed of. -/
def afterDispose (session : SharedStack Object) (name : Nat) (container : Container Object) :
    SharedStack Object :=
  session.put name none (container.kind.dispose.run (container.carrier, session.stack)).state.2

/-- The session after a call on the stack itself. -/
def afterRaw (session : SharedStack Object) (call : Stack.Call Object) : SharedStack Object :=
  let ran := call.operation.run session.stack
  { session with stack := ran.state, raw := call.starts ran.result session.raw }

/-- A call on the stack itself keeps off the containers' blocks: all blocks are given back at once only
where there is no container, no container's block is resized or given back, and all that is written to
are raw blocks. -/
structure Aside (session : SharedStack Object) (call : Stack.Call Object) : Prop where
  bulk : call.IsBulk → ∀ name, session.containers name = none
  addresses : ∀ address, call.Addresses address → ∀ name, address ∉ session.own (some name)
  targets : ∀ address, call.Targets address → ∃ start ∈ session.raw, ∃ size,
    Holds session.stack start size ∧ start ≤ address ∧ address < start + size

/-- What a party may do to the session at its turn. A container with a block is disposed of only while
its block is on top. -/
inductive Moves (session : SharedStack Object) : Option Nat → SharedStack Object → Prop where
  | raw (call : Stack.Call Object) (aside : session.Aside call) :
      Moves session none (session.afterRaw call)
  | built (name : Nat) (vacant : session.containers name = none) (kind : ContainerKind Object)
      (plan : kind.Plan) : Moves session (some name) (session.afterBuild name kind plan)
  | called {α : Type} (name : Nat) (container : Container Object)
      (placed : session.containers name = some container) (call : container.kind.Call α) :
      Moves session (some name) (session.afterCall name container call)
  | disposed (name : Nat) (container : Container Object)
      (placed : session.containers name = some container)
      (top : ∀ address ∈ container.own, session.stack.top = address) :
      Moves session (some name) (session.afterDispose name container)

/-- The sessions that begin with a new stack. -/
inductive Reachable : SharedStack Object → Prop where
  | created {capacity align : Nat} {config : StackConfig} {stack : Stack Object}
      {done : List (Effect Object)}
      (built : (Stack.create capacity align config).run () = ⟨.ok stack, (), done⟩) :
      Reachable ⟨stack, fun _ => none, []⟩
  | moved {session next : SharedStack Object} {party : Option Nat} (reached : Reachable session)
      (moves : session.Moves party next) : Reachable next

theorem own_some (placed : session.containers name = some container) :
    session.own (some name) = container.own := by
  rw [own, placed]
  rfl

theorem own_vacant (vacant : session.containers name = none) : session.own (some name) = [] := by
  rw [own, vacant]
  rfl

/-- Every container is in order, every live block belongs to a party, and no block to two. -/
structure Valid (session : SharedStack Object) : Prop where
  sound : Sound session.stack
  housed : ∀ name container, session.containers name = some container →
    container.Housed session.stack
  live : ∀ address ∈ session.raw, session.stack.Live address
  owned : ∀ address, session.stack.Live address → ∃ party, address ∈ session.own party
  apart : ∀ party other address, address ∈ session.own party → address ∈ session.own other →
    party = other

private theorem Valid.live_of_own (valid : session.Valid) {address : Nat}
    (mine : address ∈ session.own party) :
    session.stack.Live address := by
  cases party with
  | none => exact valid.live address mine
  | some name =>
    cases placed : session.containers name with
    | none =>
      rw [own_vacant placed] at mine
      cases mine
    | some container =>
      rw [own_some placed] at mine
      exact ContainerKind.Housed.live (valid.housed name container placed) address mine

/-- Without blocks in anybody's hands the stack is as it was in the beginning. -/
theorem Valid.offsets_of_bare (valid : session.Valid) (bare : ∀ party, session.own party = []) :
    session.stack.offsets = ⟨0, 0⟩ := by
  obtain ⟨blocks, stacked⟩ := valid.sound
  cases blocks with
  | nil =>
    exact stacked.chain.unique (.nil : Stack.Chain session.stack [] ⟨0, 0⟩)
  | cons block rest =>
    have alive : session.stack.Live block.start :=
      stacked.live_iff.mpr (List.mem_map_of_mem (List.mem_cons_self ..))
    obtain ⟨party, mine⟩ := valid.owned _ alive
    rw [bare party] at mine
    cases mine

/-- A party took its turn: what is under the other names is untouched, and so are raw blocks, unless it
was their holders' turn. -/
structure Moved (session : SharedStack Object) (party : Option Nat) (next : SharedStack Object) :
    Prop where
  turn : Stack.Turn (session.own party) (next.own party) session.stack next.stack
  raw : party ≠ none → next.raw = session.raw
  containers : ∀ name, party ≠ some name → next.containers name = session.containers name
  housed : ∀ name container, party = some name → next.containers name = some container →
    container.Housed next.stack

namespace Moved

theorem own_eq (moved : session.Moved party next) {other : Option Nat} (foreign : party ≠ other) :
    next.own other = session.own other := by
  cases other with
  | none => exact moved.raw foreign
  | some name => rw [own, own, moved.containers name foreign]

variable (moved : session.Moved party next) (valid : session.Valid)
include moved valid

theorem spared (foreign : party ≠ some name) (placed : session.containers name = some container) :
    container.Housed next.stack ∧
      container.view next.stack.memory = container.view session.stack.memory :=
  (valid.housed name container placed).spared moved.turn fun address mine others =>
    foreign (valid.apart _ _ address others ((own_some placed).symm ▸ mine))

theorem apart_of_mine {other : Option Nat} {address : Nat} (mine : address ∈ next.own party)
    (others : address ∈ next.own other) : party = other := by
  by_contra foreign
  rw [moved.own_eq foreign] at others
  have outside : address ∉ session.own party := fun old =>
    foreign (valid.apart _ _ address old others)
  exact moved.turn.fresh address outside (valid.live_of_own others) mine

theorem valid_after : next.Valid := by
  refine ⟨moved.turn.sound, ?_, ?_, ?_, ?_⟩
  · intro name container placed
    by_cases mine : party = some name
    · exact moved.housed name container mine placed
    · rw [moved.containers name mine] at placed
      exact (moved.spared valid mine placed).1
  · intro address held
    by_cases mine : party = none
    · subst mine
      exact moved.turn.live address held
    · rw [moved.raw mine] at held
      have outside : address ∉ session.own party := fun old => mine (valid.apart _ none address old held)
      exact (moved.turn.kept address 0 outside (valid.live address held)).holds
  · intro address alive
    rcases moved.turn.only address alive with mine | ⟨outside, lived⟩
    · exact ⟨party, mine⟩
    · obtain ⟨other, owned⟩ := valid.owned address lived
      have foreign : party ≠ other := fun same => outside (same ▸ owned)
      exact ⟨other, (moved.own_eq foreign).symm ▸ owned⟩
  -- The party that moved gained no block that another kept, and the others own what they owned.
  · intro first second address mine others
    by_cases first' : party = first
    · exact first' ▸ moved.apart_of_mine valid (first'.symm ▸ mine) others
    · by_cases second' : party = second
      · exact (second' ▸ moved.apart_of_mine valid (second'.symm ▸ others) mine).symm
      · rw [moved.own_eq first'] at mine
        rw [moved.own_eq second'] at others
        exact valid.apart first second address mine others

end Moved

theorem moved_put {replaced : Option (Container Object)} {last : Stack Object}
    (turn : Stack.Turn (session.own (some name)) (replaced.elim [] Container.own) session.stack last)
    (housed : ∀ container, replaced = some container → container.Housed last) :
    session.Moved (some name) (session.put name replaced last) := by
  have here : (session.put name replaced last).containers name = replaced :=
    Function.update_self ..
  refine ⟨?_, fun _ => rfl, fun other foreign => ?_, ?_⟩
  · have same : (session.put name replaced last).own (some name) = replaced.elim [] Container.own := by
      rw [own, here]
    exact same ▸ turn
  · exact Function.update_of_ne (fun same => foreign (congrArg some same.symm)) ..
  · rintro other container ⟨⟩ placed
    exact housed container (here.symm.trans placed)

theorem Valid.moved_raw (valid : session.Valid) {call : Stack.Call Object}
    (aside : session.Aside call) : session.Moved none (session.afterRaw call) := by
  obtain ⟨blocks, stacked⟩ := valid.sound
  refine ⟨?_, fun absent => (absent rfl).elim, fun _ _ => rfl, nofun⟩
  refine stacked.turn_of_call valid.live call ?_ ?_ ?_
  · intro bulk address alive
    obtain ⟨party, owned⟩ := valid.owned address alive
    cases party with
    | none => exact owned
    | some name =>
      rw [own_vacant (aside.bulk bulk name)] at owned
      cases owned
  · intro address alive addressed
    obtain ⟨party, owned⟩ := valid.owned address alive
    cases party with
    | none => exact owned
    | some name => exact (aside.addresses address addressed name owned).elim
  · intro address target
    obtain ⟨start, raw, size, held, low, high⟩ := aside.targets address target
    obtain ⟨block, live, rfl, fits⟩ := stacked.holds_iff.mp held
    exact ⟨block, live, raw, low, by omega⟩

/-- Whatever is done is a turn of the party that does it. -/
theorem Valid.moved (valid : session.Valid) (moves : session.Moves party next) :
    session.Moved party next := by
  cases moves with
  | raw call aside => exact valid.moved_raw aside
  | built name vacant kind plan =>
    rw [afterBuild]
    rcases kind.build_new plan valid.sound with
      ⟨fault, carrier, last, done, ran, turn⟩ | ⟨carrier, last, done, ran, housed, turn⟩
    · rw [ran]
      exact moved_put ((own_vacant vacant).symm ▸ turn) nofun
    · rw [ran]
      refine moved_put ((own_vacant vacant).symm ▸ turn) ?_
      rintro _ ⟨⟩
      exact housed
  | called name container placed call =>
    obtain ⟨housed, turn⟩ := (valid.housed name container placed).turn valid.sound call
    refine moved_put ((own_some placed).symm ▸ turn) ?_
    rintro _ ⟨⟩
    exact housed
  | disposed name container placed top =>
    have turn := (valid.housed name container placed).turn_of_dispose valid.sound top
    exact moved_put ((own_some placed).symm ▸ turn) nofun

theorem Reachable.valid (reached : session.Reachable) : session.Valid := by
  induction reached with
  | @created _ _ config _ _ built =>
    obtain ⟨shape, rfl⟩ := Stack.Session.eq_empty_of_create built
    have empty : Stack.Session.Valid ⟨(.empty shape config : Stack Object), []⟩ := .of_empty shape config
    refine ⟨empty.sound, nofun, nofun, fun address alive => ?_, ?_⟩
    · cases empty.live_iff.mp alive
    · rintro (_ | _) _ _ ⟨⟩
  | moved _ moves ih => exact (ih.moved moves).valid_after ih

end SharedStack
end Allotment
