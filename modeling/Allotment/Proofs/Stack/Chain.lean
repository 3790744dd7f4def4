import Mathlib.Data.List.Pairwise
import Allotment.Proofs.Stack.Outcome

/-! The live blocks of a stack and the headers between them. The header in front of a block records
the block below it, so the headers chain the blocks, last acquired first, down to the start of the
buffer. -/
namespace Allotment

/-- Where a block lies in the buffer. -/
@[ext]
structure Extent where
  start : Nat
  stop : Nat
  deriving DecidableEq

namespace Extent

/-- The address is one of the block's. -/
def Covers (block : Extent) (address : Nat) : Prop := block.start ≤ address ∧ address < block.stop

/-- The address is one of the block's header. -/
def Heads (block : Extent) (address : Nat) : Prop :=
  block.start ≤ address + headerSize ∧ address < block.start

end Extent

namespace Stack
variable {Object : Type} {stack other : Stack Object}

/-- Each header holds the offsets of the block below, which end at least a header's room in front of
the block; the block starts at the first aligned place behind that room. -/
inductive Chain (stack : Stack Object) : List Extent → Header → Prop where
  | nil : Chain stack [] ⟨0, 0⟩
  | cons {block : Extent} {rest : List Extent} {below : Header} (chained : Chain stack rest below)
      (header : stack.headerAt block.start = below)
      (room : below.used + headerSize ≤ block.start)
      (near : block.start < below.used + headerSize + stack.align)
      (aligned : stack.align ∣ block.start) (ordered : block.start ≤ block.stop) :
      Chain stack (block :: rest) ⟨block.start, block.stop⟩

namespace Chain
variable {blocks : List Extent} {offsets : Header}

theorem top_le_used (chain : Chain stack blocks offsets) : offsets.top ≤ offsets.used := by
  cases chain with
  | nil => exact Nat.le_refl 0
  | cons _ _ _ _ _ ordered => exact ordered

/-- No block starts at zero, where no header has room. -/
theorem top_eq_zero_iff (chain : Chain stack blocks offsets) : offsets.top = 0 ↔ blocks = [] := by
  cases chain with
  | nil => simp
  | cons _ _ room _ _ _ =>
    simp only [headerSize] at room
    simp only [reduceCtorEq, iff_false]
    omega

theorem head_start (chain : Chain stack blocks offsets) {block : Extent}
    (head : blocks.head? = some block) : offsets = ⟨block.start, block.stop⟩ := by
  cases chain with
  | nil => cases head
  | cons => cases head; rfl

theorem unique (chain : Chain stack blocks offsets) {others : Header}
    (second : Chain other blocks others) : offsets = others := by
  cases chain with
  | nil => cases second; rfl
  | cons => cases second; rfl

/-- The headers and the offsets of the stack say which blocks are live. -/
theorem determined (chain : Chain stack blocks offsets) {others : List Extent}
    (second : Chain stack others offsets) : blocks = others := by
  induction chain generalizing others with
  | nil => exact (second.top_eq_zero_iff.mp rfl).symm
  | @cons top rest below chained header room near aligned ordered ih =>
    generalize same : (⟨top.start, top.stop⟩ : Header) = offsets at second
    cases second with
    | nil =>
      have start : top.start = 0 := congrArg Header.top same
      simp only [headerSize] at room
      omega
    | @cons top' rest' below' chained' header' =>
      have start : top.start = top'.start := congrArg Header.top same
      have stop : top.stop = top'.stop := congrArg Header.used same
      have equal : top = top' := Extent.ext start stop
      subst equal
      rw [← header', header] at chained'
      rw [ih chained']

theorem bounds (chain : Chain stack blocks offsets) {block : Extent} (live : block ∈ blocks) :
    headerSize ≤ block.start ∧ block.start ≤ block.stop ∧ block.start ≤ offsets.top ∧
      block.stop ≤ offsets.used ∧ stack.align ∣ block.start := by
  induction chain with
  | nil => cases live
  | @cons top rest below chained header room near aligned ordered ih =>
    rcases List.mem_cons.mp live with same | deeper
    · subst same
      exact ⟨by omega, ordered, Nat.le_refl _, Nat.le_refl _, aligned⟩
    · obtain ⟨held, inOrder, start, stop, multiple⟩ := ih deeper
      have under : block.start ≤ top.start := by omega
      have within : block.stop ≤ top.stop := by omega
      exact ⟨held, inOrder, under, within, multiple⟩

/-- A block ends a header's room in front of every later one. -/
theorem separated (chain : Chain stack blocks offsets) :
    blocks.Pairwise fun upper lower => lower.stop + headerSize ≤ upper.start := by
  induction chain with
  | nil => exact List.Pairwise.nil
  | @cons top rest below chained header room near aligned ordered ih =>
    refine List.Pairwise.cons ?_ ih
    intro lower deeper
    have inside := (chained.bounds deeper).2.2.2.1
    omega

/-- The lower blocks are chained too, and end a header's room in front of every upper one. -/
theorem suffix {upper lower : List Extent} (chain : Chain stack (upper ++ lower) offsets) :
    ∃ below, Chain stack lower below ∧ below.used ≤ offsets.used ∧
      ∀ block ∈ upper, below.used + headerSize ≤ block.start := by
  induction upper generalizing offsets with
  | nil => exact ⟨offsets, chain, Nat.le_refl _, fun _ none => nomatch none⟩
  | cons top rest ih =>
    cases chain with
    | @cons _ _ next chained header room near aligned ordered =>
      obtain ⟨below, bottom, under, above⟩ := ih chained
      have within : below.used ≤ top.stop := by omega
      refine ⟨below, bottom, within, ?_⟩
      intro block live
      rcases List.mem_cons.mp live with same | deeper
      · subst same
        omega
      · exact above block deeper

/-- Two live blocks are the same, or one ends a header's room in front of the other. -/
theorem apart (chain : Chain stack blocks offsets) {first second : Extent} (live : first ∈ blocks)
    (alive : second ∈ blocks) :
    first = second ∨ first.stop + headerSize ≤ second.start ∨
      second.stop + headerSize ≤ first.start := by
  have symmetric : Std.Symm fun one other : Extent =>
      one.stop + headerSize ≤ other.start ∨ other.stop + headerSize ≤ one.start :=
    ⟨fun _ _ => Or.symm⟩
  have either : blocks.Pairwise fun one other =>
      one.stop + headerSize ≤ other.start ∨ other.stop + headerSize ≤ one.start :=
    chain.separated.imp Or.inr
  by_cases same : first = second
  · exact .inl same
  · exact .inr (either.forall live alive same)

theorem eq_of_start (chain : Chain stack blocks offsets) {first second : Extent}
    (live : first ∈ blocks) (alive : second ∈ blocks) (same : first.start = second.start) :
    first = second := by
  have order := (chain.bounds live).2.1
  have order' := (chain.bounds alive).2.1
  rcases chain.apart live alive with equal | before | behind
  · exact equal
  · simp only [headerSize] at before
    omega
  · simp only [headerSize] at behind
    omega

/-- No byte of a live block belongs to a header. -/
theorem not_heads_of_covers (chain : Chain stack blocks offsets) {block other : Extent}
    (live : block ∈ blocks) (alive : other ∈ blocks) {address : Nat} (covered : block.Covers address) :
    ¬ other.Heads address := by
  rintro ⟨first, last⟩
  obtain ⟨from_start, to_stop⟩ := covered
  have order := (chain.bounds alive).2.1
  rcases chain.apart live alive with same | before | behind
  · subst same
    omega
  · omega
  · omega

/-- The headers alone carry the chain. -/
theorem transport (chain : Chain stack blocks offsets) (shape : other.shape = stack.shape)
    (agree : ∀ block ∈ blocks, ∀ address, block.Heads address →
      other.memory.load address = stack.memory.load address) : Chain other blocks offsets := by
  have align : other.align = stack.align := congrArg StackShape.align shape
  induction chain with
  | nil => exact .nil
  | @cons top rest below chained header room near aligned ordered ih =>
    have same : other.headerAt top.start = stack.headerAt top.start :=
      headerAt_congr (by omega) fun address first last =>
        agree top (List.mem_cons_self ..) address ⟨first, last⟩
    refine .cons (ih fun block deeper => agree block (List.mem_cons_of_mem _ deeper))
      (same.trans header) room ?_ ?_ ordered
    · rw [align]
      exact near
    · rw [align]
      exact aligned

theorem transport_of_below (chain : Chain stack blocks offsets) (shape : other.shape = stack.shape)
    (agree : ∀ address, address < offsets.top →
      other.memory.load address = stack.memory.load address) : Chain other blocks offsets := by
  refine chain.transport shape fun block live address heads => agree address ?_
  have bounds := chain.bounds live
  have below := heads.2
  omega

end Chain

/-- Going down from an offset, header by header, visits these offsets and comes to an end. -/
inductive Walk (stack : Stack Object) : Nat → List Nat → Prop where
  | done : Walk stack 0 []
  | visit {offset : Nat} {visited : List Nat} (live : offset ≠ 0)
      (rest : Walk stack (stack.headerAt offset).top visited) :
      Walk stack offset (offset :: visited)

theorem Walk.unique {offset : Nat} {first second : List Nat} (walk : Walk stack offset first)
    (again : Walk stack offset second) : first = second := by
  induction walk generalizing second with
  | done =>
    cases again with
    | done => rfl
    | visit live _ => exact absurd rfl live
  | @visit offset visited live rest ih =>
    cases again with
    | done => exact absurd rfl live
    | visit _ rest' => rw [ih rest']

theorem Chain.walk {blocks : List Extent} {offsets : Header} (chain : Chain stack blocks offsets) :
    Walk stack offsets.top (blocks.map Extent.start) := by
  induction chain with
  | nil => exact .done
  | @cons top rest below chained header room near aligned ordered ih =>
    rw [← header] at ih
    exact .visit (by change top.start ≠ 0; simp only [headerSize] at room; omega) ih

/-- The walk down from the block on top visits exactly the live blocks. -/
theorem Chain.walk_iff {blocks : List Extent} {offsets : Header}
    (chain : Chain stack blocks offsets) {visited : List Nat} :
    Walk stack offsets.top visited ↔ visited = blocks.map Extent.start := by
  constructor
  · intro walk
    exact walk.unique chain.walk
  · intro same
    rw [same]
    exact chain.walk

end Stack
end Allotment
