import Allotment.Pool.Id
import Allotment.Pool.Slot

namespace Allotment

namespace Slot
variable {T : Type}

/-- A value is in the slot. -/
def isOccupied (slot : Slot T) : Bool :=
  match slot.state with
  | .occupied _ => true
  | .free _ => false

@[simp] theorem valueAt?_free (held generation : UInt32) (next : Option UInt32) :
    valueAt? (⟨held, .free next⟩ : Slot T) generation = none := rfl

theorem valueAt?_occupied (held generation : UInt32) (value : T) :
    valueAt? (⟨held, .occupied value⟩ : Slot T) generation =
      if held = generation then some value else none := rfl

theorem valueAt?_eq_some_iff {slot : Slot T} {generation : UInt32} {value : T} :
    slot.valueAt? generation = some value ↔ slot = ⟨generation, .occupied value⟩ := by
  match slot with
  | ⟨_, .free _⟩ => simp [valueAt?]
  | ⟨held, .occupied other⟩ =>
    simp only [valueAt?, mk.injEq, SlotState.occupied.injEq]
    split
    · next same => simp [same]
    · next differ => simp [differ]

end Slot

/-- What a pool keeps of its slots. -/
@[ext]
structure SlotTable (T : Type) where
  slots : List (Slot T)
  freeHead : Option UInt32
  length : Nat

namespace SlotTable
variable {T : Type} {table : SlotTable T} {slots : List (Slot T)} {head : Option UInt32}
  {free : List Nat}

/-- Following the links from a head visits these indices. -/
inductive FreeList (slots : List (Slot T)) : Option UInt32 → List Nat → Prop where
  | done : FreeList slots none []
  | visit {index generation : UInt32} {next : Option UInt32} {rest : List Nat}
      (found : slots[index.toNat]? = some ⟨generation, .free next⟩)
      (linked : FreeList slots next rest) : FreeList slots (some index) (index.toNat :: rest)

namespace FreeList

theorem set (linked : FreeList slots head free) {index : Nat} (outside : index ∉ free)
    (slot : Slot T) : FreeList (slots.set index slot) head free := by
  induction linked with
  | done => exact .done
  | visit found _ ih =>
    have other := List.ne_of_not_mem_cons outside
    have deeper := List.not_mem_of_not_mem_cons outside
    exact .visit ((List.getElem?_set_ne other).trans found) (ih deeper)

private theorem append (linked : FreeList slots head free) (more : List (Slot T)) :
    FreeList (slots ++ more) head free := by
  induction linked with
  | done => exact .done
  | visit found _ ih =>
    obtain ⟨inside, _⟩ := List.getElem?_eq_some_iff.mp found
    exact .visit ((List.getElem?_append_left inside).trans found) ih

end FreeList

/-- The value behind an identifier. -/
def get? (table : SlotTable T) (id : ResourceId) : Option T :=
  table.slots[id.index.toNat]?.bind (·.valueAt? id.generation)

theorem get?_eq_some_iff {id : ResourceId} {value : T} :
    table.get? id = some value ↔
      table.slots[id.index.toNat]? = some ⟨id.generation, .occupied value⟩ := by
  simp only [get?, Option.bind_eq_some_iff, Slot.valueAt?_eq_some_iff]
  constructor
  · rintro ⟨slot, found, rfl⟩
    exact found
  · intro found
    exact ⟨_, found, rfl⟩

/-- The values with their identifiers, in slot order. -/
def entries (table : SlotTable T) : List (ResourceId × T) :=
  table.slots.zipIdx.filterMap fun (slot, index) =>
    match slot.state with
    | .occupied value => some (⟨.ofNat index, slot.generation⟩, value)
    | .free _ => none

section Changes
variable (table : SlotTable T) (id : ResourceId) (value : T)

/-- The table once a value is in a free slot. -/
def reused (next : Option UInt32) : SlotTable T :=
  ⟨table.slots.set id.index.toNat ⟨id.generation, .occupied value⟩, next, table.length + 1⟩

/-- The table with one more slot. -/
def appended : SlotTable T :=
  ⟨table.slots ++ [⟨0, .occupied value⟩], table.freeHead, table.length + 1⟩

/-- The table with another value behind an identifier. -/
def overwritten : SlotTable T :=
  { table with slots := table.slots.set id.index.toNat ⟨id.generation, .occupied value⟩ }

/-- The table once the value behind an identifier was taken out. -/
def removed : SlotTable T :=
  ⟨table.slots.set id.index.toNat ⟨id.generation + 1, .free table.freeHead⟩, some id.index,
    table.length - 1⟩

end Changes

/-- No value is in the slot at an index. -/
def FreeAt (slots : List (Slot T)) (index : Nat) : Prop :=
  ∃ slot, slots[index]? = some slot ∧ slot.isOccupied = false

theorem freeAt_set {index : Nat} (inside : index < slots.length) (slot : Slot T) (other : Nat) :
    FreeAt (slots.set index slot) other ↔
      if index = other then slot.isOccupied = false else FreeAt slots other := by
  by_cases same : index = other
  · subst same
    rw [if_pos rfl, FreeAt, List.getElem?_set_self inside]
    simp
  · rw [if_neg same, FreeAt, List.getElem?_set_ne same, FreeAt]

private theorem freeAt_concat (slots : List (Slot T)) {slot : Slot T} (occupied : slot.isOccupied = true)
    (other : Nat) : FreeAt (slots ++ [slot]) other ↔ FreeAt slots other := by
  rw [FreeAt, FreeAt, List.getElem?_append]
  by_cases inside : other < slots.length
  · rw [if_pos inside]
  · rw [if_neg inside, List.getElem?_eq_none (Nat.le_of_not_lt inside), List.getElem?_singleton]
    by_cases next : other - slots.length = 0 <;> simp [next, occupied]

theorem not_freeAt_of_live {id : ResourceId} {value : T} (live : table.get? id = some value) :
    ¬ FreeAt table.slots id.index.toNat := by
  rintro ⟨slot, found, vacant⟩
  rw [get?_eq_some_iff.mp live] at found
  cases found
  cases vacant

/-- The free list visits exactly the free slots, each once; the length counts the others, and an index
fits its 32 bits. -/
structure Valid (table : SlotTable T) : Prop where
  chained : ∃ free, FreeList table.slots table.freeHead free ∧ free.Nodup ∧
    ∀ index, index ∈ free ↔ FreeAt table.slots index
  length : table.length = table.slots.countP Slot.isOccupied
  small : table.slots.length < 2 ^ (32 : Nat)

section Lookups
variable {id : ResourceId} {value : T} {old slot : Slot T}

theorem get?_of_set {changed : SlotTable T} (found : table.slots[id.index.toNat]? = some old)
    (slots : changed.slots = table.slots.set id.index.toNat slot)
    (agree : ∀ generation, generation ≠ id.generation →
      slot.valueAt? generation = old.valueAt? generation) (other : ResourceId) :
    changed.get? other = if other = id then slot.valueAt? id.generation else table.get? other := by
  obtain ⟨inside, _⟩ := List.getElem?_eq_some_iff.mp found
  by_cases same : other = id
  · subst same
    rw [if_pos rfl, get?, slots, List.getElem?_set_self inside, Option.bind_some]
  · rw [if_neg same, get?, get?, slots]
    by_cases index : id.index.toNat = other.index.toNat
    · have generation : other.generation ≠ id.generation := fun equal =>
        same (ResourceId.ext (UInt32.toNat_inj.mp index.symm) equal)
      rw [← index, List.getElem?_set_self inside, found, Option.bind_some, Option.bind_some,
        agree _ generation]
    · rw [List.getElem?_set_ne index]

theorem get?_reused {next : Option UInt32}
    (found : table.slots[id.index.toNat]? = some ⟨id.generation, .free next⟩) (other : ResourceId) :
    (table.reused id value next).get? other = if other = id then some value else table.get? other := by
  rw [get?_of_set found rfl fun generation differ => ?_, Slot.valueAt?_occupied, if_pos rfl]
  rw [Slot.valueAt?_occupied, if_neg differ.symm, Slot.valueAt?_free]

theorem get?_overwritten (live : table.get? id = some value) (changed : T) (other : ResourceId) :
    (table.overwritten id changed).get? other =
      if other = id then some changed else table.get? other := by
  rw [get?_of_set (get?_eq_some_iff.mp live) rfl fun generation differ => ?_,
    Slot.valueAt?_occupied, if_pos rfl]
  rw [Slot.valueAt?_occupied, if_neg differ.symm, Slot.valueAt?_occupied, if_neg differ.symm]

theorem get?_removed (live : table.get? id = some value) (other : ResourceId) :
    (table.removed id).get? other = if other = id then none else table.get? other := by
  rw [get?_of_set (get?_eq_some_iff.mp live) rfl fun generation differ => ?_, Slot.valueAt?_free]
  rw [Slot.valueAt?_free, Slot.valueAt?_occupied, if_neg differ.symm]

/-- The identifier of the next new slot. -/
def nextId (table : SlotTable T) : ResourceId := ⟨.ofNat table.slots.length, 0⟩

theorem get?_appended (small : table.slots.length < 2 ^ (32 : Nat)) (other : ResourceId) :
    (table.appended value).get? other =
      if other = table.nextId then some value else table.get? other := by
  have index : table.nextId.index.toNat = table.slots.length :=
    UInt32.toNat_ofNat_of_lt' small
  have appended : (table.appended value).slots = table.slots ++ [⟨0, .occupied value⟩] := rfl
  rw [get?, get?, appended]
  by_cases last : other.index.toNat = table.slots.length
  · rw [last, List.getElem?_concat_length, Option.bind_some, Slot.valueAt?_occupied,
      List.getElem?_eq_none (Nat.le_refl _), Option.bind_none]
    have iff : other = table.nextId ↔ 0 = other.generation := by
      constructor
      · rintro rfl
        rfl
      · intro generation
        exact ResourceId.ext (UInt32.toNat_inj.mp (last.trans index.symm)) generation.symm
    simp only [iff]
  · have different : other ≠ table.nextId := fun same => last (same ▸ index)
    rw [if_neg different]
    by_cases inside : other.index.toNat < table.slots.length
    · rw [List.getElem?_append_left inside]
    · rw [List.getElem?_eq_none (by rw [List.length_append, List.length_singleton]; omega),
        List.getElem?_eq_none (Nat.le_of_not_lt inside)]

end Lookups

namespace Valid
variable {id : ResourceId} {value : T}

theorem empty : Valid (⟨[], none, 0⟩ : SlotTable T) :=
  ⟨⟨[], .done, .nil, fun index => by simp [FreeAt]⟩, rfl, by simp⟩

/-- The head of the free list is a free slot, and the slot it links to is the next head. -/
theorem reused (valid : table.Valid) {next : Option UInt32} (head : table.freeHead = some id.index)
    (found : table.slots[id.index.toNat]? = some ⟨id.generation, .free next⟩) :
    (table.reused id value next).Valid := by
  obtain ⟨inside, held⟩ := List.getElem?_eq_some_iff.mp found
  obtain ⟨free, linked, nodup, complete⟩ := valid.chained
  rw [head] at linked
  cases linked with
  | @visit _ generation next' rest found' linked' =>
    rw [found] at found'
    cases found'
    obtain ⟨outside, nodup'⟩ := List.nodup_cons.mp nodup
    refine ⟨⟨rest, linked'.set outside _, nodup', ?_⟩, ?_, ?_⟩
    · intro index
      have before := complete index
      rw [List.mem_cons] at before
      refine Iff.trans ?_ (freeAt_set inside _ index).symm
      by_cases same : id.index.toNat = index
      · subst same
        simp [outside, Slot.isOccupied]
      · rw [if_neg same, ← before, or_iff_right (Ne.symm same)]
    · change table.length + 1 = (table.slots.set _ _).countP Slot.isOccupied
      rw [List.countP_set inside, held, valid.length]
      rfl
    · change (table.slots.set _ _).length < 2 ^ (32 : Nat)
      rw [List.length_set]
      exact valid.small

theorem appended (valid : table.Valid) (room : table.slots.length + 1 < 2 ^ (32 : Nat)) :
    (table.appended value).Valid := by
  obtain ⟨free, linked, nodup, complete⟩ := valid.chained
  refine ⟨⟨free, linked.append _, nodup, ?_⟩, ?_, ?_⟩
  · intro index
    rw [complete index]
    exact (freeAt_concat table.slots rfl index).symm
  · change table.length + 1 = (table.slots ++ [_]).countP Slot.isOccupied
    rw [List.countP_append, valid.length]
    rfl
  · change (table.slots ++ [_]).length < 2 ^ (32 : Nat)
    rw [List.length_append]
    exact room

theorem length_pos (valid : table.Valid) (live : table.get? id = some value) : 0 < table.length := by
  have found := List.mem_of_getElem? (get?_eq_some_iff.mp live)
  rw [valid.length]
  exact List.countP_pos_iff.mpr ⟨_, found, rfl⟩

theorem overwritten (valid : table.Valid) (live : table.get? id = some value) (changed : T) :
    (table.overwritten id changed).Valid := by
  obtain ⟨inside, held⟩ := List.getElem?_eq_some_iff.mp (get?_eq_some_iff.mp live)
  obtain ⟨free, linked, nodup, complete⟩ := valid.chained
  have occupied : id.index.toNat ∉ free := fun member =>
    not_freeAt_of_live live ((complete _).mp member)
  refine ⟨⟨free, linked.set occupied _, nodup, ?_⟩, ?_, ?_⟩
  · intro index
    refine Iff.trans ?_ (freeAt_set inside _ index).symm
    by_cases same : id.index.toNat = index
    · subst same
      simp [occupied, Slot.isOccupied]
    · rw [if_neg same, complete index]
  · change table.length = (table.slots.set _ _).countP Slot.isOccupied
    have counted : 0 < table.slots.countP Slot.isOccupied := valid.length ▸ valid.length_pos live
    rw [List.countP_set inside, held, valid.length]
    exact (Nat.sub_add_cancel counted).symm
  · change (table.slots.set _ _).length < 2 ^ (32 : Nat)
    rw [List.length_set]
    exact valid.small

theorem removed (valid : table.Valid) (live : table.get? id = some value) :
    (table.removed id).Valid := by
  obtain ⟨inside, held⟩ := List.getElem?_eq_some_iff.mp (get?_eq_some_iff.mp live)
  obtain ⟨free, linked, nodup, complete⟩ := valid.chained
  have occupied : id.index.toNat ∉ free := fun member =>
    not_freeAt_of_live live ((complete _).mp member)
  refine ⟨⟨id.index.toNat :: free, .visit (List.getElem?_set_self inside) (linked.set occupied _),
    List.nodup_cons.mpr ⟨occupied, nodup⟩, ?_⟩, ?_, ?_⟩
  · intro index
    refine Iff.trans ?_ (freeAt_set inside _ index).symm
    rw [List.mem_cons]
    by_cases same : id.index.toNat = index
    · subst same
      simp [Slot.isOccupied]
    · rw [if_neg same, complete index, or_iff_right (Ne.symm same)]
  · change table.length - 1 = (table.slots.set _ _).countP Slot.isOccupied
    rw [List.countP_set inside, held, valid.length]
    rfl
  · change (table.slots.set _ _).length < 2 ^ (32 : Nat)
    rw [List.length_set]
    exact valid.small

theorem length_of_no_free (valid : table.Valid) (none : table.freeHead = none) :
    table.length = table.slots.length := by
  obtain ⟨free, linked, _, complete⟩ := valid.chained
  rw [none] at linked
  cases linked
  rw [valid.length, List.countP_eq_length]
  intro slot member
  obtain ⟨index, found⟩ := List.mem_iff_getElem?.mp member
  cases vacant : slot.isOccupied with
  | true => rfl
  | false => exact absurd ((complete index).mpr ⟨slot, found, vacant⟩) List.not_mem_nil

/-- A free slot is where the free list begins. -/
theorem head_free (valid : table.Valid) {index : UInt32} (head : table.freeHead = some index) :
    ∃ generation next, table.slots[index.toNat]? = some ⟨generation, .free next⟩ := by
  obtain ⟨free, linked, _, _⟩ := valid.chained
  rw [head] at linked
  cases linked with
  | visit found _ => exact ⟨_, _, found⟩

end Valid

/-- Where a table takes a new value: into the slot at the head of the free list, or into a new one. -/
inductive Inserted (table : SlotTable T) (value : T) : ResourceId → SlotTable T → Prop where
  | reused {id : ResourceId} {next : Option UInt32} (head : table.freeHead = some id.index)
      (found : table.slots[id.index.toNat]? = some ⟨id.generation, .free next⟩) :
      Inserted table value id (table.reused id value next)
  | appended (room : table.slots.length + 1 < 2 ^ (32 : Nat)) :
      Inserted table value table.nextId (table.appended value)

namespace Inserted
variable {id : ResourceId} {value : T} {larger : SlotTable T}

theorem valid (inserted : table.Inserted value id larger) (valid : table.Valid) : larger.Valid := by
  cases inserted with
  | reused head found => exact valid.reused head found
  | appended room => exact valid.appended room

theorem get?_eq (inserted : table.Inserted value id larger) (valid : table.Valid)
    (other : ResourceId) : larger.get? other = if other = id then some value else table.get? other := by
  cases inserted with
  | reused _ found => exact get?_reused found other
  | appended _ => exact get?_appended valid.small other

theorem vacant (inserted : table.Inserted value id larger) (valid : table.Valid) :
    table.get? id = none := by
  cases inserted with
  | reused _ found => rw [get?, found, Option.bind_some, Slot.valueAt?_free]
  | appended _ =>
    have index : table.nextId.index.toNat = table.slots.length :=
      UInt32.toNat_ofNat_of_lt' valid.small
    rw [get?, index, List.getElem?_eq_none (Nat.le_refl _), Option.bind_none]

end Inserted

section Entries
variable {id : ResourceId} {value : T}

theorem mem_entries_iff (small : table.slots.length < 2 ^ (32 : Nat)) :
    (id, value) ∈ table.entries ↔ table.get? id = some value := by
  rw [get?_eq_some_iff, entries, List.mem_filterMap]
  constructor
  · rintro ⟨⟨slot, index⟩, member, held⟩
    have found := List.mk_mem_zipIdx_iff_getElem?.mp member
    obtain ⟨inside, _⟩ := List.getElem?_eq_some_iff.mp found
    match slot, held with
    | ⟨generation, .occupied _⟩, rfl =>
      change table.slots[(UInt32.ofNat index).toNat]? = _
      rw [UInt32.toNat_ofNat_of_lt' (Nat.lt_trans inside small)]
      exact found
  · intro found
    refine ⟨(⟨id.generation, .occupied value⟩, id.index.toNat),
      List.mk_mem_zipIdx_iff_getElem?.mpr found, ?_⟩
    simp

theorem entries_sorted (small : table.slots.length < 2 ^ (32 : Nat)) :
    table.entries.Pairwise fun first second => first.1.index < second.1.index := by
  have sorted : table.slots.zipIdx.Pairwise fun first second => first.2 < second.2 := by
    have indices : (table.slots.zipIdx.map Prod.snd).Pairwise (· < ·) := by
      rw [List.zipIdx_map_snd]
      exact List.pairwise_lt_range'
    exact List.pairwise_map.mp indices
  apply List.pairwise_filterMap.mpr
  apply sorted.imp_of_mem
  intro first second member member' before
  obtain ⟨slot, index⟩ := first
  obtain ⟨slot', index'⟩ := second
  obtain ⟨inside, _⟩ := List.getElem?_eq_some_iff.mp (List.mk_mem_zipIdx_iff_getElem?.mp member)
  obtain ⟨inside', _⟩ := List.getElem?_eq_some_iff.mp (List.mk_mem_zipIdx_iff_getElem?.mp member')
  intro entry held entry' held'
  match slot, slot', held, held' with
  | ⟨_, .occupied _⟩, ⟨_, .occupied _⟩, rfl, rfl =>
    change UInt32.ofNat index < UInt32.ofNat index'
    rw [UInt32.lt_iff_toNat_lt, UInt32.toNat_ofNat_of_lt' (Nat.lt_trans inside small),
      UInt32.toNat_ofNat_of_lt' (Nat.lt_trans inside' small)]
    exact before

theorem length_entries (table : SlotTable T) :
    table.entries.length = table.slots.countP Slot.isOccupied := by
  have slots : table.slots.countP Slot.isOccupied =
      table.slots.zipIdx.countP (Slot.isOccupied ∘ Prod.fst) := by
    rw [← List.countP_map, List.zipIdx_map_fst]
  rw [entries, List.length_filterMap_eq_countP, slots]
  apply List.countP_congr
  intro pair _
  obtain ⟨⟨generation, state⟩, index⟩ := pair
  cases state <;> simp [Slot.isOccupied]

end Entries
end SlotTable
end Allotment
