import Mathlib.Data.Finmap
import Allotment.Proofs.Pool.SlotTable

namespace Allotment

/-- The values held under their identifiers, with all identifiers ever issued and ever freed. -/
structure Registry (T : Type) where
  live : Finmap fun _ : ResourceId => T
  issued : List ResourceId
  freed : List ResourceId

namespace Registry
variable {T : Type} {registry : Registry T} {table : SlotTable T} {id : ResourceId} {value : T}

/-- Nothing was issued yet. -/
def blank (T : Type) : Registry T := ⟨∅, [], []⟩

/-- How often the slot at an index was freed. -/
def frees (registry : Registry T) (index : Nat) : Nat :=
  registry.freed.countP fun id => id.index.toNat == index

/-- Binds a value to a new identifier. -/
def issue (registry : Registry T) (id : ResourceId) (value : T) : Registry T :=
  ⟨registry.live.insert id value, id :: registry.issued, registry.freed⟩

/-- Binds another value to an identifier. -/
def assign (registry : Registry T) (id : ResourceId) (value : T) : Registry T :=
  { registry with live := registry.live.insert id value }

/-- Takes a binding away. -/
def free (registry : Registry T) (id : ResourceId) : Registry T :=
  ⟨registry.live.erase id, registry.issued, id :: registry.freed⟩

/-- Under each identifier the table has the value of the map. The generation of a slot is the number
of times it was freed; identifiers that were issued are not of a later generation, and the freed ones
are of an earlier one. -/
structure Describes (registry : Registry T) (table : SlotTable T) : Prop where
  valid : table.Valid
  resolves : ∀ id, table.get? id = registry.live.lookup id
  generations : ∀ index slot, table.slots[index]? = some slot →
    slot.generation.toNat = registry.frees index
  issued : ∀ id ∈ registry.issued, ∃ slot, table.slots[id.index.toNat]? = some slot ∧
    (id.generation < slot.generation ∨ id.generation = slot.generation ∧ slot.isOccupied = true)
  freed : ∀ id ∈ registry.freed, ∃ slot, table.slots[id.index.toNat]? = some slot ∧
    id.generation < slot.generation
  distinct : registry.issued.Nodup

theorem lookup_insert_eq (map : Finmap fun _ : ResourceId => T) (other : ResourceId) :
    (map.insert id value).lookup other = if other = id then some value else map.lookup other := by
  by_cases same : other = id
  · rw [if_pos same, same, Finmap.lookup_insert]
  · rw [if_neg same, Finmap.lookup_insert_of_ne _ same]

private theorem lookup_erase_eq (map : Finmap fun _ : ResourceId => T) (other : ResourceId) :
    (map.erase id).lookup other = if other = id then none else map.lookup other := by
  by_cases same : other = id
  · rw [if_pos same, same, Finmap.lookup_erase]
  · rw [if_neg same, Finmap.lookup_erase_ne same]

section Replacement
variable {slots : List (Slot T)} {index : Nat} {old : Slot T}

theorem exists_set (holds : Slot T → Prop) (new : Slot T) (found : slots[index]? = some old)
    (inherits : holds old → holds new) {other : Nat}
    (before : ∃ slot, slots[other]? = some slot ∧ holds slot) :
    ∃ slot, (slots.set index new)[other]? = some slot ∧ holds slot := by
  obtain ⟨slot, held, property⟩ := before
  obtain ⟨inside, _⟩ := List.getElem?_eq_some_iff.mp found
  by_cases same : index = other
  · subst same
    rw [found] at held
    cases held
    exact ⟨new, List.getElem?_set_self inside, inherits property⟩
  · exact ⟨slot, (List.getElem?_set_ne same).trans held, property⟩

theorem forall_set {new : Slot T} (found : slots[index]? = some old) {holds : Nat → Slot T → Prop}
    (replaced : holds index new)
    (kept : ∀ other slot, other ≠ index → slots[other]? = some slot → holds other slot) (other : Nat)
    (slot : Slot T) (held : (slots.set index new)[other]? = some slot) : holds other slot := by
  obtain ⟨inside, _⟩ := List.getElem?_eq_some_iff.mp found
  by_cases same : index = other
  · subst same
    rw [List.getElem?_set_self inside] at held
    cases held
    exact replaced
  · rw [List.getElem?_set_ne same] at held
    exact kept other slot (Ne.symm same) held

end Replacement

namespace Describes

theorem blank : (Registry.blank T).Describes ⟨[], none, 0⟩ :=
  ⟨.empty, fun _ => rfl, fun _ _ held => by simp at held, nofun, nofun, .nil⟩

/-- A free slot takes a value under an identifier that was never issued. -/
theorem reused (describes : registry.Describes table) {next : Option UInt32}
    (head : table.freeHead = some id.index)
    (found : table.slots[id.index.toNat]? = some ⟨id.generation, .free next⟩) (value : T) :
    id ∉ registry.issued ∧ (registry.issue id value).Describes (table.reused id value next) := by
  have fresh : id ∉ registry.issued := by
    intro member
    obtain ⟨slot, held, earlier | ⟨_, occupied⟩⟩ := describes.issued id member
    · rw [found] at held
      cases held
      exact UInt32.lt_irrefl _ earlier
    · rw [found] at held
      cases held
      cases occupied
  have generation : id.generation.toNat = registry.frees id.index.toNat :=
    describes.generations _ _ found
  refine ⟨fresh, describes.valid.reused head found, ?_,
    forall_set found generation fun other slot _ => describes.generations other slot, ?_, ?_,
    List.nodup_cons.mpr ⟨fresh, describes.distinct⟩⟩
  · intro other
    rw [SlotTable.get?_reused found, describes.resolves, issue, lookup_insert_eq]
  · intro other member
    rcases List.mem_cons.mp member with rfl | older
    · obtain ⟨inside, _⟩ := List.getElem?_eq_some_iff.mp found
      exact ⟨_, List.getElem?_set_self inside, .inr ⟨rfl, rfl⟩⟩
    · refine exists_set _ _ found ?_ (describes.issued other older)
      intro before
      rcases before with earlier | ⟨_, occupied⟩
      · exact .inl earlier
      · cases occupied
  · intro other member
    exact exists_set (other.generation < ·.generation) ⟨id.generation, .occupied value⟩ found
      (fun earlier => earlier) (describes.freed other member)

theorem appended (describes : registry.Describes table) (room : table.slots.length + 1 < 2 ^ (32 : Nat))
    (value : T) :
    table.nextId ∉ registry.issued ∧
      (registry.issue table.nextId value).Describes (table.appended value) := by
  have index : table.nextId.index.toNat = table.slots.length :=
    UInt32.toNat_ofNat_of_lt' describes.valid.small
  have inside : ∀ {other : ResourceId} {holds : Slot T → Prop},
      (∃ slot, table.slots[other.index.toNat]? = some slot ∧ holds slot) →
        other.index.toNat < table.slots.length := by
    rintro other holds ⟨slot, found, _⟩
    exact (List.getElem?_eq_some_iff.mp found).1
  have fresh : table.nextId ∉ registry.issued := fun member =>
    absurd (inside (describes.issued _ member)) (by omega)
  have extends' : ∀ {other : ResourceId} {holds : Slot T → Prop},
      (∃ slot, table.slots[other.index.toNat]? = some slot ∧ holds slot) →
        ∃ slot, (table.slots ++ [⟨0, .occupied value⟩])[other.index.toNat]? = some slot ∧
          holds slot := by
    intro other holds before
    have below := inside before
    obtain ⟨slot, found, property⟩ := before
    exact ⟨slot, (List.getElem?_append_left below).trans found, property⟩
  have unfreed : registry.frees table.slots.length = 0 := by
    apply List.countP_eq_zero.mpr
    intro other member
    have below := inside (describes.freed other member)
    simp only [beq_iff_eq]
    omega
  refine ⟨fresh, describes.valid.appended room, ?_, ?_, ?_,
    fun other member => extends' (describes.freed other member),
    List.nodup_cons.mpr ⟨fresh, describes.distinct⟩⟩
  · intro other
    rw [SlotTable.get?_appended describes.valid.small, describes.resolves, issue, lookup_insert_eq]
  · intro position slot held
    by_cases last : position = table.slots.length
    · subst last
      have same : slot = ⟨0, .occupied value⟩ :=
        Option.some.inj (held.symm.trans List.getElem?_concat_length)
      subst same
      exact unfreed.symm
    · have below : position < table.slots.length + 1 := by
        have within := (List.getElem?_eq_some_iff.mp held).1
        rwa [SlotTable.appended, List.length_append] at within
      refine describes.generations position slot (.trans ?_ held)
      exact (List.getElem?_append_left (by omega)).symm
  · intro other member
    rcases List.mem_cons.mp member with rfl | older
    · refine ⟨⟨0, .occupied value⟩, ?_, .inr ⟨rfl, rfl⟩⟩
      rw [index]
      exact List.getElem?_concat_length
    · exact extends' (describes.issued other older)

theorem inserted (describes : registry.Describes table) {larger : SlotTable T}
    (inserted : table.Inserted value id larger) :
    id ∉ registry.issued ∧ (registry.issue id value).Describes larger := by
  cases inserted with
  | reused head found => exact describes.reused head found value
  | appended room => exact describes.appended room value

theorem overwritten (describes : registry.Describes table) (live : table.get? id = some value)
    (changed : T) : (registry.assign id changed).Describes (table.overwritten id changed) := by
  have found := SlotTable.get?_eq_some_iff.mp live
  have generation : id.generation.toNat = registry.frees id.index.toNat :=
    describes.generations _ _ found
  refine ⟨describes.valid.overwritten live changed, fun other => ?_,
    forall_set found generation fun other slot _ => describes.generations other slot,
    fun other member => exists_set _ ⟨id.generation, .occupied changed⟩ found (fun before => before)
      (describes.issued other member),
    fun other member => exists_set (other.generation < ·.generation)
      ⟨id.generation, .occupied changed⟩ found (fun earlier => earlier) (describes.freed other member),
    describes.distinct⟩
  rw [SlotTable.get?_overwritten live, describes.resolves, assign, lookup_insert_eq]

/-- The value under a live identifier is taken out, and no identifier issued so far finds the slot. -/
theorem removed (describes : registry.Describes table) (live : table.get? id = some value)
    (few : (registry.free id).frees id.index.toNat < 2 ^ (32 : Nat)) :
    (registry.free id).Describes (table.removed id) := by
  have found := SlotTable.get?_eq_some_iff.mp live
  have generation : id.generation.toNat = registry.frees id.index.toNat :=
    describes.generations _ _ found
  have freed : (registry.free id).frees id.index.toNat = registry.frees id.index.toNat + 1 := by
    change (id :: registry.freed).countP _ = _
    rw [List.countP_cons, if_pos (beq_self_eq_true _)]
    rfl
  have next : (id.generation + 1).toNat = id.generation.toNat + 1 := by
    rw [UInt32.toNat_add, generation]
    exact Nat.mod_eq_of_lt (freed ▸ few)
  have later : ∀ {other : UInt32}, other < id.generation ∨ other = id.generation →
      other < id.generation + 1 := by
    intro other before
    rw [UInt32.lt_iff_toNat_lt, next]
    rcases before with earlier | rfl
    · exact Nat.lt_succ_of_lt (UInt32.lt_iff_toNat_lt.mp earlier)
    · exact Nat.lt_succ_self _
  refine ⟨describes.valid.removed live, ?_, forall_set found ?_ ?_, ?_, ?_, describes.distinct⟩
  · intro other
    rw [SlotTable.get?_removed live, describes.resolves, free, lookup_erase_eq]
  · rw [freed, ← generation]
    exact next
  · intro other slot distinct held
    rw [describes.generations other slot held, frees, frees, free, List.countP_cons_of_neg]
    simp only [beq_iff_eq]
    exact Ne.symm distinct
  · intro other member
    refine exists_set _ _ found ?_ (describes.issued other member)
    intro before
    exact .inl (later (before.imp_right And.left))
  · intro other member
    rcases List.mem_cons.mp member with rfl | older
    · obtain ⟨inside, _⟩ := List.getElem?_eq_some_iff.mp found
      exact ⟨_, List.getElem?_set_self inside, later (.inr rfl)⟩
    · exact exists_set (other.generation < ·.generation) _ found
        (fun earlier => later (.inl earlier)) (describes.freed other older)

theorem dead_of_freed (describes : registry.Describes table) (freed : id ∈ registry.freed) :
    table.get? id = none := by
  obtain ⟨slot, found, earlier⟩ := describes.freed id freed
  cases live : table.get? id with
  | none => rfl
  | some value =>
    rw [SlotTable.get?_eq_some_iff.mp live] at found
    cases found
    exact (UInt32.lt_irrefl _ earlier).elim

end Describes
end Registry
end Allotment
