import Allotment.Proofs.Pool.Calls

/-! The history of a pool. Which slots are free and in which order, how often each was freed, and what is
behind an identifier can be read off the calls that were made and their answers; the table of the pool
holds nothing else. -/
namespace Allotment

namespace SlotTable
variable {T : Type} {slots : List (Slot T)} {head : Option UInt32} {free others : List Nat}

/-- The links say which slots are visited. -/
theorem FreeList.unique (linked : FreeList slots head free) (linked' : FreeList slots head others) :
    free = others := by
  induction linked generalizing others with
  | done =>
    cases linked'
    rfl
  | visit found _ ih =>
    cases linked' with
    | visit found' deeper =>
      rw [found] at found'
      cases found'
      rw [ih deeper]

private theorem FreeList.nil_of_none (linked : FreeList slots none free) : free = [] := by
  cases linked
  rfl

/-- The list that the links visit has every free slot once. -/
theorem Valid.complete {table : SlotTable T} (valid : table.Valid)
    (linked : FreeList table.slots table.freeHead free) :
    free.Nodup ∧ ∀ index, index ∈ free ↔ FreeAt table.slots index := by
  obtain ⟨visited, linked', nodup, complete⟩ := valid.chained
  obtain rfl := linked.unique linked'
  exact ⟨nodup, complete⟩

end SlotTable

namespace Pool
variable {T α : Type}

/-- A call that was made, with its answer. -/
structure Entry (T : Type) where
  {α : Type}
  call : Call T α
  answer : Except Fault α

/-- What a call did. -/
inductive Deed (T : Type) where
  | nothing
  /-- A value was stored under an identifier. -/
  | issued (id : ResourceId) (value : T)
  | changed (id : ResourceId) (change : T → T)
  /-- The value behind an identifier was handed out. -/
  | freed (id : ResourceId) (value : T)

namespace Deed

/-- The free slots after a deed, last freed first. -/
def onUnused : Deed T → List Nat → List Nat
  | issued id _, free => free.erase id.index.toNat
  | freed id _, free => id.index.toNat :: free
  | changed .., free => free
  | nothing, free => free

/-- The slot at an index was freed. -/
def frees (index : Nat) : Deed T → Bool
  | freed id _ => id.index.toNat == index
  | _ => false

/-- What is behind an identifier after a deed. -/
def onHeld (id : ResourceId) : Deed T → Option T → Option T
  | issued other value, held => if id = other then some value else held
  | changed other change, held => if id = other then held.map change else held
  | freed other _, held => if id = other then none else held
  | nothing, held => held

end Deed

namespace Entry

def deed : Entry T → Deed T
  | ⟨.insert value, .ok id⟩ => .issued id value
  | ⟨.update id change, .ok (some _)⟩ => .changed id fun value => (change value).1
  | ⟨.remove? id, .ok (some value)⟩ => .freed id value
  | ⟨.remove id, .ok value⟩ => .freed id value
  | _ => .nothing

/-- The call asks for the value behind the identifier to be taken out. -/
def AsksToFree (entry : Entry T) (id : ResourceId) : Prop :=
  match entry with
  | ⟨.remove? other, _⟩ => other = id
  | ⟨.remove other, _⟩ => other = id
  | _ => False

end Entry

/-- The indices of the slots that were freed and not used since, last freed first. The log has the last
call first. -/
def unused : List (Entry T) → List Nat
  | [] => []
  | entry :: earlier => entry.deed.onUnused (unused earlier)

/-- How often the slot at an index was freed. -/
def frees (log : List (Entry T)) (index : Nat) : Nat := log.countP (·.deed.frees index)

/-- What is behind an identifier. -/
def held : List (Entry T) → ResourceId → Option T
  | [], _ => none
  | entry :: earlier, id => entry.deed.onHeld id (held earlier id)

/-- The identifier was issued, and nobody has asked to free it since. -/
def Unfreed : List (Entry T) → ResourceId → Prop
  | [], _ => False
  | entry :: earlier, id =>
    (∃ value, entry.deed = .issued id value) ∨ ¬ entry.AsksToFree id ∧ Unfreed earlier id

namespace Entry

/-- A request to free an identifier hands out what is behind it. -/
def Settles (entry : Entry T) (earlier : List (Entry T)) : Prop :=
  ∀ id, entry.AsksToFree id → ∀ value, entry.deed = .freed id value ↔ held earlier id = some value

/-- The generation of an identifier that is issued is the number of times its slot was freed. -/
def Stamps (entry : Entry T) (earlier : List (Entry T)) : Prop :=
  ∀ id value, entry.deed = .issued id value → id.generation = .ofNat (frees earlier id.index.toNat)

theorem AsksToFree.deed {entry : Entry T} {id : ResourceId} (asks : entry.AsksToFree id) :
    entry.deed = .nothing ∨ ∃ value, entry.deed = .freed id value := by
  obtain ⟨call, answer⟩ := entry
  cases call with
  | insert value => cases asks
  | update other change => cases asks
  | remove? other =>
    obtain rfl : other = id := asks
    rcases answer with fault | _ | value
    · exact .inl rfl
    · exact .inl rfl
    · exact .inr ⟨value, rfl⟩
  | remove other =>
    obtain rfl : other = id := asks
    cases answer with
    | error fault => exact .inl rfl
    | ok value => exact .inr ⟨value, rfl⟩

private theorem asksToFree_of_freed {entry : Entry T} {id : ResourceId} {value : T}
    (freed : entry.deed = .freed id value) : entry.AsksToFree id := by
  obtain ⟨call, answer⟩ := entry
  cases call with
  | insert value => cases answer <;> cases freed
  | update other change => rcases answer with fault | _ | found <;> cases freed
  | remove? other =>
    rcases answer with fault | _ | found <;> cases freed
    rfl
  | remove other =>
    cases answer <;> cases freed
    rfl

theorem not_asksToFree {entry : Entry T} {id : ResourceId} (busy : entry.deed ≠ .nothing)
    (other : ∀ value, entry.deed ≠ .freed id value) : ¬ entry.AsksToFree id := by
  intro asks
  rcases asks.deed with idle | ⟨value, freed⟩
  · exact busy idle
  · exact other value freed

end Entry

/-- Every call in the log fits the calls before it. -/
def Faithful : List (Entry T) → Prop
  | [] => True
  | entry :: earlier => entry.Settles earlier ∧ entry.Stamps earlier ∧ Faithful earlier

theorem Faithful.of_suffix {log earlier : List (Entry T)} (faithful : Faithful log)
    (suffixes : earlier <:+ log) : Faithful earlier := by
  induction log with
  | nil => exact List.suffix_nil.mp suffixes ▸ faithful
  | cons last before ih =>
    rcases List.suffix_cons_iff.mp suffixes with same | deeper
    · exact same ▸ faithful
    · exact ih faithful.2.2 deeper

theorem Faithful.at_suffix {log earlier : List (Entry T)} {entry : Entry T} (faithful : Faithful log)
    (suffixes : (entry :: earlier) <:+ log) : entry.Settles earlier ∧ entry.Stamps earlier :=
  ⟨(faithful.of_suffix suffixes).1, (faithful.of_suffix suffixes).2.1⟩

/-- Something is behind an identifier that was issued and that nobody has asked to free since. -/
theorem Faithful.unfreed_iff {log : List (Entry T)} (faithful : Faithful log) (id : ResourceId) :
    Unfreed log id ↔ ∃ value, held log id = some value := by
  induction log with
  | nil => simp [Unfreed, held]
  | cons entry earlier ih =>
    have before := ih faithful.2.2
    have settles := faithful.1 id
    rw [Unfreed, held, before]
    cases deed : entry.deed with
    | nothing =>
      have idle : entry.AsksToFree id → ∀ value, held earlier id ≠ some value := by
        intro asks value found
        have freed := (settles asks value).mpr found
        rw [deed] at freed
        cases freed
      constructor
      · rintro (⟨_, ⟨⟩⟩ | ⟨_, found⟩)
        exact found
      · rintro ⟨value, found⟩
        exact .inr ⟨fun asks => idle asks value found, value, found⟩
    | issued other value =>
      have spared : ¬ entry.AsksToFree id := Entry.not_asksToFree (by simp [deed]) (by simp [deed])
      by_cases same : id = other
      · subst same
        simp [Deed.onHeld]
      · simp [Deed.onHeld, same, Ne.symm same, spared]
    | changed other change =>
      have spared : ¬ entry.AsksToFree id := Entry.not_asksToFree (by simp [deed]) (by simp [deed])
      by_cases same : id = other
      · subst same
        simp [Deed.onHeld, spared]
      · simp [Deed.onHeld, same, spared]
    | freed other value =>
      by_cases same : id = other
      · subst same
        simp [Deed.onHeld, Entry.asksToFree_of_freed deed]
      · have spared : ¬ entry.AsksToFree id :=
          Entry.not_asksToFree (by simp [deed]) (by simp [deed, Ne.symm same])
        simp [Deed.onHeld, same, spared]

/-- The calls and their answers account for the table. -/
structure Chronicles (log : List (Entry T)) (table : SlotTable T) : Prop where
  valid : table.Valid
  linked : SlotTable.FreeList table.slots table.freeHead (unused log)
  resolves : ∀ id, table.get? id = held log id
  generation : ∀ index (slot : Slot T), table.slots[index]? = some slot →
    slot.generation = .ofNat (frees log index)
  unfreed : ∀ index, table.slots.length ≤ index → frees log index = 0
  inside : ∀ entry ∈ log, ∀ id value, entry.deed = .issued id value →
    id.index.toNat < table.slots.length
  faithful : Faithful log

theorem generation_set {slots : List (Slot T)} {before after : Nat → Nat} {index : Nat} {slot : Slot T}
    (generation : ∀ other (old : Slot T), slots[other]? = some old → old.generation = .ofNat (before other))
    (here : slot.generation = .ofNat (after index))
    (elsewhere : ∀ other, other ≠ index → after other = before other) (other : Nat) (now : Slot T)
    (found : (slots.set index slot)[other]? = some now) : now.generation = .ofNat (after other) := by
  by_cases same : index = other
  · subst same
    rw [List.getElem?_set] at found
    split at found <;> simp_all
  · rw [List.getElem?_set_ne same] at found
    rw [elsewhere other (Ne.symm same)]
    exact generation other now found

namespace Chronicles
variable {log : List (Entry T)} {table : SlotTable T} {entry : Entry T} {id : ResourceId} {value : T}

theorem empty : Chronicles ([] : List (Entry T)) ⟨[], none, 0⟩ where
  valid := .empty
  linked := .done
  resolves _ := rfl
  generation _ _ found := by cases found
  unfreed _ _ := rfl
  inside _ member := by cases member
  faithful := trivial

section Issues
variable {count : Nat}

theorem inside_of_unissued (chronicles : Chronicles log table)
    (other : ∀ id value, entry.deed ≠ .issued id value) (longer : table.slots.length ≤ count) :
    ∀ past ∈ entry :: log, ∀ id value, past.deed = .issued id value → id.index.toNat < count := by
  intro past member id value issued
  rcases List.mem_cons.mp member with rfl | before
  · exact (other id value issued).elim
  · exact Nat.lt_of_lt_of_le (chronicles.inside past before id value issued) longer

private theorem inside_of_issued (chronicles : Chronicles log table) (deed : entry.deed = .issued id value)
    (longer : table.slots.length ≤ count) (within : id.index.toNat < count) :
    ∀ past ∈ entry :: log, ∀ id value, past.deed = .issued id value → id.index.toNat < count := by
  intro past member other value' issued
  rcases List.mem_cons.mp member with rfl | before
  · rw [deed] at issued
    cases issued
    exact within
  · exact Nat.lt_of_lt_of_le (chronicles.inside past before other value' issued) longer

private theorem faithful_of_issued (chronicles : Chronicles log table) (deed : entry.deed = .issued id value)
    (stamped : id.generation = .ofNat (frees log id.index.toNat)) : Faithful (entry :: log) := by
  refine ⟨fun other asks => ?_, fun other value' issued => ?_, chronicles.faithful⟩
  · exact (Entry.not_asksToFree (by simp [deed]) (by simp [deed]) asks).elim
  · rw [deed] at issued
    cases issued
    exact stamped

end Issues

theorem idle (chronicles : Chronicles log table) (idle : entry.deed = .nothing)
    (settles : entry.Settles log) : Chronicles (entry :: log) table := by
  have frees : frees (entry :: log) = frees log := by
    funext index
    simp [Pool.frees, idle, Deed.frees]
  constructor
  case valid => exact chronicles.valid
  case linked => simpa only [unused, idle, Deed.onUnused] using chronicles.linked
  case resolves => simpa only [held, idle, Deed.onHeld] using chronicles.resolves
  case generation => simpa only [frees] using chronicles.generation
  case unfreed => simpa only [frees] using chronicles.unfreed
  case inside => exact chronicles.inside_of_unissued (by simp [idle]) (Nat.le_refl _)
  case faithful => exact ⟨settles, by simp [Entry.Stamps, idle], chronicles.faithful⟩

theorem reused (chronicles : Chronicles log table) (deed : entry.deed = .issued id value)
    {next : Option UInt32} (head : table.freeHead = some id.index)
    (found : table.slots[id.index.toNat]? = some ⟨id.generation, .free next⟩) :
    Chronicles (entry :: log) (table.reused id value next) := by
  have frees : frees (entry :: log) = frees log := by
    funext index
    simp [Pool.frees, deed, Deed.frees]
  have stamped := chronicles.generation _ _ found
  obtain ⟨within, _⟩ := List.getElem?_eq_some_iff.mp found
  have count : (table.reused id value next).slots.length = table.slots.length := List.length_set ..
  constructor
  case valid => exact chronicles.valid.reused head found
  case linked =>
    have linked := chronicles.linked
    obtain ⟨nodup, _⟩ := chronicles.valid.complete linked
    rw [unused, deed, Deed.onUnused]
    rw [head] at linked
    generalize unused log = free at linked nodup
    cases linked with
    | visit found' deeper =>
      rw [found] at found'
      cases found'
      rw [List.erase_cons_head]
      exact deeper.set (List.nodup_cons.mp nodup).1 _
  case resolves =>
    intro other
    rw [SlotTable.get?_reused found, held, deed, Deed.onHeld, chronicles.resolves]
  case generation =>
    rw [frees]
    exact generation_set chronicles.generation stamped fun _ _ => rfl
  case unfreed => simpa only [frees, count] using chronicles.unfreed
  case inside => exact chronicles.inside_of_issued deed (Nat.le_of_eq count.symm) (count ▸ within)
  case faithful => exact chronicles.faithful_of_issued deed stamped

theorem appended (chronicles : Chronicles log table) (deed : entry.deed = .issued table.nextId value)
    (none : table.freeHead = none) (room : table.slots.length + 1 < 2 ^ (32 : Nat)) :
    Chronicles (entry :: log) (table.appended value) := by
  have frees : frees (entry :: log) = frees log := by
    funext index
    simp [Pool.frees, deed, Deed.frees]
  have index : table.nextId.index.toNat = table.slots.length :=
    UInt32.toNat_ofNat_of_lt' chronicles.valid.small
  have slots : (table.appended value).slots = table.slots ++ [⟨0, .occupied value⟩] := rfl
  have count : (table.appended value).slots.length = table.slots.length + 1 := by simp [slots]
  have unfreed := chronicles.unfreed table.slots.length (Nat.le_refl _)
  constructor
  case valid => exact chronicles.valid.appended room
  case linked =>
    have linked := chronicles.linked
    rw [none] at linked
    rw [unused, deed, Deed.onUnused, linked.nil_of_none, List.erase_nil,
      show (table.appended value).freeHead = .none from none]
    exact .done
  case resolves =>
    intro other
    rw [SlotTable.get?_appended chronicles.valid.small, held, deed, Deed.onHeld, chronicles.resolves]
  case generation =>
    rw [frees, slots]
    intro other slot found
    rcases Nat.lt_or_ge other table.slots.length with within | beyond
    · rw [List.getElem?_append_left within] at found
      exact chronicles.generation other slot found
    · rw [List.getElem?_append_right beyond, List.getElem?_singleton] at found
      split at found
      · next last =>
        cases found
        rw [show other = table.slots.length by omega, unfreed]
        rfl
      · cases found
  case unfreed =>
    rw [frees, count]
    exact fun other beyond => chronicles.unfreed other (by omega)
  case inside => exact chronicles.inside_of_issued deed (by omega) (by omega)
  case faithful =>
    refine chronicles.faithful_of_issued deed ?_
    rw [index, unfreed]
    rfl

theorem overwritten (chronicles : Chronicles log table) {change : T → T}
    (deed : entry.deed = .changed id change) (live : table.get? id = some value) :
    Chronicles (entry :: log) (table.overwritten id (change value)) := by
  have frees : frees (entry :: log) = frees log := by
    funext index
    simp [Pool.frees, deed, Deed.frees]
  have found := SlotTable.get?_eq_some_iff.mp live
  have count : (table.overwritten id (change value)).slots.length = table.slots.length :=
    List.length_set ..
  have spared : ∀ other, ¬ entry.AsksToFree other := fun other =>
    Entry.not_asksToFree (by simp [deed]) (by simp [deed])
  constructor
  case valid => exact chronicles.valid.overwritten live _
  case linked =>
    obtain ⟨_, complete⟩ := chronicles.valid.complete chronicles.linked
    rw [unused, deed, Deed.onUnused]
    exact chronicles.linked.set
      (fun member => SlotTable.not_freeAt_of_live live ((complete _).mp member)) _
  case resolves =>
    intro other
    rw [SlotTable.get?_overwritten live, held, deed, Deed.onHeld, ← chronicles.resolves]
    by_cases same : other = id
    · subst same
      rw [if_pos rfl, if_pos rfl, live, Option.map_some]
    · rw [if_neg same, if_neg same]
  case generation =>
    have stamped : id.generation = _ := chronicles.generation _ _ found
    rw [frees]
    exact generation_set chronicles.generation stamped fun _ _ => rfl
  case unfreed => simpa only [frees, count] using chronicles.unfreed
  case inside => exact chronicles.inside_of_unissued (by simp [deed]) (Nat.le_of_eq count.symm)
  case faithful =>
    exact ⟨fun other asks => (spared other asks).elim, by simp [Entry.Stamps, deed], chronicles.faithful⟩

theorem removed (chronicles : Chronicles log table) (deed : entry.deed = .freed id value)
    (live : table.get? id = some value) : Chronicles (entry :: log) (table.removed id) := by
  have frees_eq (index : Nat) : frees (entry :: log) index =
      frees log index + if id.index.toNat = index then 1 else 0 := by
    simp [Pool.frees, List.countP_cons, deed, Deed.frees]
  have found := SlotTable.get?_eq_some_iff.mp live
  obtain ⟨within, _⟩ := List.getElem?_eq_some_iff.mp found
  have count : (table.removed id).slots.length = table.slots.length := List.length_set ..
  constructor
  case valid => exact chronicles.valid.removed live
  case linked =>
    obtain ⟨_, complete⟩ := chronicles.valid.complete chronicles.linked
    have occupied : id.index.toNat ∉ unused log := fun member =>
      SlotTable.not_freeAt_of_live live ((complete _).mp member)
    rw [unused, deed, Deed.onUnused]
    exact .visit (List.getElem?_set_self within) (chronicles.linked.set occupied _)
  case resolves =>
    intro other
    rw [SlotTable.get?_removed live, held, deed, Deed.onHeld, chronicles.resolves]
  case generation =>
    refine generation_set chronicles.generation ?_ fun other differs => ?_
    · have stamped : id.generation = _ := chronicles.generation _ _ found
      rw [frees_eq, if_pos rfl, UInt32.ofNat_add, ← stamped]
      rfl
    · rw [frees_eq, if_neg (Ne.symm differs), Nat.add_zero]
  case unfreed =>
    intro index beyond
    rw [count] at beyond
    rw [frees_eq, if_neg (by omega), chronicles.unfreed index beyond]
  case inside => exact chronicles.inside_of_unissued (by simp [deed]) (Nat.le_of_eq count.symm)
  case faithful =>
    refine ⟨fun other asks found => ?_, by simp [Entry.Stamps, deed], chronicles.faithful⟩
    obtain rfl : other = id := by
      rcases asks.deed with idle | ⟨_, freed⟩
      · rw [deed] at idle
        cases idle
      · rw [deed] at freed
        cases freed
        rfl
    rw [deed, ← chronicles.resolves, live]
    simp

private theorem settles_of_dead (chronicles : Chronicles log table) (idle : entry.deed = .nothing)
    (asked : ∀ other, entry.AsksToFree other → other = id) (dead : table.get? id = none) :
    entry.Settles log := by
  intro other asks value
  rw [asked other asks, idle, ← chronicles.resolves, dead]
  simp

theorem refused (chronicles : Chronicles log table) (value : T) (fault : Fault) :
    Chronicles (⟨.insert value, .error fault⟩ :: log) table :=
  chronicles.idle rfl fun _ asks => asks.elim

/-- Whatever is called, the log with the table's answer accounts for the table afterwards. -/
theorem called (chronicles : Chronicles log table) {limit : Nat} (small : limit < 2 ^ (32 : Nat))
    (failsFast : Bool) (call : Call T α) :
    Chronicles (⟨call, (call.onTable limit failsFast table).1⟩ :: log)
      (call.onTable limit failsFast table).2 := by
  cases call with
  | insert value =>
    cases head : table.freeHead with
    | none =>
      simp only [Call.onTable, head]
      split
      · exact chronicles.refused value _
      · exact chronicles.appended rfl head (by omega)
    | some index =>
      obtain ⟨generation, next, found⟩ := chronicles.valid.head_free head
      simp only [Call.onTable, head, found]
      exact chronicles.reused rfl head found
  | update id change =>
    cases live : table.get? id with
    | none =>
      simp only [Call.onTable, live]
      exact chronicles.idle rfl fun _ asks => asks.elim
    | some value =>
      simp only [Call.onTable, live]
      have deed : Entry.deed ⟨.update id change, .ok (some (change value).2)⟩ =
        .changed id fun held => (change held).1 := rfl
      exact chronicles.overwritten deed live
  | remove? id =>
    cases live : table.get? id with
    | none =>
      simp only [Call.onTable, live]
      exact chronicles.idle rfl (chronicles.settles_of_dead rfl (fun _ => Eq.symm) live)
    | some value =>
      simp only [Call.onTable, live]
      exact chronicles.removed rfl live
  | remove id =>
    cases live : table.get? id with
    | none =>
      simp only [Call.onTable, live]
      exact chronicles.idle rfl (chronicles.settles_of_dead rfl (fun _ => Eq.symm) live)
    | some value =>
      simp only [Call.onTable, live]
      exact chronicles.removed rfl live

end Chronicles
end Pool
end Allotment
