namespace Allotment

/-- As many copies of a value as `count` says. -/
structure Run (α : Type) where
  count : Nat
  value : α

namespace Run
variable {α β : Type}

/-- The values that runs stand for. -/
def values (runs : List (Run α)) : List α :=
  runs.flatMap fun run => List.replicate run.count run.value

@[simp] theorem values_nil : values ([] : List (Run α)) = [] := rfl

@[simp] theorem values_cons (run : Run α) (rest : List (Run α)) :
    values (run :: rest) = List.replicate run.count run.value ++ values rest := rfl

/-- How many values runs stand for. -/
def total : List (Run α) → Nat
  | [] => 0
  | run :: rest => run.count + total rest

theorem length_values (runs : List (Run α)) : (values runs).length = total runs := by
  induction runs with
  | nil => rfl
  | cons run rest ih =>
    rw [values_cons, List.length_append, List.length_replicate, ih, total]

/-- Puts a value in front of runs; it joins a first run of equal values. -/
def consValue [DecidableEq α] (value : α) : List (Run α) → List (Run α)
  | [] => [⟨1, value⟩]
  | run :: rest =>
    if run.value = value then ⟨run.count + 1, value⟩ :: rest else ⟨1, value⟩ :: run :: rest

theorem values_consValue [DecidableEq α] (value : α) (runs : List (Run α)) :
    values (consValue value runs) = value :: values runs := by
  cases runs with
  | nil => rfl
  | cons run rest =>
    rw [consValue]
    split
    · next same => subst same; rfl
    · rfl

def ofList [DecidableEq α] (list : List α) : List (Run α) := list.foldr consValue []

@[simp] theorem values_ofList [DecidableEq α] (list : List α) : values (ofList list) = list := by
  induction list with
  | nil => rfl
  | cons value rest ih =>
    rw [ofList, List.foldr_cons, values_consValue]
    exact congrArg (value :: ·) ih

def map (change : α → β) (runs : List (Run α)) : List (Run β) :=
  runs.map fun run => ⟨run.count, change run.value⟩

@[simp] theorem values_map (change : α → β) (runs : List (Run α)) :
    values (map change runs) = (values runs).map change := by
  induction runs with
  | nil => rfl
  | cons run rest ih =>
    rw [map, List.map_cons, values_cons, values_cons, List.map_append, List.map_replicate, ← ih,
      map]

/-- Each value of a list as a run of its own. -/
def singles (list : List α) : List (Run α) := list.map fun value => ⟨1, value⟩

@[simp] theorem values_singles (list : List α) : values (singles list) = list := by
  induction list with
  | nil => rfl
  | cons value rest ih =>
    rw [singles, List.map_cons, values_cons]
    exact congrArg (value :: ·) ih

/-- The same runs without empty ones in front. -/
def trim : List (Run α) → List (Run α)
  | [] => []
  | run :: rest => if run.count = 0 then trim rest else run :: rest

@[simp] theorem values_trim (runs : List (Run α)) : values (trim runs) = values runs := by
  induction runs with
  | nil => rfl
  | cons run rest ih =>
    rw [trim]
    split
    · next none => rw [ih, values_cons, none, List.replicate_zero, List.nil_append]
    · rfl

theorem count_pos_of_trim {runs rest : List (Run α)} {run : Run α}
    (trimmed : trim runs = run :: rest) : 0 < run.count := by
  induction runs with
  | nil => cases trimmed
  | cons first others ih =>
    rw [trim] at trimmed
    split at trimmed
    · exact ih trimmed
    · cases trimmed
      omega

/-- A run without its first values. -/
theorem values_drop (run : Run α) (rest : List (Run α)) {count : Nat} (within : count ≤ run.count) :
    values (⟨run.count - count, run.value⟩ :: rest) = (values (run :: rest)).drop count := by
  rw [values_cons, values_cons, List.drop_append_of_le_length
    (by rw [List.length_replicate]; exact within), List.drop_replicate]

theorem getElem?_values_cons (run : Run α) (rest : List (Run α)) {position : Nat}
    (within : position < run.count) : (values (run :: rest))[position]? = some run.value := by
  rw [values_cons, List.getElem?_append_left (by rw [List.length_replicate]; exact within),
    List.getElem?_replicate, if_pos within]

end Run
end Allotment
