import ProfileCreator.Python.Builtins
import Mathlib.Data.List.Nodup

/-! # Python dictionaries with string keys

Parameter maps, overrides and template configurations are Python `dict`s from option names to
scalar values. A `PyDict` keeps the insertion order of its entries, and its keys are distinct by
construction, so a lookup finds at most one entry.

* `find?` is `d.get(key)` that tells a missing key from a `None` value; `getD` is
  `d.get(key, default)`; `getItem` is `d[key]`, which raises `KeyError`.
* `set` is `d[key] = value`: it overwrites in place or appends.

Every later proof about maps goes through `find?_set` and `keys_set`.
-/

namespace ProfileCreator.Python

/-- A Python `dict` from strings to scalar values, in insertion order. -/
structure PyDict where
  entries : List (String × PyValue)
  keys_nodup : (entries.map Prod.fst).Nodup
  deriving DecidableEq

namespace PyDict

/-- The keys, in insertion order. -/
def keys (dict : PyDict) : List String := dict.entries.map Prod.fst

/-- `dict.get(key)`, with `none` for a missing key. -/
def find? (dict : PyDict) (key : String) : Option PyValue := dict.entries.lookup key

/-- `dict.get(key, default)`. -/
def getD (dict : PyDict) (key : String) (default : PyValue) : PyValue :=
  (dict.find? key).getD default

/-- `key in dict`. -/
def contains (dict : PyDict) (key : String) : Bool := (dict.find? key).isSome

/-- `dict[key]`, raising `KeyError` for a missing key. -/
def getItem (dict : PyDict) (key : String) : Except PyError PyValue :=
  match dict.find? key with
  | some value => .ok value
  | none => .error (.keyError ("'" ++ key ++ "'"))

/-- The entries after `dict[key] = value`. -/
def setEntry (key : String) (value : PyValue) : List (String × PyValue) → List (String × PyValue)
  | [] => [(key, value)]
  | (other, old) :: rest =>
    if other = key then (key, value) :: rest else (other, old) :: setEntry key value rest

theorem keys_setEntry (key : String) (value : PyValue) (entries : List (String × PyValue)) :
    (setEntry key value entries).map Prod.fst =
      if key ∈ entries.map Prod.fst then entries.map Prod.fst else entries.map Prod.fst ++ [key] := by
  induction entries with
  | nil => simp [setEntry]
  | cons entry rest inductionHypothesis =>
    obtain ⟨other, old⟩ := entry
    by_cases same : other = key
    · simp [setEntry, same]
    · by_cases present : key ∈ rest.map Prod.fst
      · simp [setEntry, same, present, inductionHypothesis]
      · simp [setEntry, same, present, inductionHypothesis, Ne.symm same]

theorem lookup_cons_eq (probe other : String) (old : PyValue) (rest : List (String × PyValue)) :
    ((other, old) :: rest).lookup probe = if probe = other then some old else rest.lookup probe := by
  simp only [List.lookup]
  split <;> simp_all

theorem lookup_setEntry (key : String) (value : PyValue) (entries : List (String × PyValue))
    (probe : String) :
    (setEntry key value entries).lookup probe = if probe = key then some value else entries.lookup probe := by
  induction entries with
  | nil => simp [setEntry, lookup_cons_eq]
  | cons entry rest inductionHypothesis =>
    obtain ⟨other, old⟩ := entry
    by_cases same : other = key
    · subst same
      by_cases hit : probe = other <;> simp [setEntry, lookup_cons_eq, hit]
    · by_cases hit : probe = other
      · subst hit; simp [setEntry, lookup_cons_eq, same]
      · simp [setEntry, lookup_cons_eq, same, hit, inductionHypothesis]

/-- `dict[key] = value`: overwrites the entry in place, or appends a new key. -/
def set (dict : PyDict) (key : String) (value : PyValue) : PyDict where
  entries := setEntry key value dict.entries
  keys_nodup := by
    rw [keys_setEntry]
    split <;> rename_i present
    · exact dict.keys_nodup
    · exact dict.keys_nodup.append (List.nodup_singleton key)
        (by simpa [List.disjoint_singleton] using present)

/-- The dictionary display `{k₁: v₁, ..., kₙ: vₙ}`, built by successive assignments. -/
def ofList (entries : List (String × PyValue)) : PyDict :=
  entries.foldl (fun dict entry => dict.set entry.1 entry.2) ⟨[], List.nodup_nil⟩

@[simp] theorem find?_set (dict : PyDict) (key probe : String) (value : PyValue) :
    (dict.set key value).find? probe = if probe = key then some value else dict.find? probe :=
  lookup_setEntry key value dict.entries probe

theorem keys_set (dict : PyDict) (key : String) (value : PyValue) :
    (dict.set key value).keys = if key ∈ dict.keys then dict.keys else dict.keys ++ [key] :=
  keys_setEntry key value dict.entries

theorem mem_keys_iff (dict : PyDict) (key : String) : key ∈ dict.keys ↔ (dict.find? key).isSome := by
  simp only [keys, find?, List.lookup_isSome_iff, List.mem_map, beq_iff_eq, @eq_comm _ key]

@[simp] theorem mem_keys_set (dict : PyDict) (key probe : String) (value : PyValue) :
    probe ∈ (dict.set key value).keys ↔ probe = key ∨ probe ∈ dict.keys := by
  rw [keys_set]
  split <;> rename_i present
  · exact ⟨Or.inr, fun | .inl rfl => present | .inr member => member⟩
  · simp [or_comm]

@[simp] theorem getD_eq (dict : PyDict) (key : String) (default : PyValue) :
    dict.getD key default = (dict.find? key).getD default := rfl

@[simp] theorem contains_eq (dict : PyDict) (key : String) :
    dict.contains key = (dict.find? key).isSome := rfl

end PyDict

end ProfileCreator.Python
