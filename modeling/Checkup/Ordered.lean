/-!
Maps from text that keep the order in which their keys were put.

Putting under a key that is there keeps its place; a key that was erased and is put again goes
last.

Main statements: `get?_put_self` and `get?_put_of_ne` (what a put changes), `keys_put_of_get?`
(a put under a key that is there keeps the keys), `put_of_get?_eq_none` (under any other it goes
last) and `mem_iff_get?` (the entries are what is found under their keys).
-/

namespace Checkup

/-- Entries in the order of their keys' first put. -/
abbrev Ordered (α : Type) := List (String × α)

namespace Ordered

variable {α : Type}

def get? (key : String) : Ordered α → Option α
  | [] => none
  | (k, v) :: rest => if k = key then some v else get? key rest

def has (m : Ordered α) (key : String) : Bool := (get? key m).isSome

/-- Puts a value under a key. -/
def put (key : String) (value : α) : Ordered α → Ordered α
  | [] => [(key, value)]
  | (k, v) :: rest => if k = key then (k, value) :: rest else (k, v) :: put key value rest

def erase (key : String) : Ordered α → Ordered α
  | [] => []
  | (k, v) :: rest => if k = key then rest else (k, v) :: erase key rest

def keys (m : Ordered α) : List String := m.map (·.1)

def values (m : Ordered α) : List α := m.map (·.2)

@[simp] theorem get?_put_self (key : String) (value : α) (m : Ordered α) :
    get? key (put key value m) = some value := by
  induction m with
  | nil => simp [put, get?]
  | cons entry rest ih =>
    obtain ⟨k, v⟩ := entry
    by_cases h : k = key <;> simp [put, get?, h, ih]

theorem get?_put_of_ne {key other : String} (h : key ≠ other) (value : α) (m : Ordered α) :
    get? other (put key value m) = get? other m := by
  induction m with
  | nil => simp [put, get?, h]
  | cons entry rest ih =>
    obtain ⟨k, v⟩ := entry
    by_cases same : k = key
    · subst same
      simp [put, get?, h]
    · simp [put, get?, same, ih]

theorem keys_put_of_get? {key : String} {old : α} (value : α) {m : Ordered α}
    (h : get? key m = some old) : keys (put key value m) = keys m := by
  induction m with
  | nil => simp [get?] at h
  | cons entry rest ih =>
    obtain ⟨k, v⟩ := entry
    by_cases same : k = key
    · simp [put, keys, same]
    · simp only [get?, same, if_false] at h
      simpa [put, keys, same] using ih h

/-- A key that is not there goes last. -/
theorem put_of_get?_eq_none {key : String} (value : α) {m : Ordered α} (h : get? key m = none) :
    put key value m = m ++ [(key, value)] := by
  induction m with
  | nil => rfl
  | cons entry rest ih =>
    obtain ⟨k, v⟩ := entry
    by_cases same : k = key
    · simp [get?, same] at h
    · simp only [get?, same, if_false] at h
      simp [put, same, ih h]

theorem get?_erase_of_ne {key other : String} (h : key ≠ other) (m : Ordered α) :
    get? other (erase key m) = get? other m := by
  induction m with
  | nil => rfl
  | cons entry rest ih =>
    obtain ⟨k, v⟩ := entry
    by_cases same : k = key
    · subst same
      simp [erase, get?, h]
    · simp [erase, get?, same, ih]

theorem keys_erase_sublist (key : String) (m : Ordered α) :
    (keys (erase key m)).Sublist (keys m) := by
  induction m with
  | nil => exact .slnil
  | cons entry rest ih =>
    obtain ⟨k, v⟩ := entry
    by_cases same : k = key
    · simp [erase, keys, same]
    · simpa [erase, keys, same] using ih

theorem mem_keys_iff {key : String} {m : Ordered α} :
    key ∈ keys m ↔ ∃ value, get? key m = some value := by
  induction m with
  | nil => simp [keys, get?]
  | cons entry rest ih =>
    obtain ⟨k, v⟩ := entry
    by_cases same : k = key
    · simp [keys, get?, same]
    · simp only [keys] at ih
      simp [keys, get?, same, ih, Ne.symm same]

theorem mem_of_get? {key : String} {value : α} {m : Ordered α} (h : get? key m = some value) :
    (key, value) ∈ m := by
  induction m with
  | nil => simp [get?] at h
  | cons entry rest ih =>
    obtain ⟨k, v⟩ := entry
    by_cases same : k = key
    · simp only [get?, same, if_true, Option.some.injEq] at h
      simp [same, h]
    · simp only [get?, same, if_false] at h
      exact List.mem_cons_of_mem _ (ih h)

/-- Where no key is there twice, the entries are what is found under their keys. -/
theorem mem_iff_get? {m : Ordered α} (nodup : (keys m).Nodup) {key : String} {value : α} :
    (key, value) ∈ m ↔ get? key m = some value := by
  induction m with
  | nil => simp [get?]
  | cons entry rest ih =>
    obtain ⟨k, v⟩ := entry
    obtain ⟨fresh, nodup⟩ := List.nodup_cons.mp nodup
    rw [List.mem_cons, ih nodup]
    by_cases same : k = key
    · subst same
      have missing : get? k rest ≠ some value := fun found => fresh (mem_keys_iff.mpr ⟨_, found⟩)
      simp [get?, missing, eq_comm]
    · simp [get?, same, Ne.symm same]

theorem get?_erase_self {m : Ordered α} (nodup : (keys m).Nodup) (key : String) :
    get? key (erase key m) = none := by
  induction m with
  | nil => rfl
  | cons entry rest ih =>
    obtain ⟨k, v⟩ := entry
    obtain ⟨fresh, nodup⟩ := List.nodup_cons.mp nodup
    by_cases same : k = key
    · subst same
      simp only [erase, if_true]
      exact Option.eq_none_iff_forall_ne_some.mpr fun value found =>
        fresh (mem_keys_iff.mpr ⟨value, found⟩)
    · simp [erase, get?, same, ih nodup]

end Ordered

end Checkup
