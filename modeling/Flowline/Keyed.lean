/-!
# Keyed lists

Values under text keys, kept in the order of the keys.  Inserting under a key
that is present replaces its value, so the last write wins.
-/

namespace Flowline

/-- Values under text keys, in ascending order of the keys. -/
abbrev Keyed (α : Type) := List (String × α)

namespace Keyed

variable {α : Type}

/-- The value under a key. -/
def get? (key : String) : Keyed α → Option α
  | [] => none
  | (held, value) :: rest => if key = held then some value else get? key rest

/-- Whether a key is present. -/
def has (key : String) (entries : Keyed α) : Bool :=
  (get? key entries).isSome

/-- Put a value under a key, in the key's place. -/
def insert (key : String) (value : α) : Keyed α → Keyed α
  | [] => [(key, value)]
  | (held, old) :: rest =>
      if key = held then (key, value) :: rest
      else if key < held then (key, value) :: (held, old) :: rest
      else (held, old) :: insert key value rest

/-- Put entries one after the other. -/
def insertAll (entries : Keyed α) (added : List (String × α)) : Keyed α :=
  added.foldl (fun entries entry => insert entry.1 entry.2 entries) entries

/-- The keyed list of some entries; of several values under one key the last
stays. -/
def ofList (entries : List (String × α)) : Keyed α :=
  insertAll [] entries

/-- Remove every entry under a key. -/
def erase (key : String) : Keyed α → Keyed α
  | [] => []
  | (held, value) :: rest =>
      if key = held then erase key rest else (held, value) :: erase key rest

/-- The keys in order. -/
def keys (entries : Keyed α) : List String :=
  entries.map Prod.fst

@[simp] theorem get?_nil (key : String) : get? key ([] : Keyed α) = none := rfl

@[simp] theorem get?_insert_self (key : String) (value : α) (entries : Keyed α) :
    get? key (insert key value entries) = some value := by
  induction entries with
  | nil => simp [insert, get?]
  | cons entry rest ih =>
      obtain ⟨held, old⟩ := entry
      by_cases equal : key = held
      · simp [insert, get?, equal]
      · by_cases before : key < held
        · simp [insert, get?, equal, before]
        · simp [insert, get?, equal, before, ih]

theorem get?_insert_of_ne {key other : String} (different : other ≠ key) (value : α)
    (entries : Keyed α) : get? other (insert key value entries) = get? other entries := by
  induction entries with
  | nil => simp [insert, get?, different]
  | cons entry rest ih =>
      obtain ⟨held, old⟩ := entry
      by_cases equal : key = held
      · subst equal
        simp [insert, get?, different]
      · by_cases before : key < held
        · simp [insert, get?, equal, before, different]
        · simp [insert, get?, equal, before, ih]

theorem get?_insert (key other : String) (value : α) (entries : Keyed α) :
    get? other (insert key value entries) =
      if other = key then some value else get? other entries := by
  by_cases equal : other = key
  · subst equal
    simp
  · simp [equal, get?_insert_of_ne equal]

end Keyed

end Flowline
