import Flowline.Keyed
import Mathlib.Data.List.Nodup
import Mathlib.Order.Basic
import Mathlib.Data.String.Basic

/-!
# Entries in order

Insertion keeps the keys of a keyed list in strictly ascending order.  What is
inserted last under a key is what is found there, and insertions under different
keys do not depend on their order.
-/

namespace Flowline.Keyed

variable {α β : Type} {key other : String} {value : α} {entries : Keyed α}

/-! ## Writes in a row -/

@[simp] theorem insertAll_nil (entries : Keyed α) : insertAll entries [] = entries := rfl

@[simp] theorem insertAll_cons (entries : Keyed α) (entry : String × α)
    (added : List (String × α)) :
    insertAll entries (entry :: added) = insertAll (insert entry.1 entry.2 entries) added := rfl

@[simp] theorem insertAll_append (entries : Keyed α) (added more : List (String × α)) :
    insertAll entries (added ++ more) = insertAll (insertAll entries added) more :=
  List.foldl_append

/-- Of the values that were written under a key the last one is found. -/
theorem get?_insertAll (key : String) (entries : Keyed α) (added : List (String × α)) :
    get? key (insertAll entries added) = (added.reverse.lookup key).or (get? key entries) := by
  induction added generalizing entries with
  | nil => simp
  | cons entry rest ih =>
      obtain ⟨held, value⟩ := entry
      rw [insertAll_cons, ih, get?_insert, List.reverse_cons, List.lookup_append]
      cases rest.reverse.lookup key with
      | some found => rfl
      | none =>
          by_cases same : key = held
          · simp [same]
          · simp [List.lookup_cons, same, beq_false_of_ne same]

theorem get?_ofList (key : String) (added : List (String × α)) :
    get? key (ofList added) = added.reverse.lookup key := by
  simp [ofList, get?_insertAll]

/-- Under distinct keys each entry is found. -/
theorem get?_ofList_of_nodup {added : List (String × α)}
    (distinct : (added.map Prod.fst).Nodup) :
    get? key (ofList added) = some value ↔ (key, value) ∈ added := by
  rw [get?_ofList]
  constructor
  · intro found
    obtain ⟨before, behind, parts, -⟩ := List.lookup_eq_some_iff.mp found
    rw [← List.mem_reverse, parts]
    simp
  · intro member
    cases found : added.reverse.lookup key with
    | none =>
        have absent := List.lookup_eq_none_iff.mp found (key, value) (List.mem_reverse.mpr member)
        simp at absent
    | some other =>
        obtain ⟨before, behind, parts, -⟩ := List.lookup_eq_some_iff.mp found
        have held : (key, other) ∈ added := by
          rw [← List.mem_reverse, parts]
          simp
        have same := List.inj_on_of_nodup_map distinct held member rfl
        exact congrArg some (Prod.mk.inj same).2

theorem get?_map (alter : α → β) (key : String) (entries : Keyed α) :
    get? key (entries.map fun entry => (entry.1, alter entry.2)) =
      (get? key entries).map alter := by
  induction entries with
  | nil => rfl
  | cons entry rest ih =>
      by_cases same : key = entry.1 <;> simp [get?, same, ← ih]

/-- A second write under the same key takes the place of the first. -/
theorem insert_insert_self (key : String) (value old : α) (entries : Keyed α) :
    insert key value (insert key old entries) = insert key value entries := by
  induction entries with
  | nil => simp [insert]
  | cons entry rest ih =>
      obtain ⟨held, item⟩ := entry
      rcases lt_trichotomy key held with before | rfl | after
      · simp [insert, before, before.ne]
      · simp [insert]
      · simp [insert, after.ne', after.not_gt, ih]

theorem insert_comm (different : key ≠ other) (value item : α) (entries : Keyed α) :
    insert key value (insert other item entries) =
      insert other item (insert key value entries) := by
  induction entries with
  | nil =>
      rcases lt_or_gt_of_ne different with before | after
      · simp [insert, before, before.ne, before.ne', before.not_gt]
      · simp [insert, after, after.ne, after.ne', after.not_gt]
  | cons entry rest ih =>
      obtain ⟨held, old⟩ := entry
      rcases lt_trichotomy key held with before | same | after <;>
        rcases lt_trichotomy other held with left | equal | right <;>
        grind [insert]

/-! ## Order -/

/-- Keys in strictly ascending order. -/
def Ascending (entries : Keyed α) : Prop := entries.Pairwise fun left right => left.1 < right.1

theorem mem_insert {entry : String × α} (member : entry ∈ insert key value entries) :
    entry = (key, value) ∨ entry ∈ entries := by
  induction entries with
  | nil => exact .inl (List.mem_singleton.mp member)
  | cons first rest ih =>
      obtain ⟨held, old⟩ := first
      rw [insert] at member
      split at member
      next =>
        rcases List.mem_cons.mp member with same | behind
        · exact .inl same
        · exact .inr (List.mem_cons_of_mem _ behind)
      next =>
        split at member
        next => exact List.mem_cons.mp member
        next =>
          rcases List.mem_cons.mp member with same | behind
          · exact .inr (same ▸ List.mem_cons_self)
          · exact (ih behind).imp_right (List.mem_cons_of_mem _)

theorem Ascending.insert (ascending : Ascending entries) (key : String) (value : α) :
    Ascending (insert key value entries) := by
  induction entries with
  | nil => exact List.pairwise_singleton _ _
  | cons first rest ih =>
      obtain ⟨held, old⟩ := first
      obtain ⟨first, behind⟩ := List.pairwise_cons.mp ascending
      rw [Keyed.insert]
      split
      next same =>
        subst same
        exact List.pairwise_cons.mpr ⟨first, behind⟩
      next different =>
        split
        next before =>
          refine List.pairwise_cons.mpr ⟨?_, ascending⟩
          exact List.forall_mem_cons.mpr ⟨before, fun entry member =>
            lt_trans before (first entry member)⟩
        next after =>
          refine List.pairwise_cons.mpr ⟨?_, ih behind⟩
          intro entry member
          rcases mem_insert member with rfl | member
          · exact lt_of_le_of_ne (not_lt.mp after) (Ne.symm different)
          · exact first entry member

theorem Ascending.insertAll (ascending : Ascending entries) (added : List (String × α)) :
    Ascending (insertAll entries added) := by
  induction added generalizing entries with
  | nil => exact ascending
  | cons entry rest ih => exact ih (ascending.insert entry.1 entry.2)

theorem ascending_ofList (added : List (String × α)) : Ascending (ofList added) :=
  Ascending.insertAll List.Pairwise.nil added

/-- Behind all other keys a value is put at the end. -/
theorem insert_of_forall_lt (behind : ∀ entry ∈ entries, entry.1 < key) :
    insert key value entries = entries ++ [(key, value)] := by
  induction entries with
  | nil => rfl
  | cons entry rest ih =>
      obtain ⟨first, behind⟩ := List.forall_mem_cons.mp behind
      rw [insert, if_neg first.ne', if_neg first.not_gt, ih behind, List.cons_append]

theorem insertAll_of_ascending {added : List (String × α)}
    (ascending : Ascending (entries ++ added)) :
    insertAll entries added = entries ++ added := by
  induction added generalizing entries with
  | nil => rw [insertAll_nil, List.append_nil]
  | cons entry rest ih =>
      have before : ∀ other ∈ entries, other.1 < entry.1 := fun other member =>
        (List.pairwise_append.mp ascending).2.2 other member entry List.mem_cons_self
      rw [List.append_cons] at ascending ⊢
      rw [insertAll_cons, insert_of_forall_lt before, ih ascending]

/-- Entries in order are what they are when they are written in a row. -/
theorem Ascending.ofList (ascending : Ascending entries) : ofList entries = entries :=
  insertAll_of_ascending ascending

theorem mem_insertAll {entry : String × α} {added : List (String × α)}
    (member : entry ∈ insertAll entries added) : entry ∈ entries ∨ entry ∈ added := by
  induction added generalizing entries with
  | nil => exact .inl member
  | cons next rest ih =>
      rcases ih member with early | late
      · rcases mem_insert early with rfl | early
        · exact .inr List.mem_cons_self
        · exact .inl early
      · exact .inr (List.mem_cons_of_mem _ late)

theorem mem_ofList {entry : String × α} {added : List (String × α)}
    (member : entry ∈ ofList added) : entry ∈ added :=
  (mem_insertAll member).resolve_left List.not_mem_nil

/-- What is found is an entry. -/
theorem mem_of_get? (found : get? key entries = some value) : (key, value) ∈ entries := by
  induction entries with
  | nil => cases found
  | cons entry rest ih =>
      obtain ⟨held, item⟩ := entry
      rw [get?] at found
      split at found
      next same =>
        cases found
        exact same ▸ List.mem_cons_self
      next => exact List.mem_cons_of_mem _ (ih found)

/-- In order, every entry is found. -/
theorem Ascending.get? (ascending : Ascending entries) (member : (key, value) ∈ entries) :
    get? key entries = some value := by
  induction entries with
  | nil => cases member
  | cons entry rest ih =>
      obtain ⟨held, item⟩ := entry
      obtain ⟨first, behind⟩ := List.pairwise_cons.mp ascending
      rcases List.mem_cons.mp member with same | member
      · cases same
        simp [Keyed.get?]
      · have later : held < key := first _ member
        simp [Keyed.get?, later.ne', ih behind member]

/-- In order, only what is found under a key has that key. -/
theorem Ascending.filter_key (ascending : Ascending entries)
    (found : Keyed.get? key entries = some value) :
    entries.filter (·.1 == key) = [(key, value)] := by
  induction entries with
  | nil => cases found
  | cons entry rest ih =>
      obtain ⟨held, item⟩ := entry
      obtain ⟨first, behind⟩ := List.pairwise_cons.mp ascending
      rw [Keyed.get?] at found
      split at found
      next same =>
        subst same
        cases found
        have others : rest.filter (·.1 == key) = [] := by
          rw [List.filter_eq_nil_iff]
          intro other member
          simpa using (first other member).ne'
        simp [others]
      next different =>
        rw [List.filter_cons_of_neg (by simpa using Ne.symm different), ih behind found]

theorem Ascending.filter (ascending : Ascending entries) (keeps : String × α → Bool) :
    Ascending (entries.filter keeps) :=
  List.Pairwise.filter keeps ascending

/-- Without the entries under one key the others are still found. -/
theorem get?_filter_ne (different : other ≠ key) (entries : Keyed α) :
    get? other (entries.filter (·.1 != key)) = get? other entries := by
  induction entries with
  | nil => rfl
  | cons entry rest ih =>
      obtain ⟨held, item⟩ := entry
      by_cases same : held = key
      · subst same
        simp [get?, different, ih]
      · simp [get?, same, ih]

end Flowline.Keyed
