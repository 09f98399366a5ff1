import Tollgate.Keyed

/-!
# Keyed lists as finite maps

What writing, removing, changing and selecting do to the keys and to the values of a keyed list. A
list in which no key occurs twice is a finite map: `get?` then sees every entry, and selecting
entries selects values (`Keyed.get?_filter`). All operations keep the keys distinct.

## Main results

* `Keyed.mem_keys_iff`: the keys are those that have a value.
* `Keyed.get?_of_mem`: an entry of a list with distinct keys is found under its key.
* `Keyed.get?_modify_self`, `Keyed.get?_modify_of_ne`: changing a value is seen at its key only.
* `Keyed.get?_filter`: selecting entries of a list with distinct keys.
* `Keyed.put_of_not_mem`: writing a new key appends it.
* `Keyed.get?_erase_self`, `Keyed.get?_erase_of_ne`: removing a key is seen at that key only.
* `Keyed.erase_append_singleton`: removing the key written last restores the list.
-/

namespace Tollgate

namespace Keyed

variable {κ α : Type}

/-! ### Keys -/

/-- Selecting entries keeps keys distinct. -/
theorem nodup_keys_filter {p : κ × α → Bool} {entries : List (κ × α)}
    (h : (keys entries).Nodup) : (keys (entries.filter p)).Nodup :=
  (List.filter_sublist.map Prod.fst).nodup h

variable [DecidableEq κ]

/-- Writing keeps every key and adds the written one. -/
theorem mem_keys_put {key k : κ} {value : α} {entries : List (κ × α)} :
    k ∈ keys (put key value entries) ↔ k = key ∨ k ∈ keys entries := by
  induction entries with
  | nil => simp [put, keys]
  | cons e rest ih =>
      obtain ⟨k', a⟩ := e
      simp only [keys] at ih
      by_cases h : k' = key
      · subst h
        simp [put, keys]
      · simp only [put, h, if_false, keys, List.map_cons, List.mem_cons, ih]
        exact or_left_comm

/-- Writing keeps keys distinct. -/
theorem nodup_keys_put {key : κ} {value : α} {entries : List (κ × α)}
    (h : (keys entries).Nodup) : (keys (put key value entries)).Nodup := by
  induction entries with
  | nil => simp [put, keys]
  | cons e rest ih =>
      obtain ⟨k', a⟩ := e
      simp only [keys, List.map_cons, List.nodup_cons] at h
      by_cases hk : k' = key
      · subst hk
        simpa [put, keys] using h
      · have hmem := @mem_keys_put κ α _ key k' value rest
        simp only [keys] at hmem ih
        simp only [put, hk, if_false, keys, List.map_cons, List.nodup_cons, hmem, false_or]
        exact ⟨h.1, ih h.2⟩

/-- Changing a value keeps the keys. -/
@[simp] theorem keys_modify (key : κ) (f : α → α) (entries : List (κ × α)) :
    keys (modify key f entries) = keys entries := by
  induction entries with
  | nil => rfl
  | cons e rest ih =>
      obtain ⟨k', a⟩ := e
      simp only [keys] at ih
      by_cases hk : k' = key <;> simp [modify, keys, hk, ih]

/-! ### Values -/

/-- A key that is not there has no value. -/
theorem get?_of_not_mem {key : κ} {entries : List (κ × α)} (h : key ∉ keys entries) :
    get? key entries = none := by
  induction entries with
  | nil => rfl
  | cons e rest ih =>
      obtain ⟨k', a⟩ := e
      simp only [keys, List.map_cons, List.mem_cons, not_or] at h
      rw [get?, if_neg (Ne.symm h.1)]
      exact ih h.2

/-- The keys are those that have a value. -/
theorem mem_keys_iff {key : κ} {entries : List (κ × α)} :
    key ∈ keys entries ↔ ∃ value, get? key entries = some value := by
  induction entries with
  | nil => simp [keys]
  | cons e rest ih =>
      obtain ⟨k', a⟩ := e
      rw [keys] at ih ⊢
      by_cases hk : k' = key
      · simp [get?, hk]
      · simp [get?, hk, Ne.symm hk, ih]

/-- An entry is found under its key, if no two have the same. -/
theorem get?_of_mem {key : κ} {value : α} {entries : List (κ × α)} (h : (keys entries).Nodup)
    (hmem : (key, value) ∈ entries) : get? key entries = some value := by
  induction entries with
  | nil => cases hmem
  | cons e rest ih =>
      obtain ⟨k', a⟩ := e
      simp only [keys, List.map_cons, List.nodup_cons] at h
      rcases List.mem_cons.mp hmem with heq | hmem
      · cases heq
        simp [get?]
      · have hother : k' ≠ key := fun hk => h.1 (hk ▸ List.mem_map_of_mem hmem)
        rw [get?, if_neg hother]
        exact ih h.2 hmem

/-- Values that are all changed in one way read back so. -/
theorem get?_map {β : Type} (key : κ) (f : α → β) (entries : List (κ × α)) :
    get? key (entries.map fun e => (e.1, f e.2)) = (get? key entries).map f := by
  induction entries with
  | nil => rfl
  | cons e rest ih =>
      obtain ⟨k', a⟩ := e
      by_cases hk : k' = key <;> simp [get?, hk, ih]

/-- A changed value reads back changed. -/
@[simp] theorem get?_modify_self (key : κ) (f : α → α) (entries : List (κ × α)) :
    get? key (modify key f entries) = (get? key entries).map f := by
  induction entries with
  | nil => rfl
  | cons e rest ih =>
      obtain ⟨k', a⟩ := e
      by_cases hk : k' = key <;> simp [modify, get?, hk, ih]

/-- Changing one value leaves the others as they were. -/
theorem get?_modify_of_ne {key other : κ} (h : other ≠ key) (f : α → α)
    (entries : List (κ × α)) : get? other (modify key f entries) = get? other entries := by
  induction entries with
  | nil => rfl
  | cons e rest ih =>
      obtain ⟨k', a⟩ := e
      by_cases hk : k' = key
      · subst hk
        simp [modify, get?, Ne.symm h]
      · simp [modify, get?, hk, ih]

/-- Selecting among entries with distinct keys selects among their values. -/
theorem get?_filter {key : κ} {p : κ × α → Bool} {entries : List (κ × α)}
    (h : (keys entries).Nodup) :
    get? key (entries.filter p) = (get? key entries).filter fun a => p (key, a) := by
  induction entries with
  | nil => rfl
  | cons e rest ih =>
      obtain ⟨k', a⟩ := e
      simp only [keys, List.map_cons, List.nodup_cons] at h
      have hrest := ih h.2
      by_cases hk : k' = key
      · subst hk
        have hnone : get? k' rest = none := get?_of_not_mem h.1
        by_cases hp : p (k', a)
        · simp [get?, hp, Option.filter_some]
        · rw [List.filter_cons_of_neg hp, hrest, hnone]
          simp [get?, hp, Option.filter_some]
      · by_cases hp : p (k', a)
        · rw [List.filter_cons_of_pos hp, get?, get?, if_neg hk, if_neg hk, hrest]
        · rw [List.filter_cons_of_neg hp, get?, if_neg hk, hrest]

/-! ### Writing and removing one entry -/

/-- A removed key has no value. -/
theorem get?_erase_self (key : κ) (entries : List (κ × α)) :
    get? key (erase key entries) = none := by
  refine get?_of_not_mem fun hmem => ?_
  obtain ⟨e, he, hkey⟩ := List.mem_map.mp hmem
  exact absurd hkey (by simpa using (List.mem_filter.mp he).2)

/-- Removing one key leaves the others as they were. -/
theorem get?_erase_of_ne {key other : κ} (h : other ≠ key) (entries : List (κ × α)) :
    get? other (erase key entries) = get? other entries := by
  induction entries with
  | nil => rfl
  | cons e rest ih =>
      obtain ⟨k', a⟩ := e
      rw [erase] at ih ⊢
      by_cases hk : k' = key
      · subst hk
        rw [List.filter_cons_of_neg (by simp), ih, get?, if_neg (Ne.symm h)]
      · rw [List.filter_cons_of_pos (by simpa using hk), get?, get?, ih]

/-- A new key is appended. -/
theorem put_of_not_mem {key : κ} {value : α} {entries : List (κ × α)}
    (h : ∀ e ∈ entries, e.1 ≠ key) : put key value entries = entries ++ [(key, value)] := by
  induction entries with
  | nil => rfl
  | cons e rest ih =>
      obtain ⟨k', a⟩ := e
      rw [put, if_neg (h _ List.mem_cons_self),
        ih fun e he => h e (List.mem_cons_of_mem _ he), List.cons_append]

/-- Writing adds no other entry than the written one. -/
theorem mem_of_mem_put {key : κ} {value : α} {entries : List (κ × α)} {e : κ × α}
    (h : e ∈ put key value entries) : e = (key, value) ∨ e ∈ entries := by
  induction entries with
  | nil => exact .inl (List.mem_singleton.mp h)
  | cons first rest ih =>
      obtain ⟨k', a⟩ := first
      rw [put] at h
      split at h
      · rcases List.mem_cons.mp h with hwritten | hmem
        · exact .inl hwritten
        · exact .inr (List.mem_cons_of_mem _ hmem)
      · rcases List.mem_cons.mp h with rfl | hmem
        · exact .inr List.mem_cons_self
        · exact (ih hmem).imp_right (List.mem_cons_of_mem _)

/-- Removing a key that is not there changes nothing. -/
theorem erase_of_not_mem {key : κ} {entries : List (κ × α)}
    (h : ∀ e ∈ entries, e.1 ≠ key) : erase key entries = entries := by
  rw [erase, List.filter_eq_self]
  intro e he
  simpa using h e he

/-- Removing the key that was appended restores the list. -/
theorem erase_append_singleton {key : κ} {value : α} {entries : List (κ × α)}
    (h : ∀ e ∈ entries, e.1 ≠ key) : erase key (entries ++ [(key, value)]) = entries := by
  have hself := erase_of_not_mem h
  rw [erase] at hself ⊢
  rw [List.filter_append, hself]
  simp

end Keyed

end Tollgate
