/-!
# Keyed lists

A list of pairs read as a finite map: a key stands for the first pair that holds it. Writing keeps
the place of a key that is present and appends a new one, so that a list built by writing alone
holds every key once, in the order of the first writes.
-/

namespace Tollgate

namespace Keyed

variable {κ α : Type} [DecidableEq κ]

/-- The value of a key. -/
def get? (key : κ) : List (κ × α) → Option α
  | [] => none
  | (k, a) :: rest => if k = key then some a else get? key rest

/-- The list with `key` holding `value`. -/
def put (key : κ) (value : α) : List (κ × α) → List (κ × α)
  | [] => [(key, value)]
  | (k, a) :: rest => if k = key then (key, value) :: rest else (k, a) :: put key value rest

/-- The list without `key`. -/
def erase (key : κ) (entries : List (κ × α)) : List (κ × α) :=
  entries.filter fun e => e.1 ≠ key

/-- The list with the value of a present key replaced by `f` of it. -/
def modify (key : κ) (f : α → α) : List (κ × α) → List (κ × α)
  | [] => []
  | (k, a) :: rest => if k = key then (k, f a) :: rest else (k, a) :: modify key f rest

/-- The keys, in order. -/
def keys (entries : List (κ × α)) : List κ :=
  entries.map Prod.fst

@[simp] theorem get?_nil (key : κ) : get? key ([] : List (κ × α)) = none := rfl

/-- A written key reads back. -/
@[simp] theorem get?_put_self (key : κ) (value : α) (entries : List (κ × α)) :
    get? key (put key value entries) = some value := by
  induction entries with
  | nil => simp [put, get?]
  | cons e rest ih =>
    simp only [put]
    split <;> rename_i h <;> simp [get?, h, ih]

/-- Writing one key leaves the others as they were. -/
theorem get?_put_of_ne {key other : κ} (h : other ≠ key) (value : α) (entries : List (κ × α)) :
    get? other (put key value entries) = get? other entries := by
  induction entries with
  | nil => simp [put, get?, Ne.symm h]
  | cons e rest ih =>
    simp only [put]
    split
    · rename_i hk
      simp [get?, hk, Ne.symm h]
    · simp only [get?, ih]

end Keyed

end Tollgate
