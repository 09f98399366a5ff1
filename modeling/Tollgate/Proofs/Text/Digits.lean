import Mathlib.Algebra.Group.Nat.Defs
import Mathlib.Data.List.Basic

/-!
# Numbers as texts

A number is written with its decimal digits, behind a dash if it is negative, and with no other
character (`isDigit_or_dash_of_mem`). It is read back from its text (`toString_int_injective`).
-/

namespace Tollgate

/-- A natural number is written with digits. -/
theorem isDigit_of_mem_toString {n : Nat} {c : Char} (h : c ∈ (toString n).toList) :
    c.isDigit = true := by
  rw [Nat.toString_eq_repr, Nat.toList_repr] at h
  exact Nat.isDigit_of_mem_toDigits (by decide) (by decide) h

/-- The decimal digits of a number hold no other character. -/
theorem not_mem_toDigits {x : Char} (hx : x.isDigit = false) (n : Nat) :
    x ∉ Nat.toDigits 10 n := by
  intro hmem
  have := Nat.isDigit_of_mem_toDigits (by omega) (by omega) hmem
  rw [hx] at this
  exact absurd this (by decide)

/-- A number is read back from its decimal digits. -/
theorem toDigits_injective {m n : Nat} (h : Nat.toDigits 10 m = Nat.toDigits 10 n) : m = n := by
  rw [← @Nat.ofDigitChars_ten_toDigits m, h, Nat.ofDigitChars_ten_toDigits]

/-- The characters of a signed number: its digits, behind a dash if it is negative. -/
theorem toList_toString_int (n : Int) :
    (toString n).toList
      = if 0 ≤ n then Nat.toDigits 10 n.toNat else '-' :: Nat.toDigits 10 (-n).toNat := by
  rw [Int.toString_eq_repr, Int.repr_eq_if]
  split <;> simp [String.toList_append]

/-- A signed number is written with digits and a dash. -/
theorem isDigit_or_dash_of_mem {n : Int} {c : Char} (h : c ∈ (toString n).toList) :
    c.isDigit = true ∨ c = '-' := by
  have hdigits : ∀ k, c ∈ Nat.toDigits 10 k → c.isDigit = true := fun k =>
    Nat.isDigit_of_mem_toDigits (by decide) (by decide)
  rw [toList_toString_int] at h
  split at h
  · exact .inl (hdigits _ h)
  · rcases List.mem_cons.mp h with hdash | hmem
    · exact .inr hdash
    · exact .inl (hdigits _ hmem)

/-- A signed number is written without a colon. -/
theorem colon_not_mem_toString_int (n : Int) : ':' ∉ (toString n).toList := by
  intro h
  rcases isDigit_or_dash_of_mem h with hdigit | hdash
  · exact absurd hdigit (by decide)
  · exact absurd hdash (by decide)

/-- A signed number is read back from its text. -/
theorem toString_int_injective {m n : Int} (h : (toString m).toList = (toString n).toList) :
    m = n := by
  have hdash : ∀ k, '-' ∉ Nat.toDigits 10 k := not_mem_toDigits (by decide)
  rw [toList_toString_int, toList_toString_int] at h
  split at h <;> split at h
  · have := toDigits_injective h
    omega
  · exact absurd (h ▸ List.mem_cons_self) (hdash _)
  · exact absurd (h ▸ List.mem_cons_self) (hdash _)
  · simp only [List.cons.injEq, true_and] at h
    have := toDigits_injective h
    omega

end Tollgate
