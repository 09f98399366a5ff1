import Mathlib.Algebra.Group.Nat.Defs
import Mathlib.Data.List.Basic
import Tollgate.Proofs.Text.Digits
import Tollgate.Window.Limiter

/-!
# The members of a window

The text of a member names its hit: the second, the caller, the nonce of the limiter and the
sequence number can all be read back from it (`memberText_inj`), whatever the caller's text
contains. The sequence number has no dash, so the last dash of the text delimits it; the nonce has
sixteen digits, so it is what stands before that dash; the second has no colon, so the first colon
delimits it. What is left between is the caller.
-/

namespace Tollgate

/-! ### Delimiters -/

/-- The first occurrence of a delimiter splits a list in one way. -/
theorem append_cons_inj_of_first {α : Type} {x : α} {a b c d : List α} (ha : x ∉ a) (hb : x ∉ b)
    (h : a ++ x :: c = b ++ x :: d) : a = b ∧ c = d := by
  induction a generalizing b with
  | nil =>
      cases b with
      | nil => simpa using h
      | cons y b =>
          simp only [List.nil_append, List.cons_append, List.cons.injEq] at h
          exact absurd (h.1 ▸ List.mem_cons_self) hb
  | cons z a ih =>
      cases b with
      | nil =>
          simp only [List.nil_append, List.cons_append, List.cons.injEq] at h
          exact absurd (h.1 ▸ List.mem_cons_self) ha
      | cons y b =>
          simp only [List.cons_append, List.cons.injEq] at h
          obtain ⟨hab, hcd⟩ := ih (List.not_mem_of_not_mem_cons ha)
            (List.not_mem_of_not_mem_cons hb) h.2
          exact ⟨by rw [h.1, hab], hcd⟩

/-- The last occurrence of a delimiter splits a list in one way. -/
theorem append_cons_inj_of_last {α : Type} {x : α} {a b c d : List α} (hc : x ∉ c) (hd : x ∉ d)
    (h : a ++ x :: c = b ++ x :: d) : a = b ∧ c = d := by
  have hrev : c.reverse ++ x :: a.reverse = d.reverse ++ x :: b.reverse := by
    simpa using congrArg List.reverse h
  obtain ⟨hcd, hab⟩ := append_cons_inj_of_first (by simpa using hc) (by simpa using hd) hrev
  exact ⟨List.reverse_injective hab, List.reverse_injective hcd⟩

/-! ### Digits -/

/-- Hexadecimal digits are told apart. -/
theorem digitChar_injOn {m n : Nat} (hm : m < 16) (hn : n < 16)
    (h : Nat.digitChar m = Nat.digitChar n) : m = n := by
  have hall : ∀ i : Fin 16, ∀ j : Fin 16, Nat.digitChar i = Nat.digitChar j → i = j := by decide
  exact congrArg Fin.val (hall ⟨m, hm⟩ ⟨n, hn⟩ h)

/-- As many digits as asked for. -/
theorem length_fixedHex (width n : Nat) : (fixedHex width n).length = width := by
  induction width generalizing n with
  | zero => rfl
  | succ width ih => simp [fixedHex, ih]

/-- A number that fits is read back from its hexadecimal digits. -/
theorem fixedHex_injOn {width m n : Nat} (hm : m < 16 ^ width) (hn : n < 16 ^ width)
    (h : fixedHex width m = fixedHex width n) : m = n := by
  induction width generalizing m n with
  | zero => rw [Nat.pow_zero] at hm hn; omega
  | succ width ih =>
      rw [Nat.pow_succ] at hm hn
      obtain ⟨hfront, hlast⟩ := List.append_inj h (by rw [length_fixedHex, length_fixedHex])
      have hdiv := ih (by omega) (by omega) hfront
      have hmod := digitChar_injOn (Nat.mod_lt _ (by omega)) (Nat.mod_lt _ (by omega))
        (List.cons.inj hlast).1
      omega

/-! ### Members -/

/-- The characters of a member. -/
theorem toList_memberText (now : Int) (identifier : String) (nonce sequence : Nat) :
    (memberText now identifier nonce sequence).toList
      = ((toString now).toList ++ ':' :: (identifier.toList ++ ':' :: fixedHex 16 nonce))
        ++ '-' :: Nat.toDigits 10 sequence := by
  simp [memberText, String.toList_append]

/-- The parts of a member, the nonce by its digits. -/
theorem memberText_parts {now now' : Int} {identifier identifier' : String}
    {nonce nonce' sequence sequence' : Nat}
    (h : memberText now identifier nonce sequence = memberText now' identifier' nonce' sequence') :
    now = now' ∧ identifier = identifier' ∧ fixedHex 16 nonce = fixedHex 16 nonce' ∧
      sequence = sequence' := by
  have hdash : ∀ k, '-' ∉ Nat.toDigits 10 k := not_mem_toDigits (by decide)
  have hlist := congrArg String.toList h
  rw [toList_memberText, toList_memberText] at hlist
  obtain ⟨hfront, hsequence⟩ := append_cons_inj_of_last (hdash _) (hdash _) hlist
  obtain ⟨hnow, hrest⟩ := append_cons_inj_of_first (colon_not_mem_toString_int now)
    (colon_not_mem_toString_int now') hfront
  -- The nonces have the same length, so the callers end at the same place.
  obtain ⟨hcaller, hnonce⟩ := List.append_inj' hrest
    (by rw [List.length_cons, List.length_cons, length_fixedHex, length_fixedHex])
  exact ⟨toString_int_injective hnow, String.toList_inj.mp hcaller, (List.cons.inj hnonce).2,
    toDigits_injective hsequence⟩

/-- **A member names its hit**: the second, the caller, the nonce and the sequence number. -/
theorem memberText_inj {now now' : Int} {identifier identifier' : String}
    {nonce nonce' sequence sequence' : Nat} (hn : nonce ≤ maxUnsigned64)
    (hn' : nonce' ≤ maxUnsigned64)
    (h : memberText now identifier nonce sequence = memberText now' identifier' nonce' sequence') :
    now = now' ∧ identifier = identifier' ∧ nonce = nonce' ∧ sequence = sequence' := by
  have hwidth : maxUnsigned64 < 16 ^ 16 := by decide
  obtain ⟨hnow, hidentifier, hnonce, hsequence⟩ := memberText_parts h
  exact ⟨hnow, hidentifier, fixedHex_injOn (by omega) (by omega) hnonce, hsequence⟩

end Tollgate
