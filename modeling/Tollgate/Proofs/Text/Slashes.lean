import Mathlib.Data.List.DropRight
import Tollgate.Text.Blank

/-!
# Slashes at the ends of texts

Slashes at the end of an address, a prefix or a replacement carry no meaning and are trimmed, so that
any number of them says the same as none (`trimSlashes_append`). A slash is put in front of a path
that does not start with one (`rooted`).

## Main results

* `trimSlashes_trimSlashes`, `trimSlashes_append`: trimming once is enough, and slashes that are
  written after a text are trimmed with its own.
* `exists_append_trimSlashes`: nothing but slashes is trimmed.
* `head?_rooted`: a rooted path starts with a slash.
-/

namespace Tollgate

/-! ### At the end -/

/-- The characters of a text without the slashes at its end. -/
theorem toList_trimSlashes (s : String) :
    (trimSlashes s).toList = s.toList.rdropWhile (· == '/') := by
  rw [trimSlashes, String.toList_ofList]
  rfl

/-- Slashes are trimmed once. -/
theorem trimSlashes_trimSlashes (s : String) : trimSlashes (trimSlashes s) = trimSlashes s := by
  apply String.toList_injective
  rw [toList_trimSlashes, toList_trimSlashes, List.rdropWhile_idempotent]

/-- A text is what is left of it and slashes. -/
theorem exists_append_trimSlashes (s : String) :
    ∃ slashes, s.toList = (trimSlashes s).toList ++ slashes ∧ ∀ c ∈ slashes, c = '/' := by
  refine ⟨s.toList.rtakeWhile (· == '/'), ?_, fun c hc => ?_⟩
  · rw [toList_trimSlashes, List.rdropWhile_append_rtakeWhile]
  · simpa using List.mem_rtakeWhile_imp hc

/-- What is left has characters of the text. -/
theorem mem_of_mem_trimSlashes {s : String} {c : Char} (h : c ∈ (trimSlashes s).toList) :
    c ∈ s.toList := by
  rw [toList_trimSlashes] at h
  exact (List.rdropWhile_prefix _ _).subset h

/-- What starts with a slash still does when it is trimmed, unless there is nothing in it but
slashes. -/
theorem head?_trimSlashes {s : String} (hslash : s.toList.head? = some '/')
    (hother : ∃ c ∈ s.toList, c ≠ '/') : (trimSlashes s).toList.head? = some '/' := by
  obtain ⟨slashes, happend, hslashes⟩ := exists_append_trimSlashes s
  rcases htrimmed : (trimSlashes s).toList with _ | ⟨c, rest⟩
  · obtain ⟨c, hc, hne⟩ := hother
    rw [happend, htrimmed, List.nil_append] at hc
    exact absurd (hslashes c hc) hne
  · rw [happend, htrimmed, List.cons_append, List.head?_cons] at hslash
    rw [List.head?_cons, hslash]

/-- **More slashes at the end** say nothing more. -/
theorem trimSlashes_append {slashes : String} (h : ∀ c ∈ slashes.toList, c = '/') (s : String) :
    trimSlashes (s ++ slashes) = trimSlashes s := by
  apply String.toList_injective
  rw [toList_trimSlashes, toList_trimSlashes, String.toList_append, List.rdropWhile,
    List.reverse_append, List.dropWhile_append_of_pos, List.rdropWhile]
  intro c hc
  rw [h c (List.mem_reverse.mp hc), beq_self_eq_true]

/-- Trimming stops at a character that is kept. -/
theorem rdropWhile_append_of_getLast? {p : Char → Bool} {front : List Char} {c : Char}
    (h : front.getLast? = some c) (hc : p c = false) (cs : List Char) :
    (front ++ cs).rdropWhile p = front ++ cs.rdropWhile p := by
  obtain ⟨before, rfl⟩ := List.getLast?_eq_some_iff.mp h
  induction cs using List.reverseRecOn with
  | nil =>
      rw [List.append_nil, List.rdropWhile_nil, List.append_nil, List.rdropWhile_concat,
        if_neg (ne_true_of_eq_false hc)]
  | append_singleton cs d ih =>
      rw [← List.append_assoc, List.rdropWhile_concat, List.rdropWhile_concat, ih]
      split
      · rfl
      · rw [List.append_assoc]

/-! ### In front -/

/-- The target of a request with a slash in front. -/
def rooted (target : String) : String :=
  match target.toList with
  | '/' :: _ => target
  | _ => "/" ++ target

/-- What starts with a slash is rooted. -/
theorem rooted_of_head? {target : String} (h : target.toList.head? = some '/') :
    rooted target = target := by
  obtain ⟨rest, hrest⟩ := List.head?_eq_some_iff.mp h
  unfold rooted
  split
  · rfl
  · next hnone => exact absurd hrest (hnone rest)

/-- What does not start with a slash is rooted by one. -/
theorem rooted_of_forall_ne {target : String} (h : ∀ rest, target.toList ≠ '/' :: rest) :
    rooted target = "/" ++ target := by
  unfold rooted
  split
  · next rest hrest => exact absurd hrest (h rest)
  · rfl

/-- A rooted target starts with a slash. -/
theorem head?_rooted (target : String) : (rooted target).toList.head? = some '/' := by
  rw [rooted]
  split
  · next rest htarget => rw [htarget, List.head?_cons]
  · rw [String.toList_append]
    rfl

/-- A rooted target has the characters of the target, and a slash. -/
theorem mem_rooted {target : String} {c : Char} (h : c ∈ (rooted target).toList) :
    c ∈ target.toList ∨ c = '/' := by
  rw [rooted] at h
  split at h
  · exact .inl h
  · rw [String.toList_append, List.mem_append] at h
    rcases h with h | h
    · exact .inr (by simpa using h)
    · exact .inl h

/-- The characters of a target are there when it is rooted. -/
theorem mem_rooted_of_mem {target : String} {c : Char} (h : c ∈ target.toList) :
    c ∈ (rooted target).toList := by
  rw [rooted]
  split
  · exact h
  · rw [String.toList_append]
    exact List.mem_append_right _ h

end Tollgate
