import DubCheck.Failure
import Mathlib
/-!
# Failing in one way

Whoever does something says in which way it may fail, and callers look for nothing else.  An outcome
is `Lawful` if it is a good result or a failure of this kind.

* `bind_eq_ok_iff`, `bind_eq_error_iff`: what comes of one step after another.
* `lawful_bind_iff`: two steps are lawful if the first one is, with results from which the second
  one is.
* `findM?_eq_error_iff`: where a search fails.
-/

namespace DubCheck

variable {α β ε : Type}

/-! ## Steps that may fail -/

section

variable {ε' : Type} {x : Except ε α}

lemma bind_eq_ok_iff {f : α → Except ε β} {b : β} :
    x >>= f = .ok b ↔ ∃ a, x = .ok a ∧ f a = .ok b := by
  cases x <;> simp [bind, Except.bind]

/-- Two steps fail where the first one does, or the second one with what the first one gives. -/
lemma bind_eq_error_iff {f : α → Except ε β} {e : ε} :
    x >>= f = .error e ↔ x = .error e ∨ ∃ a, x = .ok a ∧ f a = .error e := by
  cases x <;> simp [bind, Except.bind]

lemma map_eq_ok_iff {f : α → β} {b : β} : x.map f = .ok b ↔ ∃ a, x = .ok a ∧ f a = b := by
  cases x <;> simp [Except.map]

lemma map_eq_error_iff {f : α → β} {e : ε} : x.map f = .error e ↔ x = .error e := by
  cases x <;> simp [Except.map]

lemma mapError_eq_ok_iff {f : ε → ε'} {a : α} : x.mapError f = .ok a ↔ x = .ok a := by
  cases x <;> simp [Except.mapError]

lemma mapError_eq_error_iff {f : ε → ε'} {e' : ε'} :
    x.mapError f = .error e' ↔ ∃ e, x = .error e ∧ f e = e' := by
  cases x <;> simp [Except.mapError]

end

/-! ## Outcomes of one kind -/

variable {wrap : ε → Failure} {good : α → Prop}

/-- The outcome is a good result, or a failure of the kind that `wrap` makes. -/
def Lawful (wrap : ε → Failure) (good : α → Prop) (outcome : Except Failure α) : Prop :=
  (∃ a, outcome = .ok a ∧ good a) ∨ ∃ e, outcome = .error (wrap e)

lemma lawful_ok_iff {a : α} : Lawful wrap good (.ok a) ↔ good a := by
  constructor
  · rintro (⟨b, hb, hgood⟩ | ⟨e, he⟩)
    · cases hb
      exact hgood
    · cases he
  · intro hgood
    exact Or.inl ⟨a, rfl, hgood⟩

lemma lawful_error_iff {f : Failure} : Lawful wrap good (.error f) ↔ ∃ e, f = wrap e := by
  constructor
  · rintro (⟨b, hb, -⟩ | ⟨e, he⟩)
    · cases hb
    · exact ⟨e, Except.error.inj he⟩
  · rintro ⟨e, rfl⟩
    exact Or.inr ⟨e, rfl⟩

lemma lawful_bind_iff {good : β → Prop} {x : Except Failure α} {f : α → Except Failure β} :
    Lawful wrap good (x >>= f) ↔ Lawful wrap (fun a => Lawful wrap good (f a)) x := by
  cases x with
  | ok a =>
    rw [lawful_ok_iff]
    rfl
  | error e =>
    rw [lawful_error_iff]
    exact lawful_error_iff

/-! ## Searching -/

variable {f : α → Except Failure Bool} {xs : List α}

/-- A search fails where looking at one of the things fails, after those before it have been found
not to be it. -/
lemma findM?_eq_error_iff {e : Failure} :
    xs.findM? f = .error e ↔ ∃ before x after, xs = before ++ x :: after ∧
      (∀ y ∈ before, f y = .ok false) ∧ f x = .error e := by
  induction xs with
  | nil => exact iff_of_false (by rintro ⟨⟩) (by simp)
  | cons x xs ih =>
    rw [List.findM?]
    constructor
    · intro h
      rcases bind_eq_error_iff.mp h with hx | ⟨found, hx, h⟩
      · exact ⟨[], x, xs, rfl, by simp, hx⟩
      · cases found with
        | true => cases h
        | false =>
          obtain ⟨before, y, after, rfl, hbefore, hy⟩ := ih.mp h
          exact ⟨x :: before, y, after, rfl, List.forall_mem_cons.mpr ⟨hx, hbefore⟩, hy⟩
    · rintro ⟨before, y, after, heq, hbefore, hy⟩
      cases before with
      | nil =>
        cases heq
        rw [hy]
        rfl
      | cons z before =>
        cases heq
        rw [List.forall_mem_cons] at hbefore
        rw [hbefore.1]
        exact ih.mpr ⟨before, y, after, rfl, hbefore.2, hy⟩

lemma of_findM?_eq_some {x : α} (h : xs.findM? f = .ok (some x)) : x ∈ xs ∧ f x = .ok true := by
  induction xs with
  | nil => cases h
  | cons y xs ih =>
    rw [List.findM?] at h
    obtain ⟨found, hy, h⟩ := bind_eq_ok_iff.mp h
    cases found with
    | true =>
      cases h
      exact ⟨List.mem_cons_self, hy⟩
    | false => exact ⟨List.mem_cons_of_mem y (ih h).1, (ih h).2⟩

end DubCheck
