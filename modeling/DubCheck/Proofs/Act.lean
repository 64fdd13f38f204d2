import DubCheck.Act
import Mathlib
/-!
# What actions keep

A `Frame` says which states are looked at and in which ways they may change.  An action is sound in
a frame if, from all states of the frame, it is not interrupted and changes the state in one of
these ways, whether it succeeds or fails.  Actions that are put together from sound ones are sound.

`Preserves` is about one property of states, and `Related` about two runs from related states.
-/

namespace DubCheck

variable {α β ε : Type}

/-! ## Failures other than interruptions -/

lemma bind_ne_interrupted {r : Except Failure α} {f : α → Except Failure β}
    (hr : r ≠ .error .interrupted) (hf : ∀ x, f x ≠ .error .interrupted) :
    r >>= f ≠ .error .interrupted := by
  cases r with
  | error e =>
    rintro ⟨⟩
    exact hr rfl
  | ok x => exact hf x

lemma mapError_ne_interrupted {r : Except ε α} {f : ε → Failure} (hf : ∀ e, f e ≠ .interrupted) :
    r.mapError f ≠ .error .interrupted := by
  cases r with
  | error e =>
    intro h
    exact hf e (Except.error.inj h)
  | ok x => rintro ⟨⟩

lemma foldlM_ne_interrupted {f : β → α → Except Failure β} (hf : ∀ b x, f b x ≠ .error .interrupted)
    (b : β) (xs : List α) : xs.foldlM f b ≠ .error .interrupted := by
  induction xs generalizing b with
  | nil => rintro ⟨⟩
  | cons x xs ih =>
    rw [List.foldlM_cons]
    exact bind_ne_interrupted (hf b x) ih

lemma findM?_ne_interrupted {f : α → Except Failure Bool} (hf : ∀ x, f x ≠ .error .interrupted)
    (xs : List α) : xs.findM? f ≠ .error .interrupted := by
  induction xs with
  | nil => rintro ⟨⟩
  | cons x xs ih =>
    rw [List.findM?]
    refine bind_ne_interrupted (hf x) fun found => ?_
    cases found with
    | true => rintro ⟨⟩
    | false => exact ih

namespace Act

/-- Some states, and the ways in which they may change. -/
structure Frame (σ : Type) where
  holds : σ → Prop
  allows : σ → σ → Prop
  refl : ∀ s, allows s s
  trans : ∀ {s t u}, allows s t → allows t u → allows s u
  keeps : ∀ {s t}, holds s → allows s t → holds t

variable {σ τ : Type} {F : Frame σ} {G : Frame τ}

/-- The action is not interrupted and changes states only as the frame allows. -/
def Sound (F : Frame σ) (a : Act σ α) : Prop :=
  ∀ s, F.holds s → (a.apply s).1 ≠ .error .interrupted ∧ F.allows s (a.apply s).2

/-- Where two actions have succeeded one after the other, each of them has. -/
lemma exists_of_bind_eq_ok {a : Act σ α} {f : α → Act σ β} {s u : σ} {y : β}
    (h : (a >>= f).apply s = (.ok y, u)) :
    ∃ x t, a.apply s = (.ok x, t) ∧ (f x).apply t = (.ok y, u) := by
  rw [apply_bind] at h
  rcases ha : a.apply s with ⟨e | x, t⟩
  · rw [ha] at h
    cases h
  · rw [ha] at h
    exact ⟨x, t, rfl, h⟩

lemma apply_outcome_of_ne {a : Act σ α} {s : σ} (h : (a.apply s).1 ≠ .error .interrupted) :
    a.outcome.apply s = (.ok (a.apply s).1, (a.apply s).2) := by
  rw [apply_outcome]
  rcases hr : a.apply s with ⟨e | x, t⟩
  · rw [hr] at h
    cases e <;> first | rfl | exact absurd rfl h
  · rfl

namespace Sound

protected lemma pure (x : α) : Sound F (pure x) :=
  fun s _ => ⟨by simp, F.refl s⟩

protected lemma throw {e : Failure} (he : e ≠ .interrupted) : Sound F (throw e : Act σ α) :=
  fun s _ => ⟨by simpa using he, F.refl s⟩

protected lemma ofExcept {r : Except Failure α} (hr : r ≠ .error .interrupted) :
    Sound F (ofExcept r) :=
  fun s _ => ⟨hr, F.refl s⟩

protected lemma get : Sound F (get : Act σ σ) :=
  fun s _ => ⟨by simp, F.refl s⟩

protected lemma modify {f : σ → σ} (hf : ∀ s, F.holds s → F.allows s (f s)) :
    Sound F (modify f : Act σ Unit) :=
  fun s hs => ⟨by simp, hf s hs⟩

protected lemma bind {a : Act σ α} {f : α → Act σ β} (ha : Sound F a) (hf : ∀ x, Sound F (f x)) :
    Sound F (a >>= f) := by
  intro s hs
  obtain ⟨hne, hallows⟩ := ha s hs
  rw [apply_bind]
  rcases h : a.apply s with ⟨e | x, t⟩
  · rw [h] at hne hallows
    exact ⟨fun he => hne (by cases he; rfl), hallows⟩
  · rw [h] at hallows
    obtain ⟨hne', hallows'⟩ := hf x t (F.keeps hs hallows)
    exact ⟨hne', F.trans hallows hallows'⟩

/-- What is done with a result may depend on where it comes from. -/
protected lemma ofExcept_bind {r : Except Failure α} {f : α → Act σ β}
    (hr : r ≠ .error .interrupted) (hf : ∀ x, r = .ok x → Sound F (f x)) :
    Sound F (ofExcept r >>= f) := by
  cases r with
  | error e => exact .throw fun he => hr (congrArg _ he)
  | ok x => exact hf x rfl

/-- What is done with the state that is there may depend on what holds of it. -/
protected lemma get_bind {f : σ → Act σ β} (hf : ∀ s, F.holds s → Sound F (f s)) :
    Sound F (get >>= f) := by
  intro s hs
  rw [apply_bind, apply_get]
  exact hf s hs s hs

protected lemma outcome {a : Act σ α} (ha : Sound F a) : Sound F a.outcome := by
  intro s hs
  obtain ⟨hne, hallows⟩ := ha s hs
  rw [apply_outcome_of_ne hne]
  exact ⟨by simp, hallows⟩

/-- An action on a part of the state is sound if it is sound on that part, and what may happen to
the part may happen to the whole. -/
protected lemma onPart {part : σ → τ} {update : τ → σ → σ} {a : Act τ α} (ha : Sound G a)
    (hpart : ∀ s, F.holds s → G.holds (part s))
    (hupdate : ∀ s t, F.holds s → G.allows (part s) t → F.allows s (update t s)) :
    Sound F (onPart part update a) := by
  intro s hs
  obtain ⟨hne, hallows⟩ := ha (part s) (hpart s hs)
  rw [apply_onPart]
  exact ⟨hne, hupdate s _ hs hallows⟩

protected lemma forM {xs : List α} {f : α → Act σ Unit} (hf : ∀ x, Sound F (f x)) :
    Sound F (xs.forM f) := by
  induction xs with
  | nil => exact .pure ()
  | cons x xs ih => exact (hf x).bind fun _ => ih

end Sound

/-! ## What actions preserve -/

/-- Whatever the outcome, a property of the state still holds. -/
def Preserves (P : σ → Prop) (a : Act σ α) : Prop :=
  ∀ s, P s → P (a.apply s).2

namespace Preserves

variable {P : σ → Prop}

protected lemma pure (x : α) : Preserves P (pure x : Act σ α) :=
  fun _ hs => hs

protected lemma throw (e : Failure) : Preserves P (throw e : Act σ α) :=
  fun _ hs => hs

protected lemma ofExcept (r : Except Failure α) : Preserves P (ofExcept r) :=
  fun _ hs => hs

protected lemma get : Preserves P (get : Act σ σ) :=
  fun _ hs => hs

protected lemma bind {a : Act σ α} {f : α → Act σ β} (ha : Preserves P a)
    (hf : ∀ x, Preserves P (f x)) : Preserves P (a >>= f) := by
  intro s hs
  have hs' := ha s hs
  rw [apply_bind]
  rcases h : a.apply s with ⟨e | x, t⟩
  · rw [h] at hs'
    exact hs'
  · rw [h] at hs'
    exact hf x t hs'

protected lemma outcome {a : Act σ α} (ha : Preserves P a) : Preserves P a.outcome := by
  intro s hs
  have hs' := ha s hs
  rw [apply_outcome]
  rcases h : a.apply s with ⟨e | x, t⟩
  · rw [h] at hs'
    cases e <;> exact hs'
  · rw [h] at hs'
    exact hs'

end Preserves

/-! ## Two runs -/

/-- The outcomes of two runs agree: they are the same failure, or results that are related. -/
def Agree (Q : α → β → Prop) : Except Failure α → Except Failure β → Prop
  | .ok x, .ok y => Q x y
  | .error e, .error f => e = f
  | _, _ => False

lemma agree_refl (r : Except Failure α) : Agree Eq r r := by
  cases r <;> rfl

lemma Agree.eq {r q : Except Failure α} (h : Agree Eq r q) : r = q := by
  cases r <;> cases q <;> first | exact h.elim | exact congrArg _ h

/-- From related states, two actions lead to related states, and their outcomes agree. -/
def Related (R : σ → σ → Prop) (Q : α → β → Prop) (a : Act σ α) (b : Act σ β) : Prop :=
  ∀ s t, R s t → Agree Q (a.apply s).1 (b.apply t).1 ∧ R (a.apply s).2 (b.apply t).2

namespace Related

variable {α' β' : Type} {R : σ → σ → Prop} {Q : α → α' → Prop} {Q' : β → β' → Prop}

protected lemma pure {x : α} {y : α'} (h : Q x y) : Related R Q (pure x) (pure y) :=
  fun _ _ hst => ⟨h, hst⟩

protected lemma throw (e : Failure) : Related R Q (throw e) (throw e) :=
  fun _ _ hst => ⟨rfl, hst⟩

protected lemma ofExcept (r : Except Failure α) : Related R Eq (ofExcept r) (ofExcept r) :=
  fun _ _ hst => ⟨agree_refl r, hst⟩

protected lemma modify {f g : σ → σ} (h : ∀ s t, R s t → R (f s) (g t)) :
    Related R Eq (modify f : Act σ Unit) (modify g) :=
  fun s t hst => ⟨rfl, h s t hst⟩

protected lemma bind {a : Act σ α} {b : Act σ α'} {f : α → Act σ β} {g : α' → Act σ β'}
    (h : Related R Q a b) (hf : ∀ x y, Q x y → Related R Q' (f x) (g y)) :
    Related R Q' (a >>= f) (b >>= g) := by
  intro s t hst
  obtain ⟨hagree, hrelated⟩ := h s t hst
  rw [apply_bind, apply_bind]
  rcases ha : a.apply s with ⟨e | x, s'⟩ <;> rcases hb : b.apply t with ⟨e' | y, t'⟩ <;>
    rw [ha, hb] at hagree hrelated
  · exact ⟨hagree, hrelated⟩
  · exact hagree.elim
  · exact hagree.elim
  · exact hf x y hagree s' t' hrelated

/-- What comes after two runs with the same result. -/
protected lemma bind_eq {a b : Act σ α} {f : α → Act σ β} {g : α → Act σ β'}
    (h : Related R Eq a b) (hf : ∀ x, Related R Q' (f x) (g x)) :
    Related R Q' (a >>= f) (b >>= g) :=
  h.bind fun x _ hx => hx ▸ hf x

/-- What is done with the states that are there may depend on how they are related. -/
protected lemma get_bind {f : σ → Act σ β} {g : σ → Act σ β'}
    (hf : ∀ s t, R s t → Related R Q' (f s) (g t)) : Related R Q' (get >>= f) (get >>= g) := by
  intro s t hst
  rw [apply_bind, apply_bind]
  exact hf s t hst s t hst

protected lemma outcome {a b : Act σ α} (h : Related R Eq a b) :
    Related R Eq a.outcome b.outcome := by
  intro s t hst
  obtain ⟨hagree, hrelated⟩ := h s t hst
  rw [apply_outcome, apply_outcome]
  rcases ha : a.apply s with ⟨r, s'⟩
  rcases hb : b.apply t with ⟨q, t'⟩
  rw [ha, hb] at hagree hrelated
  obtain rfl : r = q := hagree.eq
  cases r with
  | error e => cases e <;> exact ⟨rfl, hrelated⟩
  | ok x => exact ⟨rfl, hrelated⟩

/-- Runs on parts of related states are related if these parts are and may be put back. -/
protected lemma onPart {S : τ → τ → Prop} {part : σ → τ} {update : τ → σ → σ} {a : Act τ α}
    {b : Act τ α'} (h : Related S Q a b) (hpart : ∀ s t, R s t → S (part s) (part t))
    (hupdate : ∀ s t x y, R s t → S x y → R (update x s) (update y t)) :
    Related R Q (onPart part update a) (onPart part update b) := by
  intro s t hst
  obtain ⟨hagree, hrelated⟩ := h _ _ (hpart s t hst)
  rw [apply_onPart, apply_onPart]
  exact ⟨hagree, hupdate s t _ _ hst hrelated⟩

end Related

end Act

end DubCheck
