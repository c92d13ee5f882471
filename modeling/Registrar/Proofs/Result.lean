/-!
# Steps that may fail

When a step that is made of others gives a result, each of them did. When it fails, the first of
them that fails says why.
-/

namespace Registrar

variable {ε α β σ : Type}

theorem ok_bind (a : α) (f : α → Except ε β) : (.ok a >>= f) = f a :=
  rfl

theorem error_bind (why : ε) (f : α → Except ε β) : (.error why >>= f) = .error why :=
  rfl

theorem bind_eq_ok_iff {x : Except ε α} {f : α → Except ε β} {b : β} :
    (x >>= f) = .ok b ↔ ∃ a, x = .ok a ∧ f a = .ok b := by
  cases x with
  | error why =>
    refine ⟨?_, ?_⟩
    · intro h
      cases h
    · rintro ⟨_, h, _⟩
      cases h
  | ok a =>
    refine ⟨?_, ?_⟩
    · intro h
      exact ⟨a, rfl, h⟩
    · rintro ⟨_, ha, h⟩
      cases ha
      exact h

theorem map_eq_ok_iff {x : Except ε α} {f : α → β} {b : β} :
    f <$> x = .ok b ↔ ∃ a, x = .ok a ∧ f a = b := by
  cases x with
  | error why =>
    refine ⟨?_, ?_⟩
    · intro h
      cases h
    · rintro ⟨_, h, _⟩
      cases h
  | ok a =>
    refine ⟨?_, ?_⟩
    · intro h
      exact ⟨a, rfl, Except.ok.inj h⟩
    · rintro ⟨_, ha, rfl⟩
      cases ha
      rfl

theorem mapError_eq_ok_iff {ε' : Type} {x : Except ε α} {f : ε → ε'} {a : α} :
    x.mapError f = .ok a ↔ x = .ok a := by
  cases x with
  | error why =>
    refine ⟨?_, ?_⟩
    · intro h
      cases h
    · intro h
      cases h
  | ok b =>
    refine ⟨?_, ?_⟩
    · intro h
      cases h
      rfl
    · intro h
      cases h
      rfl

/-! ## The first failure -/

theorem bind_eq_error_iff {x : Except ε α} {f : α → Except ε β} {why : ε} :
    (x >>= f) = .error why ↔ x = .error why ∨ ∃ a, x = .ok a ∧ f a = .error why := by
  cases x with
  | error first =>
    refine ⟨fun h => ?_, ?_⟩
    · cases h
      exact .inl rfl
    · rintro (h | ⟨_, h, _⟩)
      · cases h
        rfl
      · cases h
  | ok a =>
    refine ⟨fun h => .inr ⟨a, rfl, h⟩, ?_⟩
    rintro (h | ⟨_, ha, h⟩)
    · cases h
    · cases ha
      exact h

theorem map_eq_error_iff {x : Except ε α} {f : α → β} {why : ε} :
    f <$> x = .error why ↔ x = .error why := by
  cases x with
  | error first =>
    refine ⟨?_, ?_⟩
    · intro h
      cases h
      rfl
    · intro h
      cases h
      rfl
  | ok a =>
    refine ⟨?_, ?_⟩
    · intro h
      cases h
    · intro h
      cases h

theorem mapError_eq_error_iff {ε' : Type} {x : Except ε α} {f : ε → ε'} {why : ε'} :
    x.mapError f = .error why ↔ ∃ first, x = .error first ∧ f first = why := by
  cases x with
  | error first =>
    refine ⟨?_, ?_⟩
    · intro h
      exact ⟨first, rfl, Except.error.inj h⟩
    · rintro ⟨_, hfirst, rfl⟩
      cases hfirst
      rfl
  | ok a =>
    refine ⟨?_, ?_⟩
    · intro h
      cases h
    · rintro ⟨_, h, -⟩
      cases h

/-- Two results are the same when they hold the same and fail with the same. -/
theorem eq_of_ok_iff_of_error {x y : Except ε α} (hok : ∀ a, x = .ok a ↔ y = .ok a)
    (herror : ∀ why other, x = .error why → y = .error other → why = other) : x = y := by
  cases hx : x with
  | ok a => exact ((hok a).mp hx).symm
  | error why =>
    cases hy : y with
    | ok a =>
      rw [(hok a).mpr hy] at hx
      cases hx
    | error other => rw [herror why other hx hy]

/-- A run over a list fails with what its first step that fails says, and the steps before that one
have led to the state in which it was taken. -/
theorem foldlM_eq_error_iff {f : σ → α → Except ε σ} {s : σ} {xs : List α} {why : ε} :
    xs.foldlM f s = .error why ↔
      ∃ before x after t, xs = before ++ x :: after ∧ before.foldlM f s = .ok t ∧
        f t x = .error why := by
  refine ⟨fun h => ?_, ?_⟩
  · induction xs generalizing s with
    | nil => cases h
    | cons x xs ih =>
      rw [List.foldlM_cons, bind_eq_error_iff] at h
      rcases h with h | ⟨t, hx, h⟩
      · exact ⟨[], x, xs, s, rfl, rfl, h⟩
      · obtain ⟨before, y, after, u, rfl, hbefore, hy⟩ := ih h
        refine ⟨x :: before, y, after, u, rfl, ?_, hy⟩
        rw [List.foldlM_cons, hx]
        exact hbefore
  · rintro ⟨before, x, after, t, rfl, hbefore, hx⟩
    rw [List.foldlM_append, hbefore]
    refine bind_eq_error_iff.mpr (.inr ⟨t, rfl, ?_⟩)
    rw [List.foldlM_cons, hx]
    rfl

/-- Doing each of several things fails for the first of them that is bad, when the bad ones are
those that fail. -/
theorem mapM_eq_error_iff {f : α → Except ε β} {bad : α → Bool} {fault : α → ε}
    (hf : ∀ x why, f x = .error why ↔ bad x = true ∧ fault x = why) {xs : List α} {why : ε} :
    xs.mapM f = .error why ↔ (xs.find? bad).map fault = some why := by
  induction xs with
  | nil =>
    refine ⟨fun h => ?_, fun h => ?_⟩ <;> cases h
  | cons x xs ih =>
    rw [List.mapM_cons, bind_eq_error_iff, hf]
    cases hx : bad x with
    | true =>
      have hfail : ∀ b, f x ≠ .ok b := by
        intro b hb
        have herror : f x = .error (fault x) := (hf x _).mpr ⟨hx, rfl⟩
        rw [hb] at herror
        cases herror
      simp [List.find?_cons_of_pos hx, hfail]
    | false =>
      have hok : ∃ b, f x = .ok b := by
        cases hfx : f x with
        | error other =>
          have hbad := ((hf x other).mp hfx).1
          rw [hx] at hbad
          cases hbad
        | ok b => exact ⟨b, rfl⟩
      obtain ⟨b, hb⟩ := hok
      rw [List.find?_cons_of_neg (by simp [hx]), ← ih]
      refine ⟨?_, fun h => .inr ⟨b, hb, bind_eq_error_iff.mpr (.inl h)⟩⟩
      rintro (⟨h, -⟩ | ⟨_, -, h⟩)
      · cases h
      · rcases bind_eq_error_iff.mp h with h | ⟨_, -, h⟩
        · exact h
        · cases h

/-! ## Results without their failures -/

theorem toOption_bind (x : Except ε α) (f : α → Except ε β) :
    (x >>= f).toOption = x.toOption.bind fun a => (f a).toOption := by
  cases x <;> rfl

theorem toOption_mapM (f : α → Except ε β) (xs : List α) :
    (xs.mapM f).toOption = xs.mapM fun x => (f x).toOption := by
  induction xs with
  | nil => rfl
  | cons x xs ih =>
    rw [List.mapM_cons, List.mapM_cons, ← ih]
    cases f x with
    | error why => rfl
    | ok y => cases xs.mapM f <;> rfl

/-! ## Steps with a state -/

/-- A step that fails is the last one. -/
theorem run_bind (first : ExceptT ε (StateM σ) α)
    (next : α → ExceptT ε (StateM σ) β) (s : σ) :
    (first >>= next).run s =
      match first.run s with
      | (.ok a, s') => (next a).run s'
      | (.error e, s') => (.error e, s') := by
  rw [ExceptT.run_bind]
  change (ExceptT.bindCont next (first.run s).1) (first.run s).2 = _
  rcases first.run s with ⟨result, s'⟩
  cases result <;> rfl

end Registrar
