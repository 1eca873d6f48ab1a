/-!
Laws of runs.

Steps of the library run in `Except`, alone or under a state (`StateT σ (Except ε)`). A run that
has succeeded feeds its value to what follows and a failed one stops, which the `simp` lemmas
below say of `Except`. A bounded loop `for _ in [:count]` whose rounds make a measure of the state
smaller ends where its last round stops, once it has more rounds than the measure
(`forIn_range_of_variant`).
-/

namespace SealedPillar

@[simp] theorem except_error_bind {ε α β : Type} (e : ε) (f : α → Except ε β) :
    (Except.error e >>= f) = .error e := rfl

@[simp] theorem except_ok_bind {ε α β : Type} (x : α) (f : α → Except ε β) :
    (Except.ok x >>= f) = f x := rfl

@[simp] theorem except_map_error {ε α β : Type} (e : ε) (f : α → β) :
    (f <$> (Except.error e : Except ε α)) = .error e := rfl

@[simp] theorem except_map_ok {ε α β : Type} (x : α) (f : α → β) :
    (f <$> (Except.ok x : Except ε α)) = .ok (f x) := rfl

theorem mapM_cons_eq_ok {ε α β : Type} {f : α → Except ε β} {x : α} {l : List α} {rs : List β}
    (ran : (x :: l).mapM f = .ok rs) :
    ∃ r rest, f x = .ok r ∧ l.mapM f = .ok rest ∧ rs = r :: rest := by
  rw [List.mapM_cons] at ran
  cases first : f x with
  | error e =>
    rw [first] at ran
    cases ran
  | ok r =>
    cases later : l.mapM f with
    | error e =>
      rw [first, later] at ran
      cases ran
    | ok rest =>
      rw [first, later] at ran
      cases ran
      exact ⟨r, rest, rfl, rfl, rfl⟩

theorem forIn_range'_of_variant {σ ε : Type} (inv post : σ → Prop) (measure : σ → Nat)
    (body : Nat → PUnit → StateT σ (Except ε) (ForInStep PUnit))
    (round : ∀ i s, inv s → ∃ s', ((body i ⟨⟩).run s = .ok (.done ⟨⟩, s') ∧ post s') ∨
      ((body i ⟨⟩).run s = .ok (.yield ⟨⟩, s') ∧ inv s' ∧ measure s' < measure s)) :
    (count first : Nat) → (s : σ) → inv s → measure s < count →
      ∃ s', (forIn (List.range' first count) ⟨⟩ body).run s = .ok (⟨⟩, s') ∧ post s'
  | 0, _, _, _, short => absurd short (Nat.not_lt_zero _)
  | count + 1, first, s, holds, enough => by
    obtain ⟨s', (⟨stops, ends⟩ | ⟨goes, kept, smaller⟩)⟩ := round first s holds
    · refine ⟨s', ?_, ends⟩
      simp only [List.range'_succ, List.forIn_cons, StateT.run_bind, stops]
      rfl
    · obtain ⟨s'', rest, ends⟩ := forIn_range'_of_variant inv post measure body round count
        (first + 1) s' kept (by omega)
      refine ⟨s'', ?_, ends⟩
      simp only [List.range'_succ, List.forIn_cons, StateT.run_bind, goes]
      exact rest

theorem forIn_range_of_variant {σ ε : Type} (inv post : σ → Prop) (measure : σ → Nat)
    (body : Nat → PUnit → StateT σ (Except ε) (ForInStep PUnit))
    (round : ∀ i s, inv s → ∃ s', ((body i ⟨⟩).run s = .ok (.done ⟨⟩, s') ∧ post s') ∨
      ((body i ⟨⟩).run s = .ok (.yield ⟨⟩, s') ∧ inv s' ∧ measure s' < measure s))
    (count : Nat) (s : σ) (holds : inv s) (enough : measure s < count) :
    ∃ s', (forIn [:count] ⟨⟩ body).run s = .ok (⟨⟩, s') ∧ post s' := by
  rw [Std.Legacy.Range.forIn_eq_forIn_range']
  simp only [Std.Legacy.Range.size, Nat.sub_zero, Nat.add_sub_cancel, Nat.div_one]
  exact forIn_range'_of_variant inv post measure body round count 0 s holds enough

end SealedPillar
