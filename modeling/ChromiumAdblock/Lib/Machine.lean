import Mathlib.Data.List.Basic

/-! Machines that take one event at a time.  A machine says which events its environment may offer
in a state and what an event does there: a new state, or a fault that ends the run.  The rules here
are the induction over a run, with and without the events so far, the bound on a run whose steps
lower it, the restriction of a machine to
events that meet a further condition, and the replay that finds a run by evaluation. -/

namespace EventMachine

/-- A machine over states `σ`, events `ε`, and faults `φ`. -/
structure Machine (σ ε φ : Type) where
  enabled : σ → ε → Prop
  step : σ → ε → Except φ σ

variable {σ ε φ : Type}

/-- A run from one state to another: each event was enabled where it came, and none faulted. -/
inductive Run (m : Machine σ ε φ) : σ → List ε → σ → Prop
  | nil (s : σ) : Run m s [] s
  | cons {s s' t : σ} {e : ε} {es : List ε} (enabled : m.enabled s e)
      (step : m.step s e = .ok s') (rest : Run m s' es t) : Run m s (e :: es) t

namespace Run

variable {m : Machine σ ε φ} {s t u : σ} {es fs : List ε}

theorem append (first : Run m s es t) (second : Run m t fs u) : Run m s (es ++ fs) u := by
  induction first with
  | nil => exact second
  | cons enabled step _ ih => exact .cons enabled step (ih second)

theorem single {e : ε} (enabled : m.enabled s e) (step : m.step s e = .ok t) : Run m s [e] t :=
  .cons enabled step (.nil t)

/-- What every enabled step preserves holds at the end of a run if it holds at its start. -/
theorem preserves {P : σ → Prop}
    (hstep : ∀ s e s', m.enabled s e → m.step s e = .ok s' → P s → P s')
    (run : Run m s es t) (h : P s) : P t := by
  induction run with
  | nil => exact h
  | cons enabled step _ ih => exact ih (hstep _ _ _ enabled step h)

/-- `preserves` for a property of the state and the events so far. -/
theorem preserves_past {P : List ε → σ → Prop}
    (hstep : ∀ past s e s', m.enabled s e → m.step s e = .ok s' → P past s → P (past ++ [e]) s')
    {past : List ε} (run : Run m s es t) (h : P past s) : P (past ++ es) t := by
  induction run generalizing past with
  | nil => simpa using h
  | cons enabled step _ ih => simpa using ih (hstep _ _ _ _ enabled step h)

/-- Where every enabled step lowers a bound, a run is no longer than the bound at its start. -/
theorem bounded {P : Nat → σ → Prop}
    (hstep : ∀ n s e s', m.enabled s e → m.step s e = .ok s' → P n s → ∃ k, k < n ∧ P k s')
    (run : Run m s es t) {n : Nat} (h : P n s) : ∃ k, k + es.length ≤ n ∧ P k t := by
  induction run generalizing n with
  | nil => exact ⟨n, Nat.le_refl n, h⟩
  | @cons s s' t e es enabled step _ ih =>
    obtain ⟨k, hlt, hk⟩ := hstep n s e s' enabled step h
    obtain ⟨j, hle, hj⟩ := ih hk
    refine ⟨j, ?_, hj⟩
    simp only [List.length_cons]
    omega

/-- A run over which a count passes `n` has a step that takes the count past `n`. -/
theorem crosses (count : σ → Nat) {n : Nat} (run : Run m s es t) (hstart : count s ≤ n)
    (hend : n < count t) : ∃ before e after u u', es = before ++ e :: after ∧
      Run m s before u ∧ m.enabled u e ∧ m.step u e = .ok u' ∧ Run m u' after t ∧
      count u ≤ n ∧ n < count u' := by
  induction run with
  | nil => omega
  | @cons s s' t e es enabled step rest ih =>
    by_cases hpassed : n < count s'
    · exact ⟨[], e, es, s, s', rfl, .nil s, enabled, step, rest, hstart, hpassed⟩
    · obtain ⟨before, e', after, u, u', rfl, first, hrest⟩ := ih (by omega) hend
      exact ⟨e :: before, e', after, u, u', rfl, .cons enabled step first, hrest⟩

end Run

/-- The machine whose environment offers only events that also meet `ok`. -/
def Machine.restrict (m : Machine σ ε φ) (ok : σ → ε → Prop) : Machine σ ε φ where
  enabled s e := m.enabled s e ∧ ok s e
  step := m.step

instance (m : Machine σ ε φ) (ok : σ → ε → Prop) (s : σ) (e : ε) [Decidable (m.enabled s e)]
    [Decidable (ok s e)] : Decidable ((m.restrict ok).enabled s e) :=
  inferInstanceAs (Decidable (m.enabled s e ∧ ok s e))

/-- The fault that an event runs into in a state. -/
def Machine.faultOf (m : Machine σ ε φ) (s : σ) (e : ε) : Option φ :=
  match m.step s e with
  | .ok _ => none
  | .error fault => some fault

/-- Whether a computation ends well, in a value that `p` accepts. -/
def okAnd {α : Type} (p : α → Bool) : Except φ α → Bool
  | .ok a => p a
  | .error _ => false

theorem exists_of_okAnd {α : Type} {e : Except φ α} {p : α → Bool} (h : okAnd p e = true) :
    ∃ a, e = .ok a ∧ p a = true := by
  cases e with
  | ok a => exact ⟨a, rfl, h⟩
  | error fault => simp [okAnd] at h

section Replay

variable (m : Machine σ ε φ) [∀ s e, Decidable (m.enabled s e)]

/-- The state that the events lead to, when each is enabled where it comes and none faults. -/
def Machine.replay : σ → List ε → Option σ
  | s, [] => some s
  | s, e :: es =>
    if m.enabled s e then
      match m.step s e with
      | .ok s' => Machine.replay s' es
      | .error _ => none
    else none

variable {m}

theorem Machine.replay_run {s t : σ} {es : List ε} (h : m.replay s es = some t) : Run m s es t := by
  induction es generalizing s with
  | nil =>
    obtain rfl : s = t := by simpa [Machine.replay] using h
    exact .nil s
  | cons e es ih =>
    rw [Machine.replay] at h
    split at h
    · rename_i enabled
      split at h
      · rename_i s' step
        exact .cons enabled step (ih h)
      · contradiction
    · contradiction

/-- A replay that ends in a state that `p` accepts is a run to such a state. -/
theorem Machine.exists_run (m : Machine σ ε φ) [∀ s e, Decidable (m.enabled s e)] (s : σ)
    (es : List ε) (p : σ → Bool) (h : (m.replay s es).any p = true) :
    ∃ t, Run m s es t ∧ p t = true := by
  obtain ⟨t, hreplay, hp⟩ := (Option.any_eq_true _ _).mp h
  exact ⟨t, Machine.replay_run hreplay, hp⟩

end Replay

end EventMachine
