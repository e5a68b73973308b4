import Mathlib.Data.List.Perm.Basic

/-! Serial executions: operations that are executed one at a time, each with its result.  An
operation that takes effect after all others extends the execution at its end; one that changes
nothing can be put into it wherever it finds the state that it saw.  So operations that overlap are
serial if each of them either changes the current state, or only saw an earlier one. -/

namespace Serial

variable {σ ο ρ : Type} {exec : ο → σ → σ × ρ}

/-- The operations, executed in this order from `s`, give these results and lead to `t`. -/
inductive Execution (exec : ο → σ → σ × ρ) : σ → List (ο × ρ) → σ → Prop
  | nil (s : σ) : Execution exec s [] s
  | cons {s t : σ} {o : ο} {log : List (ο × ρ)} (rest : Execution exec (exec o s).1 log t) :
    Execution exec s ((o, (exec o s).2) :: log) t

namespace Execution

variable {s t u : σ} {log log' : List (ο × ρ)}

theorem append (first : Execution exec s log t) (second : Execution exec t log' u) :
    Execution exec s (log ++ log') u := by
  induction first with
  | nil => exact second
  | cons _ ih => exact .cons (ih second)

theorem snoc (h : Execution exec s log t) (o : ο) :
    Execution exec s (log ++ [(o, (exec o t).2)]) (exec o t).1 :=
  h.append (.cons (.nil _))

theorem of_cons {o : ο} {r : ρ} (h : Execution exec s ((o, r) :: log) t) :
    (exec o s).2 = r ∧ Execution exec (exec o s).1 log t := by
  cases h with
  | cons rest => exact ⟨rfl, rest⟩

theorem of_append (h : Execution exec s (log ++ log') u) :
    ∃ t, Execution exec s log t ∧ Execution exec t log' u := by
  induction log generalizing s with
  | nil => exact ⟨s, .nil s, h⟩
  | cons entry log ih =>
    cases h with
    | cons rest =>
      obtain ⟨t, first, second⟩ := ih rest
      exact ⟨t, .cons first, second⟩

theorem unique (h : Execution exec s log t) (h' : Execution exec s log u) : t = u := by
  induction h with
  | nil => cases h' with | nil => rfl
  | cons _ ih => cases h' with | cons rest => exact ih rest

/-- What every operation of an execution keeps holds at its end if it holds at its start. -/
theorem preserves {P : σ → Prop} (hexec : ∀ entry ∈ log, ∀ s, P s → P (exec entry.1 s).1)
    (h : Execution exec s log t) (hs : P s) : P t := by
  induction h with
  | nil => exact hs
  | cons _ ih =>
    exact ih (fun entry hentry => hexec entry (.tail _ hentry)) (hexec _ (.head _) _ hs)

end Execution

/-- The execution `log` from `s` goes through the state `u`. -/
def Through (exec : ο → σ → σ × ρ) (s : σ) (log : List (ο × ρ)) (u : σ) : Prop :=
  ∃ before after, log = before ++ after ∧ Execution exec s before u

namespace Through

variable {s t u : σ} {log : List (ο × ρ)}

theorem last (h : Execution exec s log t) : Through exec s log t :=
  ⟨log, [], (List.append_nil log).symm, h⟩

theorem append (h : Through exec s log u) (log' : List (ο × ρ)) :
    Through exec s (log ++ log') u := by
  obtain ⟨before, after, rfl, hbefore⟩ := h
  exact ⟨before, after ++ log', List.append_assoc .., hbefore⟩

/-- An operation that changes nothing where the execution goes through can be put in there. -/
theorem insert (h : Through exec s log u) (hlog : Execution exec s log t) {o : ο} {r : ρ}
    (hexec : exec o u = (u, r)) :
    ∃ log', log'.Perm ((o, r) :: log) ∧ Execution exec s log' t ∧
      ∀ v, Through exec s log v → Through exec s log' v := by
  obtain ⟨before, after, rfl, hbefore⟩ := h
  obtain ⟨u', hbefore', hafter⟩ := hlog.of_append
  obtain rfl : u = u' := hbefore.unique hbefore'
  have hone : Execution exec u [(o, r)] u := by
    have hsnoc : Execution exec u ([] ++ [(o, (exec o u).2)]) (exec o u).1 :=
      Execution.snoc (.nil u) o
    simpa [hexec] using hsnoc
  refine ⟨before ++ ([(o, r)] ++ after), ?_, hbefore.append (hone.append hafter), ?_⟩
  · simp
  · rintro v ⟨before', after', hsplit, hv⟩
    rcases List.append_eq_append_iff.mp hsplit with ⟨mid, rfl, rfl⟩ | ⟨mid, rfl, rfl⟩
    · -- The state `v` comes after the place of the new operation.
      obtain ⟨w, hw, hmid⟩ := hv.of_append
      obtain rfl : u = w := hbefore.unique hw
      exact ⟨before ++ ([(o, r)] ++ mid), after', by simp, hbefore.append (hone.append hmid)⟩
    · exact ⟨before', mid ++ ([(o, r)] ++ after), by simp, hv⟩

end Through

end Serial
