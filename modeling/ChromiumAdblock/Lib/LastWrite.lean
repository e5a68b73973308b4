import Mathlib.Data.List.Induction

/-! Registers that operations write.  Operations are done one after the other on a state, and what
each of them answers is kept in a log.  A register is a part of the state; if each operation, with
its answer, says what it writes to the register, if anything, then the register holds what the last
entry of the log that wrote it wrote, and what it held at the start if none did. -/

namespace LastWrite

variable {ε α β σ : Type}

/-- What the last event that writes a register writes, or else what the register held before. -/
def lastWrite (write : ε → Option α) (initial : α) (es : List ε) : α :=
  (es.filterMap write).getLast?.getD initial

theorem lastWrite_concat (write : ε → Option α) (initial : α) (es : List ε) (e : ε) :
    lastWrite write initial (es ++ [e]) = (write e).getD (lastWrite write initial es) := by
  rw [lastWrite, List.filterMap_append]
  cases hwrite : write e with
  | none => simp [hwrite, lastWrite]
  | some a => simp [hwrite]

/-- An operation is done, and logged with its answer. -/
def logStep (step : σ → ε → σ × β) (s : σ × List (ε × β)) (e : ε) : σ × List (ε × β) :=
  ((step s.1 e).1, s.2 ++ [(e, (step s.1 e).2)])

/-- The state after a sequence of operations, and their log. -/
def logged (step : σ → ε → σ × β) (s : σ) (es : List ε) : σ × List (ε × β) :=
  es.foldl (logStep step) (s, [])

variable {step : σ → ε → σ × β}

theorem logged_concat (s : σ) (es : List ε) (e : ε) :
    logged step s (es ++ [e]) = logStep step (logged step s es) e := by
  rw [logged, List.foldl_append]
  rfl

/-- What every operation preserves holds after all of them. -/
theorem logged_preserves {P : σ → Prop} (hstep : ∀ s e, P s → P (step s e).1) {s : σ} (h : P s)
    (es : List ε) : P (logged step s es).1 := by
  induction es using List.reverseRecOn with
  | nil => exact h
  | append_singleton es e ih =>
    rw [logged_concat]
    exact hstep _ e ih

/-- A register holds the last write of the log. -/
theorem read_logged (read : σ → α) {write : ε × β → Option α}
    (hstep : ∀ s e, read (step s e).1 = (write (e, (step s e).2)).getD (read s)) (s : σ)
    (es : List ε) : read (logged step s es).1 = lastWrite write (read s) (logged step s es).2 := by
  induction es using List.reverseRecOn with
  | nil => rfl
  | append_singleton es e ih =>
    rw [logged_concat, logStep, lastWrite_concat, ← ih]
    exact hstep _ e

end LastWrite
