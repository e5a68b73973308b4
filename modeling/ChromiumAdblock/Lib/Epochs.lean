import Mathlib.Data.List.Basic

/-! First-in-first-out queues whose entries carry the number of the epoch in which they were put in.
Epochs only go up, so what is left of earlier epochs stands before the entries of the current one;
seen from the current epoch, the queue is one in which there never was an earlier epoch, with
leftovers at its front. -/

namespace Epochs

/-- After leftovers of earlier epochs, the queue holds as many entries of the epoch `now` as the
queue `q'` holds of its only epoch `now'`. -/
def Mirrors (q : List Nat) (now : Nat) (q' : List Nat) (now' : Nat) : Prop :=
  ∃ old k, q = old ++ List.replicate k now ∧ (∀ x ∈ old, x < now) ∧ q' = List.replicate k now'

namespace Mirrors

variable {q q' rest : List Nat} {now now' x : Nat}

theorem nil (now now' : Nat) : Mirrors [] now [] now' := ⟨[], 0, rfl, by simp, rfl⟩

theorem le (h : Mirrors q now q' now') : ∀ x ∈ q, x ≤ now := by
  obtain ⟨old, k, rfl, hold, -⟩ := h
  intro x hx
  rcases List.mem_append.mp hx with hx | hx
  · exact Nat.le_of_lt (hold x hx)
  · exact Nat.le_of_eq (List.eq_of_mem_replicate hx)

/-- Both queues get an entry. -/
theorem push (h : Mirrors q now q' now') : Mirrors (q ++ [now]) now (q' ++ [now']) now' := by
  obtain ⟨old, k, rfl, hold, rfl⟩ := h
  refine ⟨old, k + 1, ?_, hold, ?_⟩
  · rw [List.append_assoc, List.replicate_succ']
  · rw [List.replicate_succ']

/-- Both queues get some entries. -/
theorem pushes (h : Mirrors q now q' now') (n : Nat) :
    Mirrors (q ++ List.replicate n now) now (q' ++ List.replicate n now') now' := by
  obtain ⟨old, k, rfl, hold, rfl⟩ := h
  refine ⟨old, k + n, ?_, hold, ?_⟩
  · rw [List.append_assoc, List.replicate_append_replicate]
  · rw [List.replicate_append_replicate]

/-- An entry of the current epoch is at the front only when no leftovers are. -/
theorem pop (h : Mirrors (now :: rest) now q' now') :
    ∃ rest', q' = now' :: rest' ∧ Mirrors rest now rest' now' := by
  obtain ⟨old, k, hq, hold, rfl⟩ := h
  cases old with
  | cons x old =>
    obtain ⟨rfl, -⟩ := List.cons.inj hq
    exact absurd (hold _ List.mem_cons_self) (Nat.lt_irrefl _)
  | nil =>
    cases k with
    | zero => simp at hq
    | succ k =>
      obtain ⟨-, rfl⟩ := List.cons.inj hq
      exact ⟨List.replicate k now', rfl, [], k, rfl, by simp, rfl⟩

/-- Behind an entry of the current epoch are no leftovers. -/
theorem after_own (h : Mirrors q now q' now') (hown : q.head? = some now) : ∀ x ∈ q, x = now := by
  obtain ⟨old, k, rfl, hold, -⟩ := h
  cases old with
  | cons y old =>
    obtain rfl : y = now := by simpa using hown
    exact absurd (hold _ List.mem_cons_self) (Nat.lt_irrefl _)
  | nil =>
    intro x hx
    exact List.eq_of_mem_replicate (by simpa using hx)

/-- A leftover is taken out. -/
theorem drop (h : Mirrors (x :: rest) now q' now') (hx : x ≠ now) : Mirrors rest now q' now' := by
  obtain ⟨old, k, hq, hold, rfl⟩ := h
  cases old with
  | cons y old =>
    obtain ⟨-, rfl⟩ := List.cons.inj hq
    exact ⟨old, k, rfl, fun z hz => hold z (List.mem_cons_of_mem _ hz), rfl⟩
  | nil =>
    cases k with
    | zero => simp at hq
    | succ k => exact absurd (List.cons.inj hq).1 hx

/-- A new epoch begins. -/
theorem advance (h : Mirrors q now q' now') (later : Nat) : Mirrors q (now + 1) [] later :=
  ⟨q, 0, by simp, fun x hx => Nat.lt_succ_of_le (h.le x hx), rfl⟩

end Mirrors

end Epochs
