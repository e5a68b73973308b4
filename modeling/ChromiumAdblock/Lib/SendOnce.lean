import Mathlib.Data.List.Nodup

/-! A ledger of entries that are noted the first time they come up, wait, and are sent together.
Whatever is noted and sent, and in any order, each entry is noted once, and is either sent or still
waiting. -/

namespace SendOnce

/-- What was noted so far, what of it waits, and what was sent. -/
structure Ledger (α : Type) where
  noted : List α := []
  waiting : List α := []
  sent : List α := []
deriving DecidableEq, Repr

namespace Ledger

variable {α : Type} [DecidableEq α]

def note (l : Ledger α) (a : α) : Ledger α :=
  if a ∈ l.noted then l
  else
    { l with
      noted := l.noted ++ [a]
      waiting := l.waiting ++ [a] }

def noteAll (l : Ledger α) (entries : List α) : Ledger α := entries.foldl note l

def send (l : Ledger α) : Ledger α :=
  { l with
    waiting := []
    sent := l.sent ++ l.waiting }

/-- Each entry was noted once, and was sent or waits. -/
structure Kept (l : Ledger α) : Prop where
  nodup : l.noted.Nodup
  accounted : l.sent ++ l.waiting = l.noted

variable {l : Ledger α}

omit [DecidableEq α] in
theorem kept_empty : Kept ({} : Ledger α) := ⟨List.nodup_nil, rfl⟩

theorem Kept.note (h : Kept l) (a : α) : Kept (l.note a) := by
  unfold Ledger.note
  split
  · exact h
  · rename_i hnew
    constructor
    · exact List.nodup_append_comm.mp (List.nodup_cons.mpr ⟨hnew, h.nodup⟩)
    · show l.sent ++ (l.waiting ++ [a]) = l.noted ++ [a]
      rw [← List.append_assoc, h.accounted]

theorem Kept.noteAll (h : Kept l) (entries : List α) : Kept (l.noteAll entries) := by
  induction entries generalizing l with
  | nil => exact h
  | cons a entries ih => exact ih (h.note a)

omit [DecidableEq α] in
theorem Kept.send (h : Kept l) : Kept l.send where
  nodup := h.nodup
  accounted := by
    show (l.sent ++ l.waiting) ++ [] = l.noted
    rw [List.append_nil, h.accounted]

theorem note_sent (l : Ledger α) (a : α) : (l.note a).sent = l.sent := by
  unfold note
  split <;> rfl

theorem noteAll_sent (l : Ledger α) (entries : List α) : (l.noteAll entries).sent = l.sent := by
  induction entries generalizing l with
  | nil => rfl
  | cons a entries ih => exact (ih (l.note a)).trans (note_sent l a)

theorem mem_note (l : Ledger α) (a : α) : a ∈ (l.note a).noted := by
  unfold note
  split
  · assumption
  · simp

theorem noted_note {a b : α} (h : a ∈ l.noted) : a ∈ (l.note b).noted := by
  unfold note
  split
  · exact h
  · exact List.mem_append_left _ h

theorem noted_noteAll {a : α} (entries : List α) (h : a ∈ l.noted) :
    a ∈ (l.noteAll entries).noted := by
  induction entries generalizing l with
  | nil => exact h
  | cons b entries ih => exact ih (noted_note h)

theorem mem_noteAll {a : α} {entries : List α} (h : a ∈ entries) :
    a ∈ (l.noteAll entries).noted := by
  induction entries generalizing l with
  | nil => simp at h
  | cons b entries ih =>
    rcases List.mem_cons.mp h with rfl | h
    · exact noted_noteAll entries (mem_note l _)
    · exact ih h

omit [DecidableEq α] in
/-- When nothing waits, everything that was noted was sent. -/
theorem Kept.sent_of_noted (h : Kept l) (hnone : l.waiting = []) {a : α} (hnoted : a ∈ l.noted) :
    a ∈ l.sent := by
  have haccounted := h.accounted
  rw [hnone, List.append_nil] at haccounted
  exact haccounted ▸ hnoted

end Ledger

end SendOnce
