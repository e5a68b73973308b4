import Mathlib.Data.Nat.Basic

/-! Loops that change a state until they leave it, or until a turn faults.  A loop is run with a
number of turns that it may take; `Ends` says that some number is enough.  The rules here are the
one of a measure that falls, the one of a set of states that a loop cannot leave, and the induction
from the end of a loop back to its start. -/

namespace TurnLoop

/-- One turn of a loop over states `σ` with faults `φ`; it is `none` where the loop leaves. -/
abbrev Turn (σ φ : Type) := σ → Option (Except φ σ)

variable {σ φ : Type} (turn : Turn σ φ)

/-- The loop with at most `fuel` turns, or `none` when these are not enough. -/
def run : Nat → σ → Option (Except φ σ)
  | 0, s =>
    match turn s with
    | none => some (.ok s)
    | some _ => none
  | fuel + 1, s =>
    match turn s with
    | none => some (.ok s)
    | some (.error fault) => some (.error fault)
    | some (.ok s') => run fuel s'

/-- The loop ends, with this outcome. -/
def Ends (s : σ) (outcome : Except φ σ) : Prop := ∃ fuel, run turn fuel s = some outcome

variable {turn} {s s' t : σ} {outcome : Except φ σ}

theorem ends_of_leave (h : turn s = none) : Ends turn s (.ok s) := ⟨0, by simp [run, h]⟩

theorem ends_of_turn (h : turn s = some (.ok s')) (rest : Ends turn s' outcome) :
    Ends turn s outcome := by
  obtain ⟨fuel, rest⟩ := rest
  exact ⟨fuel + 1, by simpa [run, h] using rest⟩

/-- Where each turn keeps `P`, faults nowhere, and makes a measure smaller, the loop ends well. -/
theorem ends_of_measure (P : σ → Prop) (measure : σ → Nat)
    (hturn : ∀ s, P s → turn s = none ∨
      ∃ s', turn s = some (.ok s') ∧ P s' ∧ measure s' < measure s) (hs : P s) :
    ∃ t, Ends turn s (.ok t) ∧ P t ∧ turn t = none := by
  induction hm : measure s using Nat.strong_induction_on generalizing s with
  | _ m ih =>
    rcases hturn s hs with hleave | ⟨s', hgo, hs', hless⟩
    · exact ⟨s, ends_of_leave hleave, hs, hleave⟩
    · obtain ⟨t, hends, ht⟩ := ih (measure s') (by omega) hs' rfl
      exact ⟨t, ends_of_turn hgo hends, ht⟩

/-- What holds where the loop leaves, and before each turn after which it holds, holds at the start
of every loop that ends well. -/
theorem Ends.back {Q : σ → Prop} (hends : Ends turn s (.ok t)) (hleave : ∀ s, turn s = none → Q s)
    (hturn : ∀ s s', turn s = some (.ok s') → Q s' → Q s) : Q s := by
  obtain ⟨fuel, hrun⟩ := hends
  induction fuel generalizing s with
  | zero =>
    rw [run] at hrun
    split at hrun
    · rename_i h
      exact hleave s h
    · contradiction
  | succ fuel ih =>
    rw [run] at hrun
    split at hrun
    · rename_i h
      exact hleave s h
    · cases hrun
    · rename_i s' h
      exact hturn s s' h (ih hrun)

/-- A loop whose turns stay among states where it goes on does not end. -/
theorem not_ends_of_stay {P : σ → Prop} (hturn : ∀ s, P s → ∃ s', turn s = some (.ok s') ∧ P s')
    (hs : P s) : ¬ Ends turn s outcome := by
  rintro ⟨fuel, hrun⟩
  induction fuel generalizing s with
  | zero =>
    obtain ⟨s', hgo, -⟩ := hturn s hs
    simp [run, hgo] at hrun
  | succ fuel ih =>
    obtain ⟨s', hgo, hs'⟩ := hturn s hs
    exact ih hs' (by simpa [run, hgo] using hrun)

end TurnLoop
