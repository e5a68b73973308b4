import Mathlib.Data.Option.Basic

/-! The protocol between a loader and its client.  The loader reports redirects, at most one
response, and at last that it completed; the client follows a redirect before anything but a failure
is reported after it.  A trace conforms if the automaton over the phases of a load accepts it. -/

namespace LoadProtocol

inductive Report
  | redirect
  | response
  | complete (ok : Bool)
deriving DecidableEq, Repr

/-- What passes between the two: a report of the loader, or the client follows a redirect. -/
inductive Signal
  | report (r : Report)
  | follow
deriving DecidableEq, Repr

inductive LoadPhase
  | loading
  | redirected
  | responded
  | completed
deriving DecidableEq, Repr

/-- A load completes well only after a response, and nothing is reported once it completed. -/
def LoadPhase.next : LoadPhase → Signal → Option LoadPhase
  | .loading, .report .redirect => some .redirected
  | .loading, .report .response => some .responded
  | .loading, .report (.complete false) => some .completed
  | .redirected, .follow => some .loading
  | .redirected, .report (.complete false) => some .completed
  | .responded, .report (.complete _) => some .completed
  | _, _ => none

/-- The phase that a trace leads to. -/
def after : List Signal → LoadPhase → Option LoadPhase
  | [], p => some p
  | x :: xs, p => (p.next x).bind (after xs)

def Conforms (trace : List Signal) : Prop := (after trace .loading).isSome = true

instance (trace : List Signal) : Decidable (Conforms trace) :=
  inferInstanceAs (Decidable ((after trace .loading).isSome = true))

variable {xs : List Signal} {p q : LoadPhase} {x : Signal}

theorem after_concat (h : after xs p = some q) : after (xs ++ [x]) p = q.next x := by
  induction xs generalizing p with
  | nil =>
    obtain rfl : p = q := by simpa [after] using h
    simp [after]
  | cons y ys ih =>
    obtain ⟨r, hr, hq⟩ := Option.bind_eq_some_iff.mp h
    simpa [after, hr] using ih hq

theorem conforms_of_after (h : after xs .loading = some p) : Conforms xs := by
  simp [Conforms, h]

/-- A conforming trace with one more signal tells what that signal may be in the phase it has
reached. -/
theorem Conforms.next (h : Conforms (xs ++ [x])) (hxs : after xs .loading = some p) :
    ∃ q, p.next x = some q ∧ after (xs ++ [x]) .loading = some q := by
  obtain ⟨q, hq⟩ := Option.isSome_iff_exists.mp h
  exact ⟨q, by rw [← after_concat hxs, hq], hq⟩

end LoadProtocol
