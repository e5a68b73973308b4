import ChromiumAdblock.Lib.Machine
import Mathlib.Algebra.Order.Group.Defs

/-! A limiter that runs a function at once when its time has come, and otherwise sets a timer for
that time, unless one is set.  Only a run at once moves the time on.  So runs are as far apart as
they should be exactly when, after each firing of the timer, the next call waits that long. -/

namespace Throttle

open EventMachine

/-- A run of the function, by the timer or at once. -/
structure Execution (τ : Type) where
  time : τ
  byTimer : Bool
deriving DecidableEq

theorem time_le_of_mem_append {τ : Type} [Preorder τ] (last : Execution τ)
    {executions : List (Execution τ)} (h : ∀ x ∈ executions, x.time ≤ last.time) :
    ∀ x ∈ executions ++ [last], x.time ≤ last.time := by
  intro x hx
  rcases List.mem_append.mp hx with hx | hx
  · exact h x hx
  · rw [List.mem_singleton.mp hx]

/-- The next time at which the function may run, the time at which the timer is due, the runs so
far, and the time of the last event. -/
structure Limiter (τ : Type) where
  next : τ
  timer : Option τ
  executions : List (Execution τ)
  clock : τ

inductive Call (τ : Type)
  | batch (now : τ)
  | fires (now : τ)
  | pass (now : τ)

def Call.now {τ : Type} : Call τ → τ
  | .batch now | .fires now | .pass now => now

variable {τ : Type} [AddCommGroup τ] [LinearOrder τ] (wait : τ)

namespace Limiter

def handle (l : Limiter τ) : Call τ → Limiter τ
  | .batch now =>
    if l.timer.isSome then l
    else if now < l.next then { l with timer := some l.next }
    else
      { l with
        next := now + wait
        executions := l.executions ++ [⟨now, false⟩] }
  | .fires now =>
    { l with
      timer := none
      executions := l.executions ++ [⟨now, true⟩] }
  | .pass _ => l

def step (l : Limiter τ) (c : Call τ) : Limiter τ := { l.handle wait c with clock := c.now }

/-- The timer fires when it is due or later. -/
def Enabled (l : Limiter τ) (c : Call τ) : Prop :=
  l.clock ≤ c.now ∧
    match c with
    | .fires now => ∃ due, l.timer = some due ∧ due ≤ now
    | .batch _ | .pass _ => True

def machine : Machine (Limiter τ) (Call τ) Empty where
  enabled := Enabled
  step l c := .ok (l.step wait c)

end Limiter

/-- Any two runs are at least `wait` apart. -/
def Spaced (executions : List (Execution τ)) : Prop :=
  executions.Pairwise fun a b => a.time + wait ≤ b.time

/-- The first call after each firing of the timer comes at least `wait` after it; `fired` is the
last firing, if no call came after it. -/
def OnTime : Option τ → List (Call τ) → Prop
  | _, [] => True
  | fired, .batch now :: calls =>
    (∀ time, fired = some time → time + wait ≤ now) ∧ OnTime none calls
  | _, .fires now :: calls => OnTime (some now) calls
  | fired, .pass _ :: calls => OnTime fired calls

/-- What is known of a limiter after a firing of the timer, or else. -/
structure Inv (fired : Option τ) (l : Limiter τ) : Prop where
  past : ∀ x ∈ l.executions, x.time ≤ l.clock
  /-- Without a firing, the next time is far enough from every run, and so is the timer. -/
  ready : fired = none →
    (∀ x ∈ l.executions, x.time + wait ≤ l.next) ∧ ∀ due, l.timer = some due → due = l.next
  /-- A firing was the last run, and may have left the next time behind. -/
  left : ∀ time, fired = some time → l.timer = none ∧ l.next ≤ time ∧ time ≤ l.clock ∧
    (∀ x ∈ l.executions, x.time ≤ time) ∧ ∃ x ∈ l.executions, x.time = time

variable {wait} {l t : Limiter τ} {fired : Option τ} {calls : List (Call τ)}

theorem spaced_append {executions : List (Execution τ)} {x : Execution τ}
    (h : Spaced wait executions) (hlast : ∀ y ∈ executions, y.time + wait ≤ x.time) :
    Spaced wait (executions ++ [x]) := by
  refine List.pairwise_append.mpr ⟨h, List.pairwise_singleton _ _, ?_⟩
  intro y hy z hz
  rw [List.mem_singleton.mp hz]
  exact hlast y hy

/-- Runs are added to those that were before. -/
theorem executions_grow (run : Run (Limiter.machine wait) l calls t) :
    ∃ more, t.executions = l.executions ++ more := by
  induction run with
  | nil l => exact ⟨[], by simp⟩
  | @cons l l' t c calls _ step _ ih =>
    obtain rfl := Except.ok.inj step
    obtain ⟨more, hmore⟩ := ih
    have hstep : ∃ first, (l.step wait c).executions = l.executions ++ first := by
      unfold Limiter.step Limiter.handle
      cases c with
      | batch now =>
        simp only
        split
        · exact ⟨[], by simp⟩
        · split
          · exact ⟨[], by simp⟩
          · exact ⟨[⟨now, false⟩], rfl⟩
      | fires now => exact ⟨[⟨now, true⟩], rfl⟩
      | pass now => exact ⟨[], by simp⟩
    obtain ⟨first, hfirst⟩ := hstep
    exact ⟨first ++ more, by rw [hmore, hfirst, List.append_assoc]⟩

theorem Inv.pass (h : Inv wait fired l) {now : τ} (hnow : l.clock ≤ now) :
    Inv wait fired { l with clock := now } where
  past x hx := (h.past x hx).trans hnow
  ready := h.ready
  left time hfired := by
    obtain ⟨htimer, hnext, hclock, hall, hmem⟩ := h.left time hfired
    exact ⟨htimer, hnext, hclock.trans hnow, hall, hmem⟩

/-- The timer fires when the next time has come. -/
theorem Inv.fires (h : Inv wait fired l) {now : τ} (hnow : l.clock ≤ now)
    (hnext : l.next ≤ now) :
    Inv wait (some now)
      { l with
        timer := none
        executions := l.executions ++ [⟨now, true⟩]
        clock := now } where
  past := time_le_of_mem_append ⟨now, true⟩ fun x hx => (h.past x hx).trans hnow
  ready := nofun
  left time hfired := by
    obtain rfl := Option.some.inj hfired
    have hpast := time_le_of_mem_append ⟨now, true⟩ fun x hx => (h.past x hx).trans hnow
    exact ⟨rfl, hnext, le_rfl, hpast, ⟨now, true⟩, by simp, rfl⟩

/-- The timer is set for the next time. -/
theorem Inv.schedule (h : Inv wait none l) {now : τ} (hnow : l.clock ≤ now) :
    Inv wait none
      { l with
        timer := some l.next
        clock := now } where
  past x hx := (h.past x hx).trans hnow
  ready _ := ⟨(h.ready rfl).1, fun _ hdue => (Option.some.inj hdue).symm⟩
  left := nofun

/-! What a call does, by the state that it finds. -/

theorem step_waits {now : τ} (htimer : l.timer.isSome = true) :
    l.step wait (.batch now) = { l with clock := now } := by
  simp only [Limiter.step, Limiter.handle, if_pos htimer]
  rfl

theorem step_schedules {now : τ} (htimer : l.timer = none) (hnext : now < l.next) :
    l.step wait (.batch now) =
      { l with
        timer := some l.next
        clock := now } := by
  simp [Limiter.step, Limiter.handle, htimer, hnext, Call.now]

theorem step_runs {now : τ} (htimer : l.timer = none) (hnext : l.next ≤ now) :
    l.step wait (.batch now) =
      { l with
        next := now + wait
        executions := l.executions ++ [⟨now, false⟩]
        clock := now } := by
  simp [Limiter.step, Limiter.handle, htimer, not_lt.mpr hnext, Call.now]

/-- Two runs that are too close stay among the runs. -/
theorem not_spaced_of_close {x : Execution τ} {now : τ} (hx : x ∈ l.executions)
    (hclose : ¬ x.time + wait ≤ now) {l' : Limiter τ}
    (hl' : l'.executions = l.executions ++ [⟨now, false⟩])
    (rest : Run (Limiter.machine wait) l' calls t) : ¬ Spaced wait t.executions := by
  intro hspaced
  obtain ⟨more, hmore⟩ := executions_grow rest
  rw [hmore, hl'] at hspaced
  have hpair := List.pairwise_append.mp (List.pairwise_append.mp hspaced).1
  exact hclose (hpair.2.2 x hx ⟨now, false⟩ (List.mem_singleton.mpr rfl))

variable [IsOrderedAddMonoid τ]

/-- After a run at once, nothing that was before matters. -/
theorem Inv.direct (h : Inv wait fired l) {now : τ} (hnow : l.clock ≤ now)
    (htimer : l.timer = none) :
    Inv wait none
      { l with
        next := now + wait
        executions := l.executions ++ [⟨now, false⟩]
        clock := now } where
  past := time_le_of_mem_append ⟨now, false⟩ fun x hx => (h.past x hx).trans hnow
  ready _ := by
    refine ⟨fun x hx => ?_, fun due hdue => ?_⟩
    · show x.time + wait ≤ now + wait
      have hpast := time_le_of_mem_append ⟨now, false⟩ (fun x hx => (h.past x hx).trans hnow) x hx
      gcongr
    · simp [htimer] at hdue
  left := nofun

/-- From a state in which the runs are spaced, they stay so exactly when the calls are on time. -/
theorem spaced_iff_onTime (run : Run (Limiter.machine wait) l calls t) (h : Inv wait fired l)
    (hspaced : Spaced wait l.executions) : Spaced wait t.executions ↔ OnTime wait fired calls := by
  induction run generalizing fired with
  | nil l => exact iff_of_true hspaced trivial
  | @cons l l' t c calls enabled step rest ih =>
    obtain rfl := Except.ok.inj step
    obtain ⟨hnow, henabled⟩ := enabled
    cases c with
    | pass now => exact ih (h.pass hnow) hspaced
    | fires now =>
      obtain ⟨due, hdue, hle⟩ := henabled
      cases fired with
      | some time =>
        rw [(h.left time rfl).1] at hdue
        contradiction
      | none =>
        obtain ⟨hready, htimer⟩ := h.ready rfl
        have hnext : l.next ≤ now := htimer due hdue ▸ hle
        exact ih (h.fires hnow hnext)
          (spaced_append hspaced fun x hx => (hready x hx).trans hnext)
    | batch now =>
      cases fired with
      | none =>
        have hcalls : OnTime wait none (.batch now :: calls) ↔ OnTime wait none calls := by
          simp [OnTime]
        rw [hcalls]
        cases htimer : l.timer with
        | some due =>
          rw [step_waits (by simp [htimer])] at ih
          exact ih (h.pass hnow) hspaced
        | none =>
          by_cases hnext : now < l.next
          · rw [step_schedules htimer hnext] at ih
            exact ih (h.schedule hnow) hspaced
          · rw [step_runs htimer (not_lt.mp hnext)] at ih
            exact ih (h.direct hnow htimer) (spaced_append hspaced fun x hx =>
              ((h.ready rfl).1 x hx).trans (not_lt.mp hnext))
      | some time =>
        obtain ⟨htimer, hnext, hclock, hall, x, hx, hxtime⟩ := h.left time rfl
        have hdue : l.next ≤ now := hnext.trans (hclock.trans hnow)
        rw [step_runs htimer hdue] at ih rest
        by_cases honTime : time + wait ≤ now
        · have hcalls : OnTime wait (some time) (.batch now :: calls) ↔ OnTime wait none calls := by
            simp [OnTime, honTime]
          rw [hcalls]
          refine ih (h.direct hnow htimer) (spaced_append hspaced fun y hy => ?_)
          have hy := hall y hy
          exact le_trans (by gcongr) honTime
        · refine iff_of_false ?_ fun hcalls => honTime (hcalls.1 time rfl)
          exact not_spaced_of_close hx (hxtime ▸ honTime) rfl rest

end Throttle
