import Mathlib.Data.List.Forall2

/-! Evidence for and against blocking, gathered from several sources.  A source may leave out what
the evidence gathered before it makes irrelevant: nothing counts against an important rule, and a
rule counts only where no exception does.  `Agrees` says that two bodies of evidence differ in such
parts only; asking sources that leave out no more keeps it, so the verdict is that of all the
evidence, whatever the order of the sources. -/

namespace Evidence

/-- What has been found: a rule, an exception, an important rule. -/
@[ext]
structure Found where
  rule : Bool
  exception : Bool
  important : Bool
deriving DecidableEq

namespace Found

def nothing : Found := ⟨false, false, false⟩

def join (a b : Found) : Found :=
  ⟨a.rule || b.rule, a.exception || b.exception, a.important || b.important⟩

/-- An important rule blocks, and a rule that no exception lifts. -/
def blocks (a : Found) : Bool := a.important || a.rule && !a.exception

variable (a b c : Found)

@[simp] theorem join_rule : (a.join b).rule = (a.rule || b.rule) := rfl
@[simp] theorem join_exception : (a.join b).exception = (a.exception || b.exception) := rfl
@[simp] theorem join_important : (a.join b).important = (a.important || b.important) := rfl
@[simp] theorem nothing_join : nothing.join a = a := by ext <;> simp [nothing]

theorem join_assoc : (a.join b).join c = a.join (b.join c) := by
  ext <;> simp [Bool.or_assoc]

theorem join_comm : a.join b = b.join a := by
  ext <;> simp [Bool.or_comm]

/-- Evidence that does not block only adds its exceptions to further evidence. -/
theorem join_blocks_of_not (h : a.blocks = false) :
    (a.join b).blocks = (b.important || b.rule && !b.exception && !a.exception) := by
  obtain ⟨himp, hrule⟩ : a.important = false ∧ (a.rule = true → a.exception = true) := by
    simpa [blocks] using h
  cases hr : a.rule with
  | true => simp [blocks, himp, hr, hrule hr]
  | false => cases he : a.exception <;> simp [blocks, himp, hr, he]

/-- The evidence `a` and `b` agree where it matters for the verdict, now and with more evidence. -/
structure Agrees (a b : Found) : Prop where
  important : a.important = b.important
  exception : a.important = false → a.exception = b.exception
  rule : a.important = false → a.exception = false → a.rule = b.rule

namespace Agrees

variable {a b c : Found}

theorem refl (a : Found) : a.Agrees a := ⟨rfl, fun _ => rfl, fun _ _ => rfl⟩

theorem blocks (h : a.Agrees b) : a.blocks = b.blocks := by
  obtain ⟨hi, he, hr⟩ := h
  cases hai : a.important with
  | true => simp [Found.blocks, ← hi, hai]
  | false =>
    have hex := he hai
    cases hae : a.exception with
    | true => simp [Found.blocks, ← hi, hai, ← hex, hae]
    | false => simp [Found.blocks, ← hi, hai, ← hex, hae, ← hr hai hae]

/-- Once an important rule is found, no further evidence matters. -/
theorem join_of_important (h : a.Agrees b) (ha : a.important = true) : a.Agrees (b.join c) := by
  have hb : b.important = true := h.important ▸ ha
  exact ⟨by simp [ha, hb], fun hf => absurd (ha.symm.trans hf) (by simp),
    fun hf => absurd (ha.symm.trans hf) (by simp)⟩

end Agrees

/-- The answer `found` of a source that holds `full`, when asked with the evidence `past`. -/
structure AnswersFor (past found full : Found) : Prop where
  important : found.important = full.important
  exception : full.important = false → past.exception = false →
    found.exception = full.exception
  rule : full.important = false → past.rule = false → past.exception = false →
    full.exception = false → found.rule = full.rule

/-- Asking a source adds, where it matters, all the evidence that the source holds. -/
theorem AnswersFor.agrees {past all found full : Found} (h : AnswersFor past found full)
    (hpast : past.Agrees all) : (past.join found).Agrees (all.join full) := by
  obtain ⟨hi, he, hr⟩ := hpast
  refine ⟨?_, fun himp => ?_, fun himp hexc => ?_⟩
  · simp [hi, h.important]
  · simp only [join_important, Bool.or_eq_false_iff, h.important] at himp
    simp only [join_exception, ← he himp.1]
    cases hp : past.exception with
    | true => simp
    | false => simp [h.exception himp.2 hp]
  · simp only [join_important, join_exception, Bool.or_eq_false_iff, h.important] at himp hexc
    simp only [join_rule, ← hr himp.1 hexc.1]
    cases hp : past.rule with
    | true => simp
    | false =>
      have hfull : full.exception = false := (h.exception himp.2 hexc.1) ▸ hexc.2
      simp [h.rule himp.2 hp hexc.1 hfull]

end Found

/-- A source: what it answers when asked with the evidence so far. -/
abbrev Source := Found → Found

/-- A source that leaves out nothing that matters of what it holds. -/
def Source.Holds (source : Source) (full : Found) : Prop :=
  ∀ past, Found.AnswersFor past (source past) full

/-- The sources are asked in turn, each with the evidence so far, until one has an important rule.
-/
def ask : List Source → Found → Found
  | [], past => past
  | source :: rest, past =>
    if (source past).important then past.join (source past)
    else ask rest (past.join (source past))

def joinAll (all : List Found) : Found := all.foldr Found.join Found.nothing

@[simp] theorem joinAll_nil : joinAll [] = Found.nothing := rfl

@[simp] theorem joinAll_cons (a : Found) (all : List Found) :
    joinAll (a :: all) = a.join (joinAll all) := rfl

/-- Sources that are asked until one is decisive give evidence that agrees with all they hold. -/
theorem ask_agrees {sources : List Source} {fulls : List Found} {past all : Found}
    (hsources : List.Forall₂ Source.Holds sources fulls) (hpast : past.Agrees all) :
    (ask sources past).Agrees (all.join (joinAll fulls)) := by
  induction hsources generalizing past all with
  | nil =>
    have hall : all.join Found.nothing = all := by rw [Found.join_comm, Found.nothing_join]
    rw [joinAll_nil, hall]
    exact hpast
  | @cons source full sources fulls hsource _ ih =>
    have hnext := (hsource past).agrees hpast
    rw [joinAll_cons, ← Found.join_assoc, ask]
    split
    · rename_i himp
      exact hnext.join_of_important (by simp [himp])
    · exact ih hnext

end Evidence
