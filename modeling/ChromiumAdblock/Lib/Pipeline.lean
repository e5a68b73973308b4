import Mathlib.Data.List.Basic

/-! Pipelines of stages, each of which gives a list for an element or fails.  A pipeline takes a
list through its stages, one after the other; what comes out is what single elements reach. -/

namespace Pipeline

variable {α ε : Type}

/-- A stage on each element in turn. -/
def each (f : α → Except ε (List α)) : List α → Except ε (List α)
  | [] => .ok []
  | x :: xs => do
    let ys ← f x
    let zs ← each f xs
    return ys ++ zs

/-- All stages, one after the other. -/
def through : List (α → Except ε (List α)) → List α → Except ε (List α)
  | [], xs => .ok xs
  | f :: fs, xs => do
    let ys ← each f xs
    through fs ys

/-- An element reaches another through the stages. -/
def Reaches : List (α → Except ε (List α)) → α → α → Prop
  | [], x, z => z = x
  | f :: fs, x, z => ∃ ys, f x = .ok ys ∧ ∃ y ∈ ys, Reaches fs y z

variable {f : α → Except ε (List α)} {fs : List (α → Except ε (List α))} {x z : α}
  {xs ys zs : List α}

theorem each_cons_ok : each f (x :: xs) = .ok zs ↔
    ∃ ys ws, f x = .ok ys ∧ each f xs = .ok ws ∧ zs = ys ++ ws := by
  rw [each]
  cases hx : f x with
  | error _ => simp [bind, Except.bind]
  | ok ys =>
    cases hxs : each f xs with
    | error _ => simp [bind, Except.bind]
    | ok ws => simp [bind, Except.bind, pure, Except.pure, eq_comm]

theorem each_append_ok : each f (xs ++ ys) = .ok zs ↔
    ∃ as bs, each f xs = .ok as ∧ each f ys = .ok bs ∧ zs = as ++ bs := by
  induction xs generalizing zs with
  | nil => simp [each]
  | cons x xs ih =>
    rw [List.cons_append, each_cons_ok]
    constructor
    · rintro ⟨us, vs, hx, hrest, rfl⟩
      obtain ⟨as, bs, has, hbs, rfl⟩ := ih.mp hrest
      exact ⟨us ++ as, bs, each_cons_ok.mpr ⟨us, as, hx, has, rfl⟩, hbs, by simp⟩
    · rintro ⟨as, bs, has, hbs, rfl⟩
      obtain ⟨us, vs, hx, hvs, rfl⟩ := each_cons_ok.mp has
      exact ⟨us, vs ++ bs, hx, ih.mpr ⟨vs, bs, hvs, hbs, rfl⟩, by simp⟩

theorem mem_each (h : each f xs = .ok zs) :
    z ∈ zs ↔ ∃ x ∈ xs, ∃ ys, f x = .ok ys ∧ z ∈ ys := by
  induction xs generalizing zs with
  | nil =>
    obtain rfl := Except.ok.inj h
    simp
  | cons x xs ih =>
    obtain ⟨ys, ws, hx, hws, rfl⟩ := each_cons_ok.mp h
    rw [List.mem_append, ih hws]
    simp [hx]

/-- A stage passes a list when it passes each element of it. -/
theorem each_returns : (∃ zs, each f xs = .ok zs) ↔ ∀ x ∈ xs, ∃ ys, f x = .ok ys := by
  induction xs with
  | nil => simp [each]
  | cons x xs ih =>
    rw [List.forall_mem_cons, ← ih]
    constructor
    · rintro ⟨zs, h⟩
      obtain ⟨ys, ws, hx, hws, -⟩ := each_cons_ok.mp h
      exact ⟨⟨ys, hx⟩, ws, hws⟩
    · rintro ⟨⟨ys, hx⟩, ws, hws⟩
      exact ⟨ys ++ ws, each_cons_ok.mpr ⟨ys, ws, hx, hws, rfl⟩⟩

/-- A stage that keeps or drops each element filters. -/
theorem each_filter {p : α → Bool} (h : ∀ x ∈ xs, f x = .ok (if p x then [x] else [])) :
    each f xs = .ok (xs.filter p) := by
  induction xs with
  | nil => rfl
  | cons x xs ih =>
    obtain ⟨hx, hxs⟩ := List.forall_mem_cons.mp h
    rw [each, hx, ih hxs]
    cases hp : p x <;> simp [hp, bind, Except.bind, pure, Except.pure]

theorem each_error {failure : ε} (h : f x = .error failure) :
    each f (x :: xs) = .error failure := by
  rw [each, h]
  rfl

@[simp] theorem through_nil (fs : List (α → Except ε (List α))) : through fs [] = .ok [] := by
  induction fs with
  | nil => rfl
  | cons f fs ih => exact ih

theorem through_cons_ok : through (f :: fs) xs = .ok zs ↔
    ∃ ys, each f xs = .ok ys ∧ through fs ys = .ok zs := by
  rw [through]
  cases each f xs <;> simp [bind, Except.bind]

/-- Pipelines take lists apart: a list goes through when its parts do, and comes out in their
order. -/
theorem through_append_ok : through fs (xs ++ ys) = .ok zs ↔
    ∃ as bs, through fs xs = .ok as ∧ through fs ys = .ok bs ∧ zs = as ++ bs := by
  induction fs generalizing xs ys with
  | nil => simp [through, eq_comm]
  | cons f fs ih =>
    simp only [through_cons_ok, each_append_ok]
    constructor
    · rintro ⟨_, ⟨us, vs, hus, hvs, rfl⟩, hrest⟩
      obtain ⟨as, bs, has, hbs, rfl⟩ := ih.mp hrest
      exact ⟨as, bs, ⟨us, hus, has⟩, ⟨vs, hvs, hbs⟩, rfl⟩
    · rintro ⟨as, bs, ⟨us, hus, has⟩, ⟨vs, hvs, hbs⟩, rfl⟩
      exact ⟨us ++ vs, ⟨us, vs, hus, hvs, rfl⟩, ih.mpr ⟨as, bs, has, hbs, rfl⟩⟩

/-- What comes out is what single elements reach. -/
theorem mem_through (h : through fs xs = .ok zs) : z ∈ zs ↔ ∃ x ∈ xs, Reaches fs x z := by
  induction fs generalizing xs with
  | nil =>
    obtain rfl := Except.ok.inj h
    simp [Reaches]
  | cons f fs ih =>
    obtain ⟨ys, hys, hrest⟩ := through_cons_ok.mp h
    rw [ih hrest]
    constructor
    · rintro ⟨y, hy, hreach⟩
      obtain ⟨x, hx, us, hus, hmem⟩ := (mem_each hys).mp hy
      exact ⟨x, hx, us, hus, y, hmem, hreach⟩
    · rintro ⟨x, hx, us, hus, y, hmem, hreach⟩
      exact ⟨y, (mem_each hys).mpr ⟨x, hx, us, hus, hmem⟩, hreach⟩

/-- What goes through goes through in part. -/
theorem through_returns_of_subset (h : through fs ys = .ok zs) (hsub : ∀ x ∈ xs, x ∈ ys) :
    ∃ ws, through fs xs = .ok ws := by
  induction fs generalizing xs ys with
  | nil => exact ⟨xs, rfl⟩
  | cons f fs ih =>
    obtain ⟨us, hus, hrest⟩ := through_cons_ok.mp h
    have hall := each_returns.mp ⟨us, hus⟩
    obtain ⟨vs, hvs⟩ := each_returns.mpr fun x hx => hall x (hsub x hx)
    have hmem : ∀ v ∈ vs, v ∈ us := by
      intro v hv
      obtain ⟨x, hx, ws, hws, hv⟩ := (mem_each hvs).mp hv
      exact (mem_each hus).mpr ⟨x, hsub x hx, ws, hws, hv⟩
    obtain ⟨ws, hws⟩ := ih hrest hmem
    exact ⟨ws, through_cons_ok.mpr ⟨vs, hvs, hws⟩⟩

/-- A list goes through when each element of it does. -/
theorem through_returns (h : ∀ x ∈ xs, ∃ ys, through fs [x] = .ok ys) :
    ∃ zs, through fs xs = .ok zs := by
  induction xs with
  | nil => exact ⟨[], through_nil fs⟩
  | cons x xs ih =>
    obtain ⟨hx, hxs⟩ := List.forall_mem_cons.mp h
    obtain ⟨ys, hys⟩ := hx
    obtain ⟨zs, hzs⟩ := ih hxs
    exact ⟨ys ++ zs, through_append_ok.mpr ⟨ys, zs, hys, hzs, rfl⟩⟩

section Narrows

variable {ι : Type} {f g : ι → α → Except ε (List α)} {stages : List ι}

/-- Along the second of two pipelines, from an element, each stage gives only what it gives in the
first. -/
def Narrows (f g : ι → α → Except ε (List α)) : List ι → α → Prop
  | [], _ => True
  | i :: stages, x => ∀ zs, g i x = .ok zs →
    ∃ ys, f i x = .ok ys ∧ ∀ z ∈ zs, z ∈ ys ∧ Narrows f g stages z

/-- An element reaches no more through the second pipeline. -/
theorem Narrows.reaches (h : Narrows f g stages x) (hreach : Reaches (stages.map g) x z) :
    Reaches (stages.map f) x z := by
  induction stages generalizing x with
  | nil => exact hreach
  | cons i stages ih =>
    obtain ⟨zs, hzs, y, hy, hrest⟩ := hreach
    obtain ⟨ys, hys, hall⟩ := h zs hzs
    obtain ⟨hmem, hnarrows⟩ := hall y hy
    exact ⟨ys, hys, y, hmem, ih hnarrows hrest⟩

/-- Stages that give an element itself or nothing, and give it in the first pipeline where they do
in the second. -/
theorem narrows_of_self (h : ∀ i ∈ stages, ∀ zs, g i x = .ok zs →
    (∀ z ∈ zs, z = x) ∧ ∃ ys, f i x = .ok ys ∧ ∀ z ∈ zs, z ∈ ys) : Narrows f g stages x := by
  induction stages with
  | nil => trivial
  | cons i stages ih =>
    obtain ⟨hi, hrest⟩ := List.forall_mem_cons.mp h
    intro zs hzs
    obtain ⟨hself, ys, hys, hsub⟩ := hi zs hzs
    refine ⟨ys, hys, fun z hz => ⟨hsub z hz, ?_⟩⟩
    rw [hself z hz]
    exact ih hrest

end Narrows

/-- A stage that keeps all elements, or drops all, or fails on all. -/
def Uniform (f : α → Except ε (List α)) (verdict : Except ε Bool) : Prop :=
  ∀ x, f x = verdict.map fun keep => if keep then [x] else []

theorem each_of_uniform {verdict : Except ε Bool} (h : Uniform f verdict) :
    each f (x :: xs) = verdict.map fun keep => if keep then x :: xs else [] := by
  induction xs generalizing x with
  | nil =>
    rw [each, h x]
    cases verdict with
    | error _ => rfl
    | ok keep => cases keep <;> rfl
  | cons y ys ih =>
    rw [each, h x, ih]
    cases verdict with
    | error _ => rfl
    | ok keep => cases keep <;> rfl

section Filter

/-- Whether a test holds of an element; one that fails does not. -/
def holds (test : α → Except ε Bool) (x : α) : Bool :=
  match test x with
  | .ok keep => keep
  | .error _ => false

theorem filterAuxM_ok (test : α → Except ε Bool) (xs acc found : List α) :
    xs.filterAuxM test acc = .ok found ↔
      (∀ x ∈ xs, test x = .ok (holds test x)) ∧
        found = (xs.filter (holds test)).reverse ++ acc := by
  induction xs generalizing acc with
  | nil => simp [List.filterAuxM, pure, Except.pure, eq_comm]
  | cons x xs ih =>
    rw [List.filterAuxM]
    cases hx : test x with
    | error e => simp [bind, Except.bind, hx]
    | ok keep =>
      show xs.filterAuxM test (cond keep (x :: acc) acc) = .ok found ↔ _
      rw [ih]
      cases keep <;> simp [holds, hx]

/-- The elements of which a test holds, if it fails on none. -/
theorem filterM_ok {test : α → Except ε Bool} {found : List α} :
    xs.filterM test = .ok found ↔
      (∀ x ∈ xs, test x = .ok (holds test x)) ∧ found = xs.filter (holds test) := by
  have haux := fun rev => filterAuxM_ok test xs [] rev
  rw [List.filterM]
  cases hrev : xs.filterAuxM test [] with
  | error e =>
    have hnot : ¬ ∀ x ∈ xs, test x = .ok (holds test x) := fun hall => by
      have hok := (haux _).mpr ⟨hall, rfl⟩
      rw [hrev] at hok
      cases hok
    exact iff_of_false (by simp [bind, Except.bind]) fun h => hnot h.1
  | ok rev =>
    obtain ⟨hall, rfl⟩ := (haux rev).mp hrev
    rw [List.append_nil]
    show Except.ok ((xs.filter (holds test)).reverse.reverse) = _ ↔ _
    rw [List.reverse_reverse, Except.ok.injEq, eq_comm, and_iff_right hall]

/-- A list that is filtered becomes the elements with a property exactly when the test says on each
element of the list whether it has it. -/
theorem filterM_iff {test : α → Except ε Bool} {P : α → Prop} (hnodup : xs.Nodup)
    (hsub : ∀ x, P x → x ∈ xs) :
    (∃ found, xs.filterM test = .ok found ∧ found.Nodup ∧ ∀ x, x ∈ found ↔ P x) ↔
      ∀ x ∈ xs, ∃ keep, test x = .ok keep ∧ (keep = true ↔ P x) := by
  constructor
  · rintro ⟨found, hok, -, hfound⟩ x hx
    obtain ⟨hall, rfl⟩ := filterM_ok.mp hok
    refine ⟨holds test x, hall x hx, ?_⟩
    rw [← hfound, List.mem_filter, and_iff_right hx]
  · intro h
    have hall : ∀ x ∈ xs, test x = .ok (holds test x) := by
      intro x hx
      obtain ⟨keep, hkeep, -⟩ := h x hx
      rw [holds, hkeep]
    refine ⟨xs.filter (holds test), filterM_ok.mpr ⟨hall, rfl⟩, hnodup.filter _, fun x => ?_⟩
    rw [List.mem_filter]
    constructor
    · rintro ⟨hx, hholds⟩
      obtain ⟨keep, hkeep, hiff⟩ := h x hx
      rw [holds, hkeep] at hholds
      exact hiff.mp hholds
    · intro hP
      obtain ⟨keep, hkeep, hiff⟩ := h x (hsub x hP)
      refine ⟨hsub x hP, ?_⟩
      rw [holds, hkeep]
      exact hiff.mpr hP

end Filter

section Collect

variable {β : Type} {g : α → Except ε β}

/-- What a function returns for each element of a list, if it fails on none. -/
theorem mapM_ok {value : α → β} (h : ∀ x ∈ xs, g x = .ok (value x)) :
    xs.mapM g = .ok (xs.map value) := by
  induction xs with
  | nil => rfl
  | cons x xs ih =>
    obtain ⟨hx, hxs⟩ := List.forall_mem_cons.mp h
    rw [List.mapM_cons, hx, ih hxs]
    rfl

theorem returns_of_mapM {values : List β} (h : xs.mapM g = .ok values) :
    ∀ x ∈ xs, ∃ value, g x = .ok value := by
  induction xs generalizing values with
  | nil => simp
  | cons x xs ih =>
    rw [List.mapM_cons] at h
    cases hx : g x with
    | error e =>
      rw [hx] at h
      cases h
    | ok value =>
      cases hxs : xs.mapM g with
      | error e =>
        rw [hx, hxs] at h
        cases h
      | ok rest => exact List.forall_mem_cons.mpr ⟨⟨value, hx⟩, ih hxs⟩

end Collect

end Pipeline
