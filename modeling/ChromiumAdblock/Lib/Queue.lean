import Mathlib.Data.List.Perm.Basic

/-! Queues of tasks of which only some matter: `filterMap` says what a task stands for.  Where each
task overwrites what the ones before it did, only the last one matters. -/

namespace Queue

variable {α β : Type} (f : α → Option β)

/-- A task at the head of a queue. -/
theorem filterMap_head (a : α) (l : List α) :
    (a :: l).filterMap f = (f a).toList ++ l.filterMap f := by
  cases h : f a <;> simp [h]

/-- A task that is posted. -/
theorem filterMap_post (l : List α) (a : α) :
    (l ++ [a]).filterMap f = l.filterMap f ++ (f a).toList := by
  rw [List.filterMap_append, filterMap_head, List.filterMap_nil, List.append_nil]

/-- A task that is taken out of turn. -/
theorem filterMap_eraseIdx {l : List α} {i : Nat} {a : α} (h : l[i]? = some a) :
    (l.filterMap f).Perm ((f a).toList ++ (l.eraseIdx i).filterMap f) := by
  obtain ⟨hi, rfl⟩ := List.getElem?_eq_some_iff.mp h
  rw [← filterMap_head]
  exact (List.getElem_cons_eraseIdx_perm hi).symm.filterMap f

/-- A task that is posted to one of several queues. -/
theorem filterMap_post_between (front back : List β) (l : List α) (a : α) :
    (front ++ (l ++ [a]).filterMap f ++ back).Perm
      ((f a).toList ++ (front ++ l.filterMap f ++ back)) := by
  simp only [filterMap_post, List.append_assoc]
  refine ((List.perm_append_comm_assoc _ _ _).append_left front).trans ?_
  exact List.perm_append_comm_assoc _ _ _

/-- A task that is taken out of turn from one of several queues. -/
theorem filterMap_eraseIdx_between (front back : List β) {l : List α} {i : Nat} {a : α}
    (h : l[i]? = some a) : (front ++ l.filterMap f ++ back).Perm
      ((f a).toList ++ (front ++ (l.eraseIdx i).filterMap f ++ back)) := by
  refine (((filterMap_eraseIdx f h).append_left front).append_right back).trans ?_
  simp only [List.append_assoc]
  exact List.perm_append_comm_assoc _ _ _

/-- The last element of a list, if it has one, has a property. -/
def LastHolds (p : α → Prop) (l : List α) : Prop := ∀ a, l.getLast? = some a → p a

section LastHolds

variable {p : α → Prop} {first second : List α} {a : α}

theorem LastHolds.concat (l : List α) (h : p a) : LastHolds p (l ++ [a]) := by
  intro b hb
  rw [List.getLast?_concat] at hb
  exact Option.some.inj hb ▸ h

theorem LastHolds.drop (first : List α) (h : LastHolds p (first ++ second)) : LastHolds p second :=
  fun a ha => h a (by rw [List.getLast?_append, ha, Option.some_or])

/-- What comes before a list that is not empty does not matter. -/
theorem LastHolds.append (first : List α) (h : LastHolds p second) (hne : second ≠ []) :
    LastHolds p (first ++ second) := by
  intro a ha
  rw [List.getLast?_append_of_ne_nil _ hne] at ha
  exact h a ha

/-- An element is replaced by others. -/
theorem LastHolds.replace (h : LastHolds p (first ++ a :: second)) {new : List α} (hne : new ≠ [])
    (hp : p a → ∀ b ∈ new, p b) : LastHolds p (first ++ (new ++ second)) := by
  cases second with
  | nil =>
    have ha : p a := h.drop first a rfl
    rw [List.append_nil]
    exact LastHolds.append first (fun b hb => hp ha b (List.mem_of_getLast? hb)) hne
  | cons c second =>
    have hrest : LastHolds p (c :: second) := LastHolds.drop [a] (h.drop first)
    exact (hrest.append new (by simp)).append first (by simp)

/-- An element is put in, which has the property or is not the last one. -/
theorem LastHolds.insert (h : LastHolds p (first ++ second)) (ha : second = [] → p a) :
    LastHolds p (first ++ a :: second) := by
  cases second with
  | nil => exact .concat first (ha rfl)
  | cons c second => exact ((h.drop first).append [a] (by simp)).append first (by simp)

end LastHolds

end Queue
