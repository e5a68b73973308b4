import Mathlib.Data.List.Nodup
import Mathlib.Data.List.Perm.Subperm

/-! A barrier that waits for one contribution of each of its keys.  A key is under way, or has come,
or was lost on the way; each at most once.  So a barrier that has as many contributions as keys has
exactly one of each key, with nothing under way; and one that waits for nothing has all, or has lost
a key. -/

namespace Barrier

variable {κ : Type} {keys pending pending' came : List κ} {lost lost' : κ → Prop} {k : κ}

/-- The keys that are under way and those that have come, against the keys of the barrier. -/
structure Accounted (keys pending came : List κ) (lost : κ → Prop) : Prop where
  distinct : keys.Nodup
  once : (pending ++ came).Nodup
  known : ∀ k ∈ pending ++ came, k ∈ keys
  missing : ∀ k ∈ keys, k ∉ pending ++ came → lost k

namespace Accounted

theorem start (h : keys.Nodup) : Accounted keys keys [] lost where
  distinct := h
  once := by simpa using h
  known := by simp
  missing k hk hnot := absurd (by simpa using hk) hnot

theorem perm (h : Accounted keys pending came lost) (hperm : pending'.Perm pending) :
    Accounted keys pending' came lost where
  distinct := h.distinct
  once := (hperm.append_right came).nodup_iff.mpr h.once
  known k hk := h.known k ((hperm.append_right came).mem_iff.mp hk)
  missing k hk hnot := h.missing k hk fun hmem => hnot ((hperm.append_right came).mem_iff.mpr hmem)

theorem mono (h : Accounted keys pending came lost) (hlost : ∀ k, lost k → lost' k) :
    Accounted keys pending came lost' :=
  ⟨h.distinct, h.once, h.known, fun k hk hnot => hlost k (h.missing k hk hnot)⟩

/-- A key that was under way comes. -/
theorem arrive (h : Accounted keys (k :: pending) came lost) :
    Accounted keys pending (came ++ [k]) lost := by
  have hperm : (pending ++ (came ++ [k])).Perm (k :: pending ++ came) := by
    rw [← List.append_assoc]
    exact List.perm_append_singleton k (pending ++ came)
  refine ⟨h.distinct, hperm.nodup_iff.mpr h.once, fun j hj => h.known j (hperm.mem_iff.mp hj), ?_⟩
  exact fun j hj hnot => h.missing j hj fun hmem => hnot (hperm.mem_iff.mpr hmem)

/-- A key that was under way is lost. -/
theorem lose (h : Accounted keys (k :: pending) came lost) (hlost : lost k) :
    Accounted keys pending came lost := by
  refine ⟨h.distinct, (List.nodup_cons.mp h.once).2, fun j hj => h.known j (.tail _ hj), ?_⟩
  intro j hj hnot
  by_cases hjk : j = k
  · exact hjk ▸ hlost
  · refine h.missing j hj fun hmem => ?_
    exact (List.mem_cons.mp hmem).elim hjk hnot

/-- With as many contributions as keys, there is exactly one of each key, and nothing is under way.
-/
theorem full (h : Accounted keys pending came lost) (hlength : came.length = keys.length) :
    came.Perm keys ∧ pending = [] := by
  obtain ⟨-, hcame, hdisjoint⟩ := List.nodup_append'.mp h.once
  have hsub : came.Subperm keys :=
    List.subperm_of_subset hcame fun k hk => h.known k (List.mem_append_right _ hk)
  have hperm : came.Perm keys := hsub.perm_of_length_le (Nat.le_of_eq hlength.symm)
  refine ⟨hperm, List.eq_nil_iff_forall_not_mem.mpr fun k hk => ?_⟩
  exact hdisjoint hk (hperm.mem_iff.mpr (h.known k (List.mem_append_left _ hk)))

/-- A barrier that nothing is under way to is full, or has lost a key. -/
theorem settled (h : Accounted keys [] came lost) :
    came.length = keys.length ∨ ∃ k ∈ keys, lost k := by
  by_cases hall : ∀ k ∈ keys, k ∈ came
  · refine .inl (Nat.le_antisymm ?_ ?_)
    · exact (List.subperm_of_subset (by simpa using h.once)
        fun k hk => h.known k (by simpa using hk)).length_le
    · exact (List.subperm_of_subset h.distinct hall).length_le
  · push Not at hall
    obtain ⟨k, hk, hnot⟩ := hall
    exact .inr ⟨k, hk, h.missing k hk (by simpa using hnot)⟩

end Accounted

end Barrier
