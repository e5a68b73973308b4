import Mathlib.Data.List.Nodup
import ChromiumAdblock.Cosmetic.Dom

/-! The trees that the nodes of a document form: which nodes are above a node, and which elements
stand beside it. -/

namespace ChromiumAdblock

namespace Dom

variable {ν : Type} (dom : Dom ν)

/-- The nodes above a node. -/
def above (node : ν) : List ν := (dom.inclusiveAncestors node).tail

theorem above_of_root {node : ν} (h : dom.parentNode node = none) : dom.above node = [] := by
  rw [above, inclusiveAncestors_eq, h]
  rfl

theorem above_of_parent {node parent : ν} (h : dom.parentNode node = some parent) :
    dom.above node = parent :: dom.above parent := by
  rw [above, inclusiveAncestors_eq, h]
  show dom.inclusiveAncestors parent = _
  rw [above, inclusiveAncestors_eq]
  rfl

theorem depth_lt_of_mem_above {node other : ν} (h : other ∈ dom.above node) :
    dom.depth other < dom.depth node := by
  induction hdepth : dom.depth node using Nat.strongRecOn generalizing node with
  | ind n ih =>
    cases hparent : dom.parentNode node with
    | none =>
      rw [above_of_root dom hparent] at h
      cases h
    | some parent =>
      have hlt := dom.depth_parent hparent
      rw [above_of_parent dom hparent] at h
      rcases List.mem_cons.mp h with rfl | h
      · omega
      · have hrest := ih (dom.depth parent) (by omega) h rfl
        omega

/-- The nodes form trees, whose elements the lists of children and of descendants show. -/
structure IsTree : Prop where
  mem_children : ∀ parent child, child ∈ dom.children parent ↔
    dom.isElement child = true ∧ dom.parentNode child = some parent
  children_nodup : ∀ node, (dom.children node).Nodup
  mem_descendants : ∀ node element, element ∈ dom.descendants node ↔
    dom.isElement element = true ∧ node ∈ dom.above element
  descendants_nodup : ∀ node, (dom.descendants node).Nodup
  isElement_of_html : ∀ node, dom.isHTMLElement node = true → dom.isElement node = true

/-- An element is the next one among the children of its parent. -/
def IsNextSibling (element next : ν) : Prop :=
  ∃ parent before after, dom.parentNode element = some parent ∧
    dom.children parent = before ++ element :: next :: after

/-- An element comes later among the children of its parent. -/
def IsLaterSibling (element later : ν) : Prop :=
  ∃ parent before after, dom.parentNode element = some parent ∧
    dom.children parent = before ++ element :: after ∧ later ∈ after

end Dom

section Siblings

variable {ν : Type} [DecidableEq ν] {dom : Dom ν}

/-- The children of an element's parent before the element, in the order of the tree. -/
def Dom.siblingsBefore (dom : Dom ν) (element : ν) : List ν :=
  match dom.parentNode element with
  | none => []
  | some parent => (dom.children parent).takeWhile (· ≠ element)

/-- The children of an element's parent behind the element, in the order of the tree. -/
def Dom.siblingsAfter (dom : Dom ν) (element : ν) : List ν :=
  match dom.parentNode element with
  | none => []
  | some parent => ((dom.children parent).dropWhile (· ≠ element)).tail

theorem dropWhile_ne {xs : List ν} {x : ν} (h : x ∈ xs) :
    xs.dropWhile (· ≠ x) = x :: (xs.dropWhile (· ≠ x)).tail := by
  induction xs with
  | nil => contradiction
  | cons y xs ih =>
    by_cases hy : y = x
    · subst hy
      simp
    · rw [List.dropWhile_cons_of_pos (by simpa using hy)]
      exact ih ((List.mem_cons.mp h).resolve_left fun e => hy e.symm)

/-- An element of a tree among the children of its parent. -/
theorem Dom.IsTree.children_eq (tree : dom.IsTree) {element parent : ν}
    (hparent : dom.parentNode element = some parent) (helement : dom.isElement element = true) :
    dom.children parent = dom.siblingsBefore element ++ element :: dom.siblingsAfter element := by
  have hmem : element ∈ dom.children parent := (tree.mem_children _ _).mpr ⟨helement, hparent⟩
  simp only [Dom.siblingsBefore, Dom.siblingsAfter, hparent]
  rw [← dropWhile_ne hmem, List.takeWhile_append_dropWhile]

/-- There is only one way to split the children at an element. -/
theorem Dom.IsTree.split_unique (tree : dom.IsTree) {element parent : ν} {before after : List ν}
    (hparent : dom.parentNode element = some parent) (helement : dom.isElement element = true)
    (hsplit : dom.children parent = before ++ element :: after) :
    before = dom.siblingsBefore element ∧ after = dom.siblingsAfter element := by
  have hchildren := tree.children_eq hparent helement
  have hnodup := tree.children_nodup parent
  rw [hchildren, List.nodup_middle, List.nodup_cons, List.mem_append, not_or] at hnodup
  rw [hchildren] at hsplit
  obtain ⟨h, -, h'⟩ := (List.append_cons_inj_of_notMem hnodup.1.1 hnodup.1.2).mp hsplit
  exact ⟨h.symm, h'.symm⟩

theorem Dom.IsTree.isNextSibling_iff (tree : dom.IsTree) {element next : ν}
    (helement : dom.isElement element = true) :
    dom.IsNextSibling element next ↔ (dom.siblingsAfter element).head? = some next := by
  constructor
  · rintro ⟨parent, before, after, hparent, hsplit⟩
    rw [← (tree.split_unique hparent helement hsplit).2, List.head?_cons]
  · intro hnext
    cases hparent : dom.parentNode element with
    | none => simp [Dom.siblingsAfter, hparent] at hnext
    | some parent =>
      obtain ⟨after, hafter⟩ := List.head?_eq_some_iff.mp hnext
      exact ⟨parent, _, after, hparent, hafter ▸ tree.children_eq hparent helement⟩

theorem Dom.IsTree.isLaterSibling_iff (tree : dom.IsTree) {element : ν}
    (helement : dom.isElement element = true) (later : ν) :
    dom.IsLaterSibling element later ↔ later ∈ dom.siblingsAfter element := by
  constructor
  · rintro ⟨parent, before, after, hparent, hsplit, hlater⟩
    rwa [← (tree.split_unique hparent helement hsplit).2]
  · intro hlater
    cases hparent : dom.parentNode element with
    | none => simp [Dom.siblingsAfter, hparent] at hlater
    | some parent =>
      exact ⟨parent, _, _, hparent, tree.children_eq hparent helement, hlater⟩

theorem Dom.IsTree.isLaterSibling_iff_before (tree : dom.IsTree) {element : ν}
    (helement : dom.isElement element = true) (earlier : ν) :
    dom.IsLaterSibling earlier element ↔ earlier ∈ dom.siblingsBefore element := by
  constructor
  · rintro ⟨parent, before, after, -, hsplit, hlater⟩
    have hmem : element ∈ dom.children parent := by
      rw [hsplit]
      exact List.mem_append_right _ (List.mem_cons_of_mem _ hlater)
    have hparent := ((tree.mem_children _ _).mp hmem).2
    obtain ⟨between, after, rfl⟩ := List.append_of_mem hlater
    have hsplit' : dom.children parent = (before ++ earlier :: between) ++ element :: after := by
      rw [hsplit, List.append_assoc, List.cons_append]
    rw [← (tree.split_unique hparent helement hsplit').1]
    exact List.mem_append_right _ List.mem_cons_self
  · intro hearlier
    cases hparent : dom.parentNode element with
    | none => simp [Dom.siblingsBefore, hparent] at hearlier
    | some parent =>
      have hchildren := tree.children_eq hparent helement
      obtain ⟨before, between, hbefore⟩ := List.append_of_mem hearlier
      have hmem : earlier ∈ dom.children parent := by
        rw [hchildren]
        exact List.mem_append_left _ hearlier
      refine ⟨parent, before, between ++ element :: dom.siblingsAfter element,
        ((tree.mem_children _ _).mp hmem).2, ?_, List.mem_append_right _ List.mem_cons_self⟩
      rw [hchildren, hbefore, List.append_assoc, List.cons_append]

/-- Two children of a node are one, or one of them comes later. -/
theorem Dom.IsTree.siblings_cases (tree : dom.IsTree) {x y parent : ν}
    (hx : dom.isElement x = true) (hy : dom.isElement y = true)
    (hxparent : dom.parentNode x = some parent) (hyparent : dom.parentNode y = some parent) :
    x = y ∨ dom.IsLaterSibling x y ∨ dom.IsLaterSibling y x := by
  have hmem : y ∈ dom.children parent := (tree.mem_children _ _).mpr ⟨hy, hyparent⟩
  rw [tree.children_eq hxparent hx] at hmem
  rcases List.mem_append.mp hmem with hbefore | hafter
  · exact .inr (.inr ((tree.isLaterSibling_iff_before hx y).mpr hbefore))
  · rcases List.mem_cons.mp hafter with hsame | hafter
    · exact .inl hsame.symm
    · exact .inr (.inl ((tree.isLaterSibling_iff hx y).mpr hafter))

theorem Dom.IsTree.siblings_nodup (tree : dom.IsTree) {element : ν}
    (helement : dom.isElement element = true) :
    (dom.siblingsBefore element ++ dom.siblingsAfter element).Nodup := by
  cases hparent : dom.parentNode element with
  | none => simp [Dom.siblingsBefore, Dom.siblingsAfter, hparent]
  | some parent =>
    have hnodup := tree.children_nodup parent
    rw [tree.children_eq hparent helement, List.nodup_middle, List.nodup_cons] at hnodup
    exact hnodup.2

end Siblings

end ChromiumAdblock
