import ChromiumAdblock.Cosmetic.DomTree
import ChromiumAdblock.Cosmetic.ProceduralSelectors

/-! The CSS selectors that start with a combinator, as `operatorCssSelector` evaluates them, against
what CSS says of a combinator: which elements stand in its relation to an element of the tree. -/

namespace ChromiumAdblock

open Pipeline

inductive Combinator
  | nextSibling
  | laterSibling
  | child
  | descendant
deriving DecidableEq, Repr

namespace Combinator

def char : Combinator → Char
  | .nextSibling => '+'
  | .laterSibling => '~'
  | .child => '>'
  | .descendant => ' '

/-- The combinator, any spaces, and a compound selector. -/
def relative (combinator : Combinator) (spaces : Nat) (compound : String) : String :=
  String.ofList (combinator.char :: (List.replicate spaces ' ' ++ compound.toList))

/-- The relation of an element to those that the combinator reaches. -/
def Relates {ν : Type} (dom : Dom ν) : Combinator → ν → ν → Prop
  | .nextSibling, element, x => dom.IsNextSibling element x
  | .laterSibling, element, x => dom.IsLaterSibling element x
  | .child, element, x => dom.isElement x = true ∧ dom.parentNode x = some element
  | .descendant, element, x => dom.isElement x = true ∧ element ∈ dom.above x

end Combinator

/-- What browsers do with compound selectors, which have no combinators of their own. -/
structure CompoundSelectors {ν : Type} (b : Browser ν) where
  isCompound : String → Prop
  valid : ∀ compound, isCompound compound → b.isValidSelector compound = true
  /-- Also without white space that starts it, a compound selector does not start with a
  combinator. -/
  starts : ∀ compound, isCompound compound →
    ∀ c ∈ (JsText.trimStart compound.toList).head?, c ∉ ['+', '~', '>']
  below_valid : ∀ compound, isCompound compound →
    b.isValidSelector (":scope " ++ compound) = true
  below : ∀ (dom : Dom ν) compound element, isCompound compound → ∀ x ∈ dom.descendants element,
    b.matchesSelector dom (":scope " ++ compound) (some element) x =
      b.matchesSelector dom compound (some element) x

section Operator

variable {ν : Type} [DecidableEq ν] (b : Browser ν) (dom : Dom ν)

/-- The HTML elements that CSS assigns to a compound selector behind a combinator. -/
def Assigned (combinator : Combinator) (compound : String) (element x : ν) : Prop :=
  dom.isHTMLElement x = true ∧ combinator.Relates dom element x ∧
    b.matchesSelector dom compound (some element) x = true

/-- The operator returns these elements, each once. -/
def ImplementsCombinator (combinator : Combinator) (spaces : Nat) (compound : String)
    (element : ν) : Prop :=
  ∃ found, operatorCssSelector b dom (combinator.relative spaces compound) element = .ok found ∧
    found.Nodup ∧ ∀ x, x ∈ found ↔ Assigned b dom combinator compound element x

/-- The compound selector as the operator hands it on. -/
def handedOn (compound : String) : String := String.ofList (JsText.trimStart compound.toList)

/-- An element matches the selector that is handed on, in which `:scope` is the element itself,
just if it matches the compound selector, in which `:scope` is the element of the rule. -/
def MatchesAlike (compound : String) (element x : ν) : Prop :=
  b.matchesElement dom (handedOn compound) x =
    .ok (b.matchesSelector dom compound (some element) x)

/-- What the tree and the compound selector must be for the operator to do what CSS says. -/
def CombinatorAgrees (combinator : Combinator) (compound : String) (element : ν) : Prop :=
  match combinator with
  | .nextSibling => ∀ x, dom.isHTMLElement x = true → dom.IsNextSibling element x →
      MatchesAlike b dom compound element x
  | .laterSibling =>
    -- Siblings that come earlier are asked too.
    (∀ x, dom.isHTMLElement x = true → dom.IsLaterSibling element x →
      MatchesAlike b dom compound element x) ∧
    ∀ x, dom.isHTMLElement x = true → dom.IsLaterSibling x element →
      b.matchesElement dom (handedOn compound) x = .ok false
  | .child => ∀ x, dom.isHTMLElement x = true → dom.parentNode x = some element →
      MatchesAlike b dom compound element x
  | .descendant =>
    -- Elements that are no HTML elements are returned too.
    (handedOn compound = compound ∨
      b.isValidSelector (":scope " ++ handedOn compound) = true ∧
      ∀ x ∈ dom.descendants element, dom.isHTMLElement x = true →
        b.matchesSelector dom (":scope " ++ handedOn compound) (some element) x =
          b.matchesSelector dom compound (some element) x) ∧
    ∀ x ∈ dom.descendants element, dom.isHTMLElement x = false →
      b.matchesSelector dom (":scope " ++ handedOn compound) (some element) x = false

end Operator

section Evaluation

variable {ν : Type} [DecidableEq ν] {b : Browser ν} {dom : Dom ν}

theorem dropWhile_replicate_append (spaces : Nat) (text : List Char) :
    JsText.trimStart (List.replicate spaces ' ' ++ text) = JsText.trimStart text := by
  induction spaces with
  | zero => rfl
  | succ spaces ih =>
    rw [List.replicate_succ, List.cons_append, JsText.trimStart, List.dropWhile_cons_of_pos rfl]
    exact ih

theorem trimStart_of_not {c : Char} {rest : List Char} (h : JsText.isWhiteSpace c = false) :
    JsText.trimStart (c :: rest) = c :: rest :=
  List.dropWhile_cons_of_neg (by simp [h])

theorem stripCssOperator_relative (c : Char) (spaces : Nat) (compound : String) :
    stripCssOperator (c :: (List.replicate spaces ' ' ++ compound.toList)) = handedOn compound := by
  rw [stripCssOperator, List.tail_cons, dropWhile_replicate_append, handedOn]

theorem operator_next (spaces : Nat) (compound : String) (element : ν) :
    operatorCssSelector b dom (Combinator.nextSibling.relative spaces compound) element =
      match nextSiblingElement dom element with
      | none => .ok []
      | some sibling => keepIf (b.matchesElement dom (handedOn compound) sibling) sibling := by
  simp only [operatorCssSelector, Combinator.relative, Combinator.char, String.toList_ofList]
  rw [trimStart_of_not (by decide), stripCssOperator_relative]
  rfl

theorem operator_later (spaces : Nat) (compound : String) (element : ν) :
    operatorCssSelector b dom (Combinator.laterSibling.relative spaces compound) element =
      (allOtherSiblings dom element).filterM (b.matchesElement dom (handedOn compound)) := by
  simp only [operatorCssSelector, Combinator.relative, Combinator.char, String.toList_ofList]
  rw [trimStart_of_not (by decide), stripCssOperator_relative]
  rfl

theorem operator_child (spaces : Nat) (compound : String) (element : ν) :
    operatorCssSelector b dom (Combinator.child.relative spaces compound) element =
      (allChildren dom element).filterM (b.matchesElement dom (handedOn compound)) := by
  simp only [operatorCssSelector, Combinator.relative, Combinator.char, String.toList_ofList]
  rw [trimStart_of_not (by decide), stripCssOperator_relative]
  rfl

theorem operator_descendant (spaces : Nat) {compound : String} (element : ν)
    (h : ∀ c ∈ (JsText.trimStart compound.toList).head?, c ∉ ['+', '~', '>']) :
    operatorCssSelector b dom (Combinator.descendant.relative spaces compound) element =
      b.querySelectorAllBelow dom (":scope " ++ handedOn compound) element := by
  have htrim : JsText.trimStart (' ' :: (List.replicate spaces ' ' ++ compound.toList)) =
      JsText.trimStart compound.toList := dropWhile_replicate_append (spaces + 1) compound.toList
  simp only [operatorCssSelector, Combinator.relative, Combinator.char, String.toList_ofList, htrim]
  cases htext : JsText.trimStart compound.toList with
  | nil => simp [handedOn, htext]
  | cons c rest =>
    have hc := h c (by simp [htext])
    simp only [List.mem_cons, List.not_mem_nil, or_false, not_or] at hc
    obtain ⟨hplus, htilde, hgreater⟩ := hc
    split
    · rename_i hchars
      exact absurd (List.cons.inj hchars).1 hplus
    · rename_i hchars
      exact absurd (List.cons.inj hchars).1 htilde
    · rename_i hchars
      exact absurd (List.cons.inj hchars).1 hgreater
    · simp [handedOn, htext]

end Evaluation

section Siblings

variable {ν : Type} [DecidableEq ν] {dom : Dom ν}

theorem allOtherSiblings_eq (tree : dom.IsTree) {element : ν}
    (helement : dom.isElement element = true) :
    allOtherSiblings dom element =
      (dom.siblingsBefore element ++ dom.siblingsAfter element).filter dom.isHTMLElement := by
  cases hparent : dom.parentNode element with
  | none => simp [allOtherSiblings, Dom.siblingsBefore, Dom.siblingsAfter, hparent]
  | some parent =>
    have hchildren := tree.children_eq hparent helement
    have hnodup := tree.children_nodup parent
    rw [hchildren, List.nodup_middle, List.nodup_cons] at hnodup
    have hother : ∀ x ∈ dom.siblingsBefore element ++ dom.siblingsAfter element, x ≠ element :=
      fun x hx e => hnodup.1 (e ▸ hx)
    simp only [allOtherSiblings, hparent, hchildren]
    rw [List.filter_append, List.filter_cons_of_neg (by simp), ← List.filter_append]
    exact List.filter_congr fun x hx => by simp [hother x hx]

theorem nextSiblingElement_eq (tree : dom.IsTree) {element : ν}
    (helement : dom.isElement element = true) :
    nextSiblingElement dom element =
      (dom.siblingsAfter element).head?.filter dom.isHTMLElement := by
  cases hparent : dom.parentNode element with
  | none => simp [nextSiblingElement, Dom.siblingsAfter, hparent]
  | some parent =>
    have hchildren := tree.children_eq hparent helement
    have hnodup := tree.children_nodup parent
    rw [hchildren, List.nodup_middle, List.nodup_cons, List.mem_append, not_or] at hnodup
    have hat : (dom.children parent).idxOf element = (dom.siblingsBefore element).length := by
      rw [hchildren, List.idxOf_append_of_notMem hnodup.1.1, List.idxOf_cons_self, Nat.add_zero]
    have hmem : element ∈ dom.children parent := (tree.mem_children _ _).mpr ⟨helement, hparent⟩
    simp only [nextSiblingElement, hparent, hmem, if_true, hat]
    rw [hchildren, List.getElem?_append_right (by omega), Nat.add_sub_cancel_left,
      List.getElem?_cons_succ, List.head?_eq_getElem?]

end Siblings

section Agreement

variable {ν : Type} {b : Browser ν} {dom : Dom ν}

/-- A candidate in the relation of the combinator. -/
theorem assigned_of_relates (combinator : Combinator) {compound : String} {element x : ν}
    (hhtml : dom.isHTMLElement x = true) (hrelates : combinator.Relates dom element x) :
    (∃ keep, b.matchesElement dom (handedOn compound) x = .ok keep ∧
      (keep = true ↔ Assigned b dom combinator compound element x)) ↔
    MatchesAlike b dom compound element x := by
  simp only [Assigned, hhtml, hrelates, true_and, MatchesAlike]
  constructor
  · rintro ⟨keep, hkeep, hiff⟩
    rw [hkeep, Bool.eq_iff_iff.mpr hiff]
  · intro h
    exact ⟨_, h, Iff.rfl⟩

/-- A candidate that is not in the relation of the combinator. -/
theorem assigned_of_not (combinator : Combinator) {compound : String} {element x : ν}
    (hrelates : ¬ combinator.Relates dom element x) :
    (∃ keep, b.matchesElement dom (handedOn compound) x = .ok keep ∧
      (keep = true ↔ Assigned b dom combinator compound element x)) ↔
    b.matchesElement dom (handedOn compound) x = .ok false := by
  simp [Assigned, hrelates]

theorem keepIf_eq (test : ν → Except JsError Bool) (x : ν) :
    keepIf (test x) x = [x].filterM test := by
  simp only [keepIf, List.filterM, List.filterAuxM]
  cases test x with
  | error e => rfl
  | ok keep => cases keep <;> rfl

/-- A compound selector that starts with no white space and does not speak of `:scope` is decided as
CSS does.  Then `+` and `>` do what CSS says on every tree. -/
theorem combinatorAgrees_of_plain {combinator : Combinator} {compound : String} {element : ν}
    (hhanded : handedOn compound = compound) (hvalid : b.isValidSelector compound = true)
    (hscope : ∀ x, b.matchesSelector dom compound (some x) x =
      b.matchesSelector dom compound (some element) x)
    (hbelow : ∀ x ∈ dom.descendants element,
      b.matchesSelector dom (":scope " ++ compound) (some element) x =
        b.matchesSelector dom compound (some element) x) :
    CombinatorAgrees b dom combinator compound element ↔
      match combinator with
      | .nextSibling | .child => True
      | .laterSibling => ∀ x, dom.isHTMLElement x = true → dom.IsLaterSibling x element →
          b.matchesSelector dom compound (some element) x = false
      | .descendant => ∀ x ∈ dom.descendants element, dom.isHTMLElement x = false →
          b.matchesSelector dom compound (some element) x = false := by
  have hasked : ∀ x, b.matchesElement dom (handedOn compound) x =
      .ok (b.matchesSelector dom compound (some element) x) := by
    intro x
    rw [Browser.matchesElement, hhanded, if_pos hvalid, hscope]
  cases combinator with
  | nextSibling => exact iff_true_intro fun x _ _ => hasked x
  | child => exact iff_true_intro fun x _ _ => hasked x
  | laterSibling => simp [CombinatorAgrees, MatchesAlike, hasked]
  | descendant =>
    simp only [CombinatorAgrees, hhanded, true_or, true_and]
    exact forall₂_congr fun x hx => by rw [hbelow x hx]

variable [DecidableEq ν]

/-- Where the operator asks candidates one by one, it does what CSS says exactly when it says of
each candidate whether CSS assigns it. -/
theorem implements_iff (candidates : List ν) {combinator : Combinator} {spaces : Nat}
    {compound : String} {element : ν} (hnodup : candidates.Nodup)
    (hoperator : operatorCssSelector b dom (combinator.relative spaces compound) element =
      candidates.filterM (b.matchesElement dom (handedOn compound)))
    (hsub : ∀ x, dom.isHTMLElement x = true → combinator.Relates dom element x → x ∈ candidates) :
    ImplementsCombinator b dom combinator spaces compound element ↔
      ∀ x ∈ candidates, ∃ keep, b.matchesElement dom (handedOn compound) x = .ok keep ∧
        (keep = true ↔ Assigned b dom combinator compound element x) := by
  rw [ImplementsCombinator, hoperator]
  exact filterM_iff hnodup fun x hx => hsub x hx.1 hx.2.1

theorem next_implements_iff (tree : dom.IsTree) {element : ν}
    (helement : dom.isElement element = true) (spaces : Nat) (compound : String) :
    ImplementsCombinator b dom .nextSibling spaces compound element ↔
      CombinatorAgrees b dom .nextSibling compound element := by
  have hnext : ∀ x, nextSiblingElement dom element = some x ↔
      dom.isHTMLElement x = true ∧ dom.IsNextSibling element x := by
    intro x
    rw [nextSiblingElement_eq tree helement, tree.isNextSibling_iff helement,
      Option.filter_eq_some_iff, and_comm]
  rw [implements_iff (nextSiblingElement dom element).toList]
  · constructor
    · intro h x hhtml hx
      exact (assigned_of_relates .nextSibling hhtml hx).mp
        (h x (Option.mem_toList.mpr ((hnext x).mpr ⟨hhtml, hx⟩)))
    · intro h x hx
      obtain ⟨hhtml, hx⟩ := (hnext x).mp (Option.mem_toList.mp hx)
      exact (assigned_of_relates .nextSibling hhtml hx).mpr (h x hhtml hx)
  · cases nextSiblingElement dom element <;> simp
  · rw [operator_next]
    cases nextSiblingElement dom element with
    | none => rfl
    | some sibling =>
      exact keepIf_eq (b.matchesElement dom (handedOn compound)) sibling
  · intro x hhtml hx
    exact Option.mem_toList.mpr ((hnext x).mpr ⟨hhtml, hx⟩)

theorem later_implements_iff (tree : dom.IsTree) {element : ν}
    (helement : dom.isElement element = true) (spaces : Nat) (compound : String) :
    ImplementsCombinator b dom .laterSibling spaces compound element ↔
      CombinatorAgrees b dom .laterSibling compound element := by
  have hbefore := fun x => tree.isLaterSibling_iff_before helement x
  have hafter := fun x => tree.isLaterSibling_iff helement x
  have hmem : ∀ x, x ∈ allOtherSiblings dom element ↔ dom.isHTMLElement x = true ∧
      (dom.IsLaterSibling x element ∨ dom.IsLaterSibling element x) := by
    intro x
    rw [allOtherSiblings_eq tree helement, List.mem_filter, List.mem_append, ← hbefore, ← hafter,
      and_comm]
  have hnodup := tree.siblings_nodup helement
  have hapart : ∀ x, dom.IsLaterSibling x element → ¬ dom.IsLaterSibling element x := by
    intro x hx hx'
    exact (List.disjoint_of_nodup_append hnodup) ((hbefore x).mp hx) ((hafter x).mp hx')
  rw [implements_iff (allOtherSiblings dom element)]
  · constructor
    · intro h
      refine ⟨fun x hhtml hx => ?_, fun x hhtml hx => ?_⟩
      · exact (assigned_of_relates .laterSibling hhtml hx).mp (h x ((hmem x).mpr ⟨hhtml, .inr hx⟩))
      · exact (assigned_of_not .laterSibling (hapart x hx)).mp (h x ((hmem x).mpr ⟨hhtml, .inl hx⟩))
    · rintro ⟨hlater, hearlier⟩ x hx
      obtain ⟨hhtml, hx | hx⟩ := (hmem x).mp hx
      · exact (assigned_of_not .laterSibling (hapart x hx)).mpr (hearlier x hhtml hx)
      · exact (assigned_of_relates .laterSibling hhtml hx).mpr (hlater x hhtml hx)
  · rw [allOtherSiblings_eq tree helement]
    exact hnodup.filter _
  · exact operator_later spaces compound element
  · intro x hhtml hx
    exact (hmem x).mpr ⟨hhtml, .inr hx⟩

theorem child_implements_iff (tree : dom.IsTree) (element : ν) (spaces : Nat)
    (compound : String) :
    ImplementsCombinator b dom .child spaces compound element ↔
      CombinatorAgrees b dom .child compound element := by
  have hmem : ∀ x, x ∈ allChildren dom element ↔
      dom.isHTMLElement x = true ∧ dom.isElement x = true ∧ dom.parentNode x = some element := by
    intro x
    rw [allChildren, List.mem_filter, tree.mem_children, and_comm]
  rw [implements_iff (allChildren dom element)]
  · constructor
    · intro h x hhtml hx
      have hrelates : Combinator.child.Relates dom element x :=
        ⟨tree.isElement_of_html x hhtml, hx⟩
      exact (assigned_of_relates .child hhtml hrelates).mp (h x ((hmem x).mpr ⟨hhtml, hrelates⟩))
    · intro h x hx
      obtain ⟨hhtml, hrelates⟩ := (hmem x).mp hx
      exact (assigned_of_relates .child hhtml hrelates).mpr (h x hhtml hrelates.2)
  · exact (tree.children_nodup element).filter _
  · exact operator_child spaces compound element
  · intro x hhtml hx
    exact (hmem x).mpr ⟨hhtml, hx⟩

theorem descendant_implements_iff (tree : dom.IsTree) (compounds : CompoundSelectors b)
    (element : ν) (spaces : Nat) {compound : String} (hcompound : compounds.isCompound compound) :
    ImplementsCombinator b dom .descendant spaces compound element ↔
      CombinatorAgrees b dom .descendant compound element := by
  have hmem : ∀ x, Assigned b dom .descendant compound element x ↔
      x ∈ dom.descendants element ∧ dom.isHTMLElement x = true ∧
        b.matchesSelector dom compound (some element) x = true := by
    intro x
    rw [tree.mem_descendants]
    exact and_left_comm
  rw [ImplementsCombinator,
    operator_descendant spaces element (compounds.starts compound hcompound),
    Browser.querySelectorAllBelow]
  simp only [hmem]
  constructor
  · intro h
    split at h
    · rename_i hvalid
      obtain ⟨found, hfound, -, hiff⟩ := h
      obtain rfl := Except.ok.inj hfound
      simp only [List.mem_filter, and_congr_right_iff] at hiff
      refine ⟨.inr ⟨hvalid, fun x hx hhtml => ?_⟩, fun x hx hnot => ?_⟩
      · rw [Bool.eq_iff_iff, hiff x hx, and_iff_right hhtml]
      · rw [Bool.eq_false_iff, ne_eq, hiff x hx, hnot]
        simp
    · obtain ⟨found, hfound, -⟩ := h
      cases hfound
  · rintro ⟨hhanded, hnot⟩
    obtain ⟨hvalid, halike⟩ : b.isValidSelector (":scope " ++ handedOn compound) = true ∧
        ∀ x ∈ dom.descendants element, dom.isHTMLElement x = true →
          b.matchesSelector dom (":scope " ++ handedOn compound) (some element) x =
            b.matchesSelector dom compound (some element) x := by
      rcases hhanded with hsame | hhanded
      · rw [hsame]
        exact ⟨compounds.below_valid compound hcompound,
          fun x hx _ => compounds.below dom compound element hcompound x hx⟩
      · exact hhanded
    rw [if_pos hvalid]
    refine ⟨_, rfl, (tree.descendants_nodup element).filter _, fun x => ?_⟩
    rw [List.mem_filter, and_congr_right_iff]
    intro hx
    cases hhtml : dom.isHTMLElement x with
    | true => simp [halike x hx hhtml]
    | false => simp [hnot x hx hhtml]

/-- The operator does what CSS says of its combinator exactly when every element that it asks
decides the selector as CSS does, no sibling before the element matches it where later ones are
meant, and no other element than HTML elements matches it where descendants are meant. -/
theorem implements_combinator_iff (tree : dom.IsTree) (compounds : CompoundSelectors b)
    (combinator : Combinator) (spaces : Nat) (compound : String) (element : ν)
    (hcompound : compounds.isCompound compound) (helement : dom.isElement element = true) :
    ImplementsCombinator b dom combinator spaces compound element ↔
      CombinatorAgrees b dom combinator compound element := by
  cases combinator with
  | nextSibling => exact next_implements_iff tree helement spaces compound
  | laterSibling => exact later_implements_iff tree helement spaces compound
  | child => exact child_implements_iff tree element spaces compound
  | descendant => exact descendant_implements_iff tree compounds element spaces hcompound

end Agreement

section Pages

/-- A document of a paragraph (3) between two divs (2 and 4), in which there is a picture's link
(5), an `a` that is no HTML element. -/
def siblingPage : Dom (Fin 6) where
  nodeType n := if n = 0 then 9 else 1
  localName
    | 1 => "html"
    | 3 => "p"
    | 5 => "a"
    | _ => "div"
  isHTMLElement n := n ≠ 0 && n ≠ 5
  attributes _ := []
  parentNode
    | 0 => none
    | 1 => some 0
    | 5 => some 3
    | _ => some 1
  children
    | 0 => [1]
    | 1 => [2, 3, 4]
    | 3 => [5]
    | _ => []
  descendants
    | 0 => [1, 2, 3, 5, 4]
    | 1 => [2, 3, 5, 4]
    | 3 => [5]
    | _ => []
  all := [1, 2, 3, 5, 4]
  depth
    | 0 => 0
    | 1 => 1
    | 5 => 3
    | _ => 2
  depth_parent := by decide

theorem siblingPage_tree : siblingPage.IsTree := by
  refine ⟨?_, ?_, ?_, ?_, ?_⟩ <;> decide

/-- A browser that knows the type selectors `div` and `a`, alone and below `:scope`. -/
def typeBrowser : Browser (Fin 6) where
  isValidSelector selector := ["div", "a", ":scope div", ":scope a"].contains selector
  matchesSelector dom selector scope x :=
    match selector with
    | ":scope div" => scope.any (x ∈ dom.descendants ·) && dom.localName x == "div"
    | ":scope a" => scope.any (x ∈ dom.descendants ·) && dom.localName x == "a"
    | selector => dom.localName x == selector
  innerText _ _ := .undefined
  entries _ _ := []
  styleValue _ _ _ _ := none
  matchMedia _ := false
  pathname := ""
  search := ""
  evaluate _ _ _ := .ok []
  regExp _ _ := .ok fun _ => false

def typeSelectors : CompoundSelectors typeBrowser where
  isCompound selector := selector = "div" ∨ selector = "a"
  valid := by rintro _ (rfl | rfl) <;> rfl
  starts := by rintro _ (rfl | rfl) c hc <;> cases hc <;> decide
  below_valid := by rintro _ (rfl | rfl) <;> rfl
  below := by rintro dom _ element (rfl | rfl) x hx <;> simp [typeBrowser, hx]

theorem next_div_implemented :
    ImplementsCombinator typeBrowser siblingPage .nextSibling 1 "div" 3 := by
  refine (implements_combinator_iff siblingPage_tree typeSelectors .nextSibling 1 "div" 3
    (.inl rfl) (by decide)).mpr fun x _ _ => ?_
  rfl

/-- `~ div` returns the div in front too, and ` a` the picture's link. -/
theorem combinators_differ :
    operatorCssSelector typeBrowser siblingPage "~ div" 3 = .ok [2, 4] ∧
      ¬ ImplementsCombinator typeBrowser siblingPage .laterSibling 1 "div" 3 ∧
      operatorCssSelector typeBrowser siblingPage " a" 3 = .ok [5] ∧
      ¬ ImplementsCombinator typeBrowser siblingPage .descendant 0 "a" 3 := by
  have hsiblings : operatorCssSelector typeBrowser siblingPage "~ div" 3 = .ok [2, 4] := rfl
  have hbelow : operatorCssSelector typeBrowser siblingPage " a" 3 = .ok [5] := rfl
  refine ⟨hsiblings, ?_, hbelow, ?_⟩
  · rintro ⟨found, hfound, -, hiff⟩
    rw [show Combinator.laterSibling.relative 1 "div" = "~ div" by decide, hsiblings] at hfound
    obtain rfl := Except.ok.inj hfound
    have hlater := (siblingPage_tree.isLaterSibling_iff rfl 2).mp ((hiff 2).mp (by decide)).2.1
    exact absurd hlater (by decide)
  · rintro ⟨found, hfound, -, hiff⟩
    rw [show Combinator.descendant.relative 0 "a" = " a" by decide, hbelow] at hfound
    obtain rfl := Except.ok.inj hfound
    exact absurd ((hiff 5).mp (by decide)).1 (by decide)

end Pages

end ChromiumAdblock
