import Mathlib.Data.List.TakeWhile
import ChromiumAdblock.Cosmetic.PickedParts
import ChromiumAdblock.Lib.Pipeline

/-! What the element picker proposes for an element: the parts of the elements from it up to the one
at which the loop over the builders ends, joined by `>`.  The proposal matches the element exactly
when no image on the way throws, and each of these parts is there and true of its element. -/

namespace ChromiumAdblock

section UpTo

variable {α β : Type}

/-- A list up to the first element with a property, that element included. -/
def upTo (p : α → Bool) : List α → List α
  | [] => []
  | x :: xs => if p x then [x] else x :: upTo p xs

variable {p : α → Bool}

theorem take_findIdx (xs : List α) : xs.take (xs.findIdx p + 1) = upTo p xs := by
  induction xs with
  | nil => rfl
  | cons x xs ih =>
    rw [List.findIdx_cons, upTo]
    cases hp : p x with
    | true => simp
    | false => simpa using ih

theorem upTo_map {q : β → Bool} {f : α → β} {xs : List α} (h : ∀ x ∈ xs, q (f x) = p x) :
    upTo q (xs.map f) = (upTo p xs).map f := by
  induction xs with
  | nil => rfl
  | cons x xs ih =>
    obtain ⟨hx, hxs⟩ := List.forall_mem_cons.mp h
    rw [List.map_cons, upTo, upTo, hx, ih hxs]
    cases p x <;> rfl

theorem upTo_append (xs : List α) : ∃ rest, xs = upTo p xs ++ rest := by
  rw [← take_findIdx]
  exact ⟨_, (List.take_append_drop _ xs).symm⟩

end UpTo

namespace DocumentTree

theorem ne_body {ν : Type} {doc : DocumentTree ν} {elem body : ν} (hbody : doc.body = some body)
    (hbelow : body ∈ doc.above elem) : some elem ≠ doc.body := by
  rw [hbody]
  intro hsame
  have hlt := Dom.depth_lt_of_mem_above doc.toDom hbelow
  rw [Option.some.inj hsame] at hlt
  omega

section Reached

variable {ν : Type} [DecidableEq ν] (doc : DocumentTree ν)

/-- Whether the loop over the builders ends at an element. -/
def stops (mask : Nat) (elem : ν) : Bool :=
  hasFlag mask SpecificityFlags.id && hasUsableId doc elem ||
    (found doc doc.all (part doc mask elem)).length = 1

/-- The elements whose parts are proposed, from the selected one upwards. -/
def reached (mask : Nat) (elem : ν) : List ν :=
  upTo (stops doc mask) (consideredElements doc mask elem)

variable {doc} {mask : Nat} {elem : ν}

theorem stopsAt_builderOf (h : doc.isElement elem = true) :
    stopsAt doc mask (builderOf doc elem) = stops doc mask elem := by
  have hselect := ElementSelectorBuilder.selectFrom_text
    (faithful_builderOf h) mask doc.all
  have hid : (builderOf doc elem).hasId = hasUsableId doc elem := rfl
  rw [stopsAt, hid, stops, querySelectorAll, hselect, part]
  cases hempty : ((builderOf doc elem).compound doc mask).isEmpty with
  | true => simp [found, hempty]
  | false => rfl

theorem elementsUp_eq (elem : ν) :
    elementsUp doc elem =
      if doc.isElement elem && some elem ≠ doc.body then
        elem :: match doc.parentNode elem with
          | none => []
          | some parent => elementsUp doc parent
      else [] := by
  rw [elementsUp, doc.inclusiveAncestors_eq, List.takeWhile_cons]
  split
  · cases doc.parentNode elem <;> rfl
  · rfl

theorem isElement_of_elementsUp {x : ν} (h : x ∈ elementsUp doc elem) :
    doc.isElement x = true := by
  have hx := List.mem_takeWhile_imp h
  exact (Bool.and_eq_true _ _ ▸ hx).1

theorem isElement_of_considered (h : doc.isElement elem = true) {x : ν}
    (hx : x ∈ consideredElements doc mask elem) : doc.isElement x = true := by
  unfold consideredElements at hx
  split at hx
  · exact isElement_of_elementsUp hx
  · obtain rfl := List.mem_singleton.mp hx
    exact h

/-- The elements from an element upwards are each other's parents. -/
theorem isPath_elementsUp (elem : ν) : doc.css.IsPath (elementsUp doc elem) := by
  -- The induction is on the depth, which falls from an element to its parent.
  induction hdepth : doc.depth elem using Nat.strongRecOn generalizing elem with
  | ind n ih =>
    rw [elementsUp_eq]
    split
    · cases hparent : doc.parentNode elem with
      | none => trivial
      | some parent =>
        have hlt := doc.depth_parent hparent
        have hrest := ih (doc.depth parent) (by omega) parent rfl
        show doc.css.IsPath (elem :: elementsUp doc parent)
        rw [elementsUp_eq] at hrest ⊢
        split at hrest
        · rename_i hup
          rw [if_pos hup]
          have helement := (Bool.and_eq_true _ _ ▸ hup).1
          refine ⟨?_, hrest⟩
          show (doc.parentNode elem).filter doc.isElement = some parent
          rw [hparent, Option.filter_some, if_pos helement]
        · rename_i hup
          rw [if_neg hup]
          trivial
    · trivial

theorem isPath_considered (elem : ν) : doc.css.IsPath (consideredElements doc mask elem) := by
  unfold consideredElements
  split
  · exact isPath_elementsUp elem
  · trivial

theorem isPath_of_append {xs ys : List ν} (h : doc.css.IsPath (xs ++ ys)) : doc.css.IsPath xs := by
  induction xs with
  | nil => trivial
  | cons x xs ih =>
    cases xs with
    | nil => trivial
    | cons y xs => exact ⟨h.1, ih h.2⟩

theorem isPath_reached (elem : ν) : doc.css.IsPath (reached doc mask elem) := by
  obtain ⟨rest, happend⟩ := upTo_append (p := stops doc mask) (consideredElements doc mask elem)
  have hpath : doc.css.IsPath (consideredElements doc mask elem) := isPath_considered elem
  rw [happend] at hpath
  exact isPath_of_append hpath

theorem mem_considered_of_reached {x : ν} (h : x ∈ reached doc mask elem) :
    x ∈ consideredElements doc mask elem := by
  obtain ⟨rest, happend⟩ := upTo_append (p := stops doc mask) (consideredElements doc mask elem)
  rw [happend]
  exact List.mem_append_left _ h

theorem isElement_of_reached (h : doc.isElement elem = true) {x : ν}
    (hx : x ∈ reached doc mask elem) : doc.isElement x = true :=
  isElement_of_considered h (mem_considered_of_reached hx)

/-- What is picked comes first. -/
theorem reached_cons (mask : Nat) (helement : doc.isElement elem = true)
    (hbody : some elem ≠ doc.body) :
    ∃ path, reached doc mask elem = elem :: path := by
  have hconsidered : ∃ path, consideredElements doc mask elem = elem :: path := by
    unfold consideredElements
    split
    · rw [elementsUp_eq, if_pos (by simp [helement, hbody])]
      exact ⟨_, rfl⟩
    · exact ⟨[], rfl⟩
  obtain ⟨path, hpath⟩ := hconsidered
  rw [reached, hpath, upTo]
  split
  · exact ⟨[], rfl⟩
  · exact ⟨_, rfl⟩

/-- The proposal for an element, unless an image throws. -/
theorem onTargetSelected_ok (helement : doc.isElement elem = true) (hovered : ν) (index : Fin 5)
    (h : ∀ x ∈ consideredElements doc (maskAt index) elem, ¬ ThrowingImage doc x) :
    onTargetSelected doc (some hovered) elem index =
      .ok (String.ofList (Css.joinChild
        (((reached doc (maskAt index) elem).map (part doc (maskAt index))).reverse.map
          Css.Compound.print))) := by
  have hbuilders : (consideredElements doc (maskAt index) elem).mapM (cssSelectorFromElement doc) =
      .ok ((consideredElements doc (maskAt index) elem).map (builderOf doc)) :=
    Pipeline.mapM_ok fun x hx =>
      cssSelectorFromElement_ok (isElement_of_considered helement hx) (h x hx)
  have htexts : ∀ x ∈ reached doc (maskAt index) elem,
      ((builderOf doc x).text doc (maskAt index)).toList = (part doc (maskAt index) x).print :=
    fun x hx => ElementSelectorBuilder.toList_text (faithful_builderOf
      (isElement_of_reached helement hx)) _
  have hupTo : upTo (stopsAt doc (maskAt index))
      ((consideredElements doc (maskAt index) elem).map (builderOf doc)) =
      (reached doc (maskAt index) elem).map (builderOf doc) :=
    upTo_map fun x hx => stopsAt_builderOf (isElement_of_considered helement hx)
  have hchain : (chainText doc (maskAt index)
      ((consideredElements doc (maskAt index) elem).map (builderOf doc))).toList =
      Css.joinChild (((reached doc (maskAt index) elem).map
        (part doc (maskAt index))).reverse.map Css.Compound.print) := by
    rw [chainText, take_findIdx, hupTo, toList_joinTexts_child, List.map_reverse,
      List.map_reverse, List.map_reverse, List.map_map, List.map_map, List.map_map]
    exact congrArg _ (congrArg _ (List.map_congr_left htexts))
  rw [← hchain, String.ofList_toList]
  show ((consideredElements doc (maskAt index) elem).mapM (cssSelectorFromElement doc) >>= _) = _
  rw [hbuilders]
  rfl

/-- The chain that is proposed. -/
def proposed (doc : DocumentTree ν) (mask : Nat) (elem : ν) : List Css.Compound :=
  ((reached doc mask elem).map (part doc mask)).reverse

theorem proposed_wellFormed (helement : doc.isElement elem = true) {c : Css.Compound}
    (hc : c ∈ proposed doc mask elem) : c.WellFormed := by
  obtain ⟨x, hx, rfl⟩ := List.mem_map.mp (List.mem_reverse.mp hc)
  exact ElementSelectorBuilder.wellFormed
    (faithful_builderOf (isElement_of_reached helement hx)) mask

theorem proposed_ne_nil (helement : doc.isElement elem = true) (hbody : some elem ≠ doc.body) :
    proposed doc mask elem ≠ [] := by
  obtain ⟨path, hpath⟩ := reached_cons mask helement hbody
  simp [proposed, hpath]

/-- The text of the proposal is a selector exactly when each of its parts is there. -/
theorem parse_proposed (mask : Nat) (helement : doc.isElement elem = true)
    (hbody : some elem ≠ doc.body) :
    Css.parse (String.ofList (Css.joinChild ((proposed doc mask elem).map Css.Compound.print))) =
      if ∀ x ∈ reached doc mask elem, isLeft doc mask x = true then
        some ((proposed doc mask elem).map Css.Compound.read)
      else none := by
  have hempty : (proposed doc mask elem).any Css.Compound.isEmpty = true ↔
      ¬ ∀ x ∈ reached doc mask elem, isLeft doc mask x = true := by
    simp only [proposed, List.any_reverse, List.any_map, List.any_eq_true, not_forall,
      Function.comp_apply]
    refine exists_congr fun x => ⟨?_, ?_⟩
    · rintro ⟨hx, hxempty⟩
      rw [isEmpty_part (isElement_of_reached helement hx)] at hxempty
      exact ⟨hx, by simpa using hxempty⟩
    · rintro ⟨hx, hxempty⟩
      refine ⟨hx, ?_⟩
      rw [isEmpty_part (isElement_of_reached helement hx)]
      simpa using hxempty
  rw [Css.parse_chain (proposed_ne_nil helement hbody) fun c hc => proposed_wellFormed helement hc]
  by_cases hleft : ∀ x ∈ reached doc mask elem, isLeft doc mask x = true
  · rw [if_pos hleft, if_neg fun h => hempty.mp h hleft]
  · rw [if_neg hleft, if_pos (hempty.mpr hleft)]

/-- The proposal matches the element exactly when each of its parts is true of its own element. -/
theorem matches_proposed (mask : Nat) (helement : doc.isElement elem = true)
    (hbody : some elem ≠ doc.body) :
    doc.css.matches ((proposed doc mask elem).map Css.Compound.read) elem = true ↔
      ∀ x ∈ reached doc mask elem, Describes doc mask x := by
  have hreverse : ((proposed doc mask elem).map Css.Compound.read).reverse =
      (reached doc mask elem).map fun x => (part doc mask x).read := by
    rw [proposed, List.map_reverse, List.reverse_reverse, List.map_map]
    rfl
  have hpath : doc.css.IsPath (reached doc mask elem) := isPath_reached elem
  have hmembers : ∀ x ∈ reached doc mask elem,
      (doc.css.matchesCompound (part doc mask x).read x = true ↔ Describes doc mask x) :=
    fun x hx => matches_part (isElement_of_reached helement hx)
  rw [Css.Document.matches, hreverse]
  obtain ⟨path, hreached⟩ := reached_cons mask helement hbody
  rw [hreached] at hpath hmembers ⊢
  have hzip : ∀ xs : List ν, (xs.map fun x => (part doc mask x).read).zip xs =
      xs.map fun x => ((part doc mask x).read, x) := fun xs => by
    have h := List.zip_map' (f := fun x => (part doc mask x).read) (g := fun x => x) (l := xs)
    rwa [List.map_id'] at h
  rw [Css.Document.matchesUp_path hpath (List.length_map _), hzip, List.forall_mem_map]
  exact forall₂_congr hmembers

end Reached

section Picked

variable {ν : Type} [DecidableEq ν] (doc : DocumentTree ν) (elem : ν) (index : Fin 5)

/-- A selector that matches the element is proposed for it. -/
def IsPicked : Prop :=
  ∃ selector chain, onTargetSelected doc (some elem) elem index = .ok selector ∧ selector ≠ "" ∧
    Css.parse selector = some chain ∧ doc.css.matches chain elem = true

/-- No image throws, and what is left of each builder up to the one at which the loop ends is
something, and true of its element. -/
structure Pickable : Prop where
  returns : ∀ x ∈ consideredElements doc (maskAt index) elem, ¬ ThrowingImage doc x
  left : ∀ x ∈ reached doc (maskAt index) elem, isLeft doc (maskAt index) x = true
  describes : ∀ x ∈ reached doc (maskAt index) elem, Describes doc (maskAt index) x

variable {doc elem index}

theorem considered_of_ok {hovered : ν} {selector : String} (helement : doc.isElement elem = true)
    (h : onTargetSelected doc (some hovered) elem index = .ok selector) :
    ∀ x ∈ consideredElements doc (maskAt index) elem, ¬ ThrowingImage doc x := by
  intro x hx hthrowing
  cases hbuilders : (consideredElements doc (maskAt index) elem).mapM
      (cssSelectorFromElement doc) with
  | error e =>
    have hselected : onTargetSelected doc (some hovered) elem index = .error e := by
      show ((consideredElements doc (maskAt index) elem).mapM _ >>= _) = _
      rw [hbuilders]
      rfl
    rw [hselected] at h
    cases h
  | ok builders =>
    obtain ⟨builder, hbuilder⟩ := Pipeline.returns_of_mapM hbuilders x hx
    rw [cssSelectorFromElement_error (isElement_of_considered helement hx) hthrowing] at hbuilder
    cases hbuilder

/-- An HTML element below the body is picked exactly when it is pickable. -/
theorem isPicked_iff {body : ν} (hhtml : doc.isHTMLElement elem = true)
    (hbody : doc.body = some body) (hbelow : body ∈ doc.above elem) :
    IsPicked doc elem index ↔ Pickable doc elem index := by
  have helement := doc.tree.isElement_of_html elem hhtml
  have hne := ne_body hbody hbelow
  have hparse := parse_proposed (maskAt index) helement hne
  have hmatches := matches_proposed (maskAt index) helement hne
  constructor
  · rintro ⟨selector, chain, hok, -, hchain, hmatch⟩
    have hreturns := considered_of_ok helement hok
    rw [onTargetSelected_ok helement elem index hreturns] at hok
    obtain rfl := Except.ok.inj hok
    rw [proposed] at hparse
    rw [hparse] at hchain
    split at hchain
    · rename_i hleft
      obtain rfl := Option.some.inj hchain
      exact ⟨hreturns, hleft, hmatches.mp hmatch⟩
    · cases hchain
  · rintro ⟨hreturns, hleft, hdescribes⟩
    rw [if_pos hleft] at hparse
    refine ⟨_, _, onTargetSelected_ok helement elem index hreturns, ?_, hparse,
      hmatches.mpr hdescribes⟩
    intro hempty
    have hnone : Css.parse "" = none := by decide
    rw [proposed, hempty, hnone] at hparse
    cases hparse

/-- What is picked is a valid target. -/
theorem target_of_isPicked (hhtml : doc.isHTMLElement elem = true) (h : IsPicked doc elem index) :
    ∃ selector, elementPickerUserSelectedTarget doc (some elem) index = .ok ⟨true, selector⟩ := by
  obtain ⟨selector, -, hok, hne, -⟩ := h
  refine ⟨String.ofList (JsText.trim selector.toList), ?_⟩
  rw [elementPickerUserSelectedTarget, Option.filter_some, if_pos hhtml]
  show (onTargetSelected doc (some elem) elem index >>= _) = _
  rw [hok]
  show Except.ok (PickedTarget.mk (decide (selector ≠ "")) _) = _
  rw [decide_eq_true hne]

end Picked

section Pages

/-- A body (2) of a `div` with a class (3), a picture (4) whose source is no proper data URL, and
two `o:p` (5 and 6), the first with two spans (7 and 8), the second with one (9). -/
def pickerDom : Dom (Fin 10) where
  nodeType n := if n = 0 then 9 else 1
  localName
    | 1 => "html"
    | 2 => "body"
    | 3 => "div"
    | 4 => "img"
    | 5 | 6 => "o:p"
    | _ => "span"
  isHTMLElement n := n ≠ 0
  attributes
    | 3 => [("class", "x")]
    | 4 => [("src", "data:image/gif")]
    | _ => []
  parentNode
    | 0 => none
    | 1 => some 0
    | 2 => some 1
    | 7 | 8 => some 5
    | 9 => some 6
    | _ => some 2
  children
    | 0 => [1]
    | 1 => [2]
    | 2 => [3, 4, 5, 6]
    | 5 => [7, 8]
    | 6 => [9]
    | _ => []
  descendants
    | 0 => [1, 2, 3, 4, 5, 7, 8, 6, 9]
    | 1 => [2, 3, 4, 5, 7, 8, 6, 9]
    | 2 => [3, 4, 5, 7, 8, 6, 9]
    | 5 => [7, 8]
    | 6 => [9]
    | _ => []
  all := [1, 2, 3, 4, 5, 7, 8, 6, 9]
  depth
    | 0 => 0
    | 1 => 1
    | 2 => 2
    | 7 | 8 | 9 => 4
    | _ => 3
  depth_parent := by decide

def pickerPage : DocumentTree (Fin 10) where
  toDom := pickerDom
  tree := by refine ⟨?_, ?_, ?_, ?_, ?_⟩ <;> decide
  isHTMLDocument := true
  isQuirky := false
  namespaceURI _ := htmlNamespace
  isHTMLElement_iff := by decide
  document := 0
  isElement_document := rfl
  mem_all := by decide
  all_nodup := by decide
  body := some 2
  localName_ne := by decide
  localName_chars x _ c hc := by
    have hall : ∀ x, (pickerDom.localName x).toList.all (fun c => c.toNat ≠ 0) = true := by decide
    simpa using List.all_eq_true.mp (hall x) c hc

theorem considered_div : consideredElements pickerPage (maskAt 4) 3 = [3] := by decide +kernel

theorem reached_div : reached pickerPage (maskAt 4) 3 = [3] := by decide +kernel

/-- The `div` is picked at the most specific position. -/
theorem div_picked : IsPicked pickerPage 3 4 := by
  have htried : attributesTried pickerPage 3 = [] := by decide +kernel
  have hbody : pickerPage.body = some 2 := rfl
  refine (isPicked_iff rfl hbody (by decide)).mpr ⟨?_, ?_, ?_⟩
  · rw [considered_div]
    rintro x hx ⟨-, -, himg, -⟩
    obtain rfl := List.mem_singleton.mp hx
    exact absurd himg (by decide)
  · rw [reached_div]
    decide +kernel
  · rw [reached_div]
    intro x hx
    obtain rfl := List.mem_singleton.mp hx
    refine ⟨fun h => absurd h (by decide +kernel), fun h => absurd h (by decide +kernel),
      fun _ _ => by decide +kernel, fun _ rule hrule => ?_,
      fun h => absurd h (by decide +kernel)⟩
    rw [htried] at hrule
    cases hrule

/-- Without its class nothing is left of the `div`, the picture throws, and for the second `o:p` the
selector of the first is proposed. -/
theorem picks_fail :
    onTargetSelected pickerPage (some 3) 3 3 = .ok "" ∧ ¬ IsPicked pickerPage 3 3 ∧
      onTargetSelected pickerPage (some 4) 4 0 = .error (.readingUndefined "slice") ∧
      ¬ IsPicked pickerPage 4 0 ∧
      onTargetSelected pickerPage (some 6) 6 4 = .ok "o\\:p:nth-of-type(1)" ∧
      ¬ IsPicked pickerPage 6 4 := by
  have hnothing : onTargetSelected pickerPage (some 3) 3 3 = .ok "" := by decide +kernel
  have hthrows : onTargetSelected pickerPage (some 4) 4 0 = .error (.readingUndefined "slice") := by
    decide +kernel
  have hfirst : onTargetSelected pickerPage (some 6) 6 4 = .ok "o\\:p:nth-of-type(1)" := by
    decide +kernel
  have hparse : Css.parse "o\\:p:nth-of-type(1)" = some [⟨some "o:p", [.nthOfType 1]⟩] := by
    decide +kernel
  refine ⟨hnothing, ?_, hthrows, ?_, hfirst, ?_⟩
  · rintro ⟨selector, chain, hok, hne, -⟩
    rw [hnothing] at hok
    exact hne (Except.ok.inj hok).symm
  · rintro ⟨selector, chain, hok, -⟩
    rw [hthrows] at hok
    cases hok
  · rintro ⟨selector, chain, hok, -, hchain, hmatches⟩
    rw [hfirst] at hok
    obtain rfl := Except.ok.inj hok
    rw [hparse] at hchain
    obtain rfl := Option.some.inj hchain
    exact absurd hmatches (by decide +kernel)

end Pages

end DocumentTree

end ChromiumAdblock
