import ChromiumAdblock.Cosmetic.PickedSelector

/-! How many elements the element picker hides at its most specific position.  Below its parent each
element that gets a builder is singled out: by its rules, by its tag, or by its index.  So a chain
that ends at an element of its own finds one element at most, as long as its parts above the picked
element are true of their elements. -/

namespace ChromiumAdblock

section Lists

variable {α : Type}

/-- The first element of a list with a property is the last that is kept. -/
theorem last_upTo {p : α → Bool} {xs : List α} (h : ∃ x ∈ xs, p x = true) :
    ∀ x ∈ (upTo p xs).getLast?, p x = true := by
  induction xs with
  | nil => simp at h
  | cons x xs ih =>
    cases hp : p x with
    | true => simp [upTo, hp]
    | false =>
      obtain ⟨y, hy, hpy⟩ := h
      have hrest : ∃ y ∈ xs, p y = true := by
        rcases List.mem_cons.mp hy with rfl | hy
        · rw [hp] at hpy
          cases hpy
        · exact ⟨y, hy, hpy⟩
      intro z hz
      rw [upTo, if_neg (by simp [hp]), List.getLast?_cons] at hz
      refine ih hrest z ?_
      cases hlast : (upTo p xs).getLast? with
      | none =>
        cases xs with
        | nil => simp at hrest
        | cons w xs =>
          rw [List.getLast?_eq_none_iff, upTo] at hlast
          split at hlast <;> cases hlast
      | some last => simpa [hlast] using hz

theorem length_le_one {xs : List α} (hnodup : xs.Nodup) (h : ∀ x ∈ xs, ∀ y ∈ xs, x = y) :
    xs.length ≤ 1 := by
  match xs, hnodup with
  | [], _ => simp
  | [_], _ => simp
  | x :: y :: rest, hnodup =>
    obtain rfl : x = y := h x (by simp) y (by simp)
    simp at hnodup

theorem eq_of_length {xs : List α} (h : xs.length ≤ 1) {x y : α} (hx : x ∈ xs) (hy : y ∈ xs) :
    x = y := by
  match xs with
  | [] => cases hx
  | [z] => rw [List.mem_singleton.mp hx, List.mem_singleton.mp hy]
  | _ :: _ :: _ => simp at h

end Lists

namespace DocumentTree

section Indices

variable {ν : Type} [DecidableEq ν] {doc : DocumentTree ν} {x y parent : ν}

omit [DecidableEq ν] in
theorem parentNode_of_parentElement (h : doc.parentElement x = some parent) :
    doc.parentNode x = some parent ∧ doc.isElement parent = true := by
  obtain ⟨hparent, helement⟩ := Option.filter_eq_some_iff.mp h
  exact ⟨hparent, helement⟩

theorem sameType_iff : doc.css.sameType x y = true ↔
    doc.localName x = doc.localName y ∧ doc.namespaceURI x = doc.namespaceURI y := by
  simp [Css.Document.sameType, css]

/-- Among siblings of one type, a later one has a higher index. -/
theorem typeIndex_lt (hy : doc.isElement y = true) (htype : doc.css.sameType x y = true)
    (hlater : doc.IsLaterSibling x y) : doc.css.typeIndex x < doc.css.typeIndex y := by
  obtain ⟨parent, before, after, hparent, hsplit, hmem⟩ := hlater
  have hxmem : x ∈ doc.children parent := by simp [hsplit]
  have hymem : y ∈ doc.children parent := by simp [hsplit, hmem]
  have hx := (doc.tree.mem_children _ _).mp hxmem
  have hyparent := ((doc.tree.mem_children _ _).mp hymem).2
  obtain ⟨between, after, rfl⟩ := List.append_of_mem hmem
  have hbefore := (doc.tree.split_unique hparent hx.1 hsplit).1
  have hsplit' : doc.children parent = (before ++ x :: between) ++ y :: after := by
    rw [hsplit, List.append_assoc, List.cons_append]
  have hbefore' := (doc.tree.split_unique hyparent hy hsplit').1
  obtain ⟨hname, hspace⟩ := sameType_iff.mp htype
  have hsame : doc.css.sameType y = doc.css.sameType x := by
    funext z
    simp [Css.Document.sameType, css, hname, hspace]
  have hself : doc.css.sameType x x = true := sameType_iff.mpr ⟨rfl, rfl⟩
  have hcountx : doc.css.typeIndex x = (before.filter (doc.css.sameType x)).length + 1 := by
    rw [Css.Document.typeIndex, hbefore]
    rfl
  have hcounty : doc.css.typeIndex y =
      ((before ++ x :: between).filter (doc.css.sameType x)).length + 1 := by
    rw [Css.Document.typeIndex, hsame, hbefore']
    rfl
  -- What is in front of `x` is in front of `y` too, and so is `x`.
  rw [hcountx, hcounty, List.filter_append, List.filter_cons_of_pos hself, List.length_append,
    List.length_cons]
  omega

/-- Siblings of one type with one index are one. -/
theorem eq_of_typeIndex (hx : doc.isElement x = true) (hy : doc.isElement y = true)
    (hxparent : doc.parentElement x = some parent) (hyparent : doc.parentElement y = some parent)
    (htype : doc.css.sameType x y = true) (hindex : doc.css.typeIndex x = doc.css.typeIndex y) :
    x = y := by
  have htype' : doc.css.sameType y x = true := by
    obtain ⟨hname, hspace⟩ := sameType_iff.mp htype
    exact sameType_iff.mpr ⟨hname.symm, hspace.symm⟩
  rcases doc.tree.siblings_cases hx hy (parentNode_of_parentElement hxparent).1
    (parentNode_of_parentElement hyparent).1 with hsame | hlater | hlater
  · exact hsame
  · have hlt := typeIndex_lt hy htype hlater
    omega
  · have hlt := typeIndex_lt hx htype' hlater
    omega

end Indices

section SinglesOut

variable {ν : Type} [DecidableEq ν] (doc : DocumentTree ν)

/-- A sibling of an element, or the element, that its part finds. -/
def PartFinds (elem x : ν) : Prop :=
  doc.parentElement x = doc.parentElement elem ∧
    doc.css.matchesCompound (part doc mostSpecificMask elem).read x = true

/-- A part with an index finds siblings of one local name only. -/
def IndexFindsOneName (elem : ν) : Prop :=
  needsIndex doc elem = true → ∀ x ∈ doc.all, ∀ y ∈ doc.all, PartFinds doc elem x →
    PartFinds doc elem y → doc.localName x = doc.localName y

variable {doc} {elem parent : ν}

theorem mem_found {elements : List ν} {c : Css.Compound} {x : ν} :
    x ∈ found doc elements c ↔
      x ∈ elements ∧ c.isEmpty = false ∧ doc.css.matchesCompound c.read x = true := by
  unfold found
  cases c.isEmpty <;> simp

omit [DecidableEq ν] in
theorem mem_all_of_parentElement {x y : ν} (h : doc.parentElement x = some y) (hx : x ∈ doc.all) :
    y ∈ doc.all := by
  obtain ⟨hparent, helement⟩ := parentNode_of_parentElement h
  have habove := ((doc.mem_all x).mp hx).2
  rw [Dom.above_of_parent _ hparent] at habove
  rcases List.mem_cons.mp habove with rfl | habove
  · rw [doc.isElement_document] at helement
    cases helement
  · exact (doc.mem_all y).mpr ⟨helement, habove⟩

omit [DecidableEq ν] in
theorem mem_belowParent {x : ν} (hx : x ∈ doc.all) (hxparent : doc.parentElement x = some parent)
    (helem : doc.parentElement elem = some parent) : x ∈ belowParent doc elem := by
  obtain ⟨hparent, -⟩ := parentNode_of_parentElement hxparent
  rw [belowParent, helem]
  show x ∈ doc.descendants parent
  rw [doc.tree.mem_descendants, Dom.above_of_parent _ hparent]
  exact ⟨((doc.mem_all x).mp hx).1, List.mem_cons_self⟩

theorem builderOf_eq_named (h : needsTag doc elem = false) :
    builderOf doc elem = named doc elem := by
  simp [builderOf, needsIndex, h, named, identified]

theorem builderOf_eq_tagged (h : needsTag doc elem = true) (hindex : needsIndex doc elem = false) :
    builderOf doc elem = tagged doc elem := by
  simp [builderOf, hindex, h, tagged, named, identified, ElementSelectorBuilder.addTag]

/-- Where its index is not needed, an element is singled out by the count below its parent. -/
theorem countFound_le (h : needsIndex doc elem = false) :
    (found doc (belowParent doc elem) (part doc mostSpecificMask elem)).length ≤ 1 := by
  cases htag : needsTag doc elem with
  | false =>
    have hcount : ¬ 1 < countFound doc (named doc elem) := by
      intro hmore
      rw [needsTag, decide_eq_true hmore, Bool.or_true] at htag
      cases htag
    rw [part, builderOf_eq_named htag]
    exact Nat.le_of_not_lt hcount
  | true =>
    have hcount : ¬ 1 < countFound doc (tagged doc elem) := by
      intro hmore
      rw [needsIndex, htag, decide_eq_true hmore] at h
      cases h
    rw [part, builderOf_eq_tagged htag h]
    exact Nat.le_of_not_lt hcount

/-- What matches the part of an element with an index has that index. -/
theorem typeIndex_of_part (h : needsIndex doc elem = true) {x : ν}
    (hmatches : doc.css.matchesCompound (part doc mostSpecificMask elem).read x = true) :
    doc.css.typeIndex x = siblingIndex doc elem (cssEscape (doc.localName elem)) := by
  have hkept : .nthOfType (siblingIndex doc elem (cssEscape (doc.localName elem))) ∈
      (part doc mostSpecificMask elem).simples := by
    rw [part_simples, keptIndex, h]
    exact List.mem_append_right _ List.mem_cons_self
  exact beq_iff_eq.mp (Css.Document.matchesSimple_of_compound hmatches hkept)

/-- Where the loop ends, no two elements of the document match the part. -/
theorem eq_of_stops (helem : elem ∈ doc.all) (hstops : stops doc mostSpecificMask elem = true)
    {x y : ν} (hx : x ∈ doc.all) (hy : y ∈ doc.all)
    (hmx : doc.css.matchesCompound (part doc mostSpecificMask elem).read x = true)
    (hmy : doc.css.matchesCompound (part doc mostSpecificMask elem).read y = true) : x = y := by
  rcases (Bool.or_eq_true _ _).mp hstops with husable | hone
  · have husable : hasUsableId doc elem = true := ((Bool.and_eq_true _ _).mp husable).2
    have hkept : .id (doc.id elem) ∈ (part doc mostSpecificMask elem).simples := by
      have hid : keptId doc mostSpecificMask elem = [.id (doc.id elem)] := by
        rw [keptId, husable]
        rfl
      rw [part_simples, hid]
      simp
    have hfound : ∀ z ∈ doc.all,
        doc.css.matchesCompound (part doc mostSpecificMask elem).read z = true →
          z ∈ found doc doc.all ⟨none, [.id (doc.id elem)]⟩ := by
      intro z hz hmatches
      refine mem_found.mpr ⟨hz, rfl, ?_⟩
      show (true && ([Css.Simple.id (doc.id elem)].map Css.Simple.read).all _) = true
      rw [Bool.true_and, List.map_singleton, List.all_cons, List.all_nil, Bool.and_true]
      exact Css.Document.matchesSimple_of_compound hmatches hkept
    exact eq_of_length (le_of_eq (found_of_usable husable)) (hfound x hx hmx) (hfound y hy hmy)
  · have hleft := isEmpty_mostSpecific ((doc.mem_all elem).mp helem).1
    exact eq_of_length (le_of_eq (of_decide_eq_true hone)) (mem_found.mpr ⟨hx, hleft, hmx⟩)
      (mem_found.mpr ⟨hy, hleft, hmy⟩)

variable (hsame : ∀ x ∈ doc.all, ∀ y ∈ doc.all, doc.localName x = doc.localName y →
  doc.namespaceURI x = doc.namespaceURI y)
include hsame

/-- No two children of its parent match the part of an element. -/
theorem atMostOneChild (helem : elem ∈ doc.all) (hparent : doc.parentElement elem = some parent)
    (hfinds : IndexFindsOneName doc elem) :
    doc.css.AtMostOneChild (· ∈ doc.all) (part doc mostSpecificMask elem).read parent := by
  have helement := ((doc.mem_all elem).mp helem).1
  intro x y hx hy hxparent hyparent hmx hmy
  cases hindex : needsIndex doc elem with
  | false =>
    have hleft := isEmpty_mostSpecific helement
    exact eq_of_length (countFound_le hindex)
      (mem_found.mpr ⟨mem_belowParent hx hxparent hparent, hleft, hmx⟩)
      (mem_found.mpr ⟨mem_belowParent hy hyparent hparent, hleft, hmy⟩)
  | true =>
    have hname : doc.localName x = doc.localName y :=
      hfinds hindex x hx y hy ⟨hxparent.trans hparent.symm, hmx⟩ ⟨hyparent.trans hparent.symm, hmy⟩
    exact eq_of_typeIndex ((doc.mem_all x).mp hx).1 ((doc.mem_all y).mp hy).1 hxparent hyparent
      (sameType_iff.mpr ⟨hname, hsame x hx y hy hname⟩)
      ((typeIndex_of_part hindex hmx).trans (typeIndex_of_part hindex hmy).symm)

/-- A path up to an element at which the loop ends is pinned. -/
theorem pinned_path {x : ν} {path : List ν} (hpath : doc.css.IsPath (x :: path)) (hx : x ∈ doc.all)
    (hstops : ∀ y ∈ (x :: path).getLast?, stops doc mostSpecificMask y = true)
    (hdescribes : ∀ y ∈ x :: path, Describes doc mostSpecificMask y)
    (hfinds : ∀ y ∈ (x :: path).dropLast, IndexFindsOneName doc y) :
    doc.css.Pinned (· ∈ doc.all)
      ((x :: path).map fun y => (part doc mostSpecificMask y).read) (x :: path) := by
  have hmatches : doc.css.matchesCompound (part doc mostSpecificMask x).read x = true :=
    (matches_part ((doc.mem_all x).mp hx).1).mpr (hdescribes x List.mem_cons_self)
  induction path generalizing x with
  | nil =>
    refine ⟨rfl, hmatches, fun y hy hmy => ?_⟩
    exact eq_of_stops hx (hstops x rfl) hy hx hmy hmatches
  | cons z path ih =>
    obtain ⟨hparent, hpath⟩ := hpath
    have hz := mem_all_of_parentElement hparent hx
    rw [List.dropLast_cons_cons] at hfinds
    refine ⟨hmatches, atMostOneChild hsame hx hparent (hfinds x List.mem_cons_self), ?_⟩
    have hdescribes : ∀ y ∈ z :: path, Describes doc mostSpecificMask y :=
      fun y hy => hdescribes y (List.mem_cons_of_mem _ hy)
    refine ih hpath hz (fun y hy => hstops y ?_) hdescribes
      (fun y hy => hfinds y (List.mem_cons_of_mem _ hy))
      ((matches_part ((doc.mem_all z).mp hz).1).mpr (hdescribes z List.mem_cons_self))
    rwa [List.getLast?_cons_cons]

/-- Two elements that the parts of a path match are one, when the parts above the first are true of
their elements. -/
theorem eq_of_path {path : List ν} (hpath : doc.css.IsPath (elem :: path)) (helem : elem ∈ doc.all)
    (hstops : ∀ y ∈ (elem :: path).getLast?, stops doc mostSpecificMask y = true)
    (hdescribes : ∀ y ∈ path, Describes doc mostSpecificMask y)
    (hfinds : ∀ y ∈ (elem :: path).dropLast, IndexFindsOneName doc y) {x y : ν} (hx : x ∈ doc.all)
    (hy : y ∈ doc.all)
    (hmx : doc.css.matchesUp
      ((elem :: path).map fun z => (part doc mostSpecificMask z).read) x = true)
    (hmy : doc.css.matchesUp
      ((elem :: path).map fun z => (part doc mostSpecificMask z).read) y = true) : x = y := by
  cases path with
  | nil => exact eq_of_stops helem (hstops elem rfl) hx hy hmx hmy
  | cons z path =>
    obtain ⟨hparent, hpath⟩ := hpath
    have hz := mem_all_of_parentElement hparent helem
    rw [List.dropLast_cons_cons] at hfinds
    have hpinned := pinned_path hsame hpath hz
      (fun y hy => hstops y (by rwa [List.getLast?_cons_cons])) hdescribes
      fun y hy => hfinds y (List.mem_cons_of_mem _ hy)
    exact Css.Document.eq_of_pinned (fun _ _ => mem_all_of_parentElement) hpath hz
      (atMostOneChild hsame helem hparent (hfinds elem List.mem_cons_self)) hpinned hx hy hmx hmy

end SinglesOut

section HidesOne

variable {ν : Type} [DecidableEq ν] (doc : DocumentTree ν) (elem : ν)

/-- Elements with the same local name have the same namespace. -/
def NamesTellNamespaces : Prop :=
  ∀ x ∈ doc.all, ∀ y ∈ doc.all, doc.localName x = doc.localName y →
    doc.namespaceURI x = doc.namespaceURI y

/-- The loop over the builders ends at the element or at one above it. -/
def LoopStops : Prop :=
  ∃ x ∈ consideredElements doc mostSpecificMask elem, stops doc mostSpecificMask x = true

/-- What is proposed for an element at the most specific position finds one element at most. -/
def HidesAtMostOne : Prop :=
  ∀ selector, onTargetSelected doc (some elem) elem 4 = .ok selector →
    ∃ elements, doc.querySelectorAll selector = .ok elements ∧ elements.length ≤ 1

/-- The parts above the element are true of their own elements, and none with an index finds
siblings of two names. -/
structure PathIsTrue : Prop where
  describes : ∀ x ∈ (reached doc mostSpecificMask elem).tail, Describes doc mostSpecificMask x
  finds : ∀ x ∈ (reached doc mostSpecificMask elem).dropLast, IndexFindsOneName doc x

variable {doc elem}

/-- Where the loop ends below the body, and the path up to its end is true, at most one element is
hidden. -/
theorem hides_at_most_one (hsame : NamesTellNamespaces doc) (helem : elem ∈ doc.all)
    (hstops : LoopStops doc elem) (htrue : PathIsTrue doc elem) : HidesAtMostOne doc elem := by
  intro selector hok
  have helement := ((doc.mem_all elem).mp helem).1
  have hbody : some elem ≠ doc.body := by
    intro hbody
    obtain ⟨x, hx, -⟩ := hstops
    have hnone : consideredElements doc mostSpecificMask elem = [] := by
      show elementsUp doc elem = []
      rw [elementsUp_eq, if_neg (by simp [hbody])]
    rw [hnone] at hx
    cases hx
  have hreturns := considered_of_ok helement hok
  rw [onTargetSelected_ok helement elem 4 hreturns] at hok
  obtain rfl := Except.ok.inj hok
  have hparse := parse_proposed mostSpecificMask helement hbody
  rw [if_pos fun x _ => isLeft_mostSpecific, proposed] at hparse
  obtain ⟨path, hreached⟩ := reached_cons mostSpecificMask helement hbody
  have hmask : maskAt 4 = mostSpecificMask := rfl
  rw [hmask, querySelectorAll, selectFrom, hparse]
  refine ⟨_, rfl, length_le_one (doc.all_nodup.filter _) fun x hx y hy => ?_⟩
  obtain ⟨hx, hmx⟩ := List.mem_filter.mp hx
  obtain ⟨hy, hmy⟩ := List.mem_filter.mp hy
  have hpath : doc.css.IsPath (reached doc mostSpecificMask elem) := isPath_reached elem
  have hlast : ∀ y ∈ (reached doc mostSpecificMask elem).getLast?,
      stops doc mostSpecificMask y = true := last_upTo hstops
  obtain ⟨hdescribes, hfinds⟩ := htrue
  rw [Css.Document.matches, List.map_reverse, List.reverse_reverse, List.map_map] at hmx hmy
  rw [hreached] at hpath hlast hdescribes hfinds hmx hmy
  exact eq_of_path hsame hpath helem hlast hdescribes hfinds hx hy hmx hmy

end HidesOne

section Pages

theorem pickerPage_names : NamesTellNamespaces pickerPage := fun _ _ _ _ _ => rfl

theorem reached_span : reached pickerPage mostSpecificMask 7 = [7, 5] := by decide +kernel

/-- The first span in the first `o:p` is hidden alone. -/
theorem span_hidden_alone : HidesAtMostOne pickerPage 7 := by
  have htried : attributesTried pickerPage 5 = [] := by decide +kernel
  have hunnamed : pickerPage.classList 5 = [] := by decide +kernel
  refine hides_at_most_one pickerPage_names (by decide) ⟨5, by decide +kernel, by decide +kernel⟩
    ⟨?_, ?_⟩
  · rw [reached_span]
    intro x hx
    obtain rfl := List.mem_singleton.mp hx
    refine ⟨fun _ => by decide +kernel, fun h => absurd h (by decide +kernel),
      fun _ _ name hname => ?_, fun _ rule hrule => ?_, fun _ _ => by decide +kernel⟩
    · rw [hunnamed] at hname
      cases hname
    · rw [htried] at hrule
      cases hrule
  · rw [reached_span]
    intro x hx
    obtain rfl := List.mem_singleton.mp hx
    unfold IndexFindsOneName PartFinds
    decide +kernel

/-- For the span in the second `o:p` both spans in the first are hidden: the index of an `o:p` is
always 1, since its name is counted with a backslash. -/
theorem two_spans_hidden :
    NamesTellNamespaces pickerPage ∧ 9 ∈ pickerPage.all ∧ LoopStops pickerPage 9 ∧
      onTargetSelected pickerPage (some 9) 9 4 = .ok "o\\:p:nth-of-type(1) > span" ∧
      pickerPage.querySelectorAll "o\\:p:nth-of-type(1) > span" = .ok [7, 8] ∧
      ¬ HidesAtMostOne pickerPage 9 := by
  have hproposed : onTargetSelected pickerPage (some 9) 9 4 =
      .ok "o\\:p:nth-of-type(1) > span" := by
    decide +kernel
  have hfound : pickerPage.querySelectorAll "o\\:p:nth-of-type(1) > span" = .ok [7, 8] := by
    decide +kernel
  refine ⟨pickerPage_names, by decide, ⟨6, by decide +kernel, by decide +kernel⟩, hproposed, hfound,
    fun h => ?_⟩
  obtain ⟨elements, helements, hlength⟩ := h _ hproposed
  rw [hfound] at helements
  obtain rfl := Except.ok.inj helements
  exact absurd hlength (by decide)

end Pages

end DocumentTree

end ChromiumAdblock
