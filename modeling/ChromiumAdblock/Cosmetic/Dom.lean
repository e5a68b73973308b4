import Mathlib.Data.List.Basic
import Mathlib.Data.String.Basic

/-! A document as the scripts of a page see it.  Nodes are handles of any type: a script may keep
one and read it again after the document has changed. -/

namespace ChromiumAdblock

/-- `ASCII whitespace` of the DOM standard. -/
def isAsciiWhitespace (c : Char) : Bool :=
  c == ' ' || c == '\t' || c == '\n' || c == '\r' || c == Char.ofNat 12

/-- The ordered set of the tokens of an attribute. -/
def tokensOf (text : String) : List String :=
  (((text.toList.splitOnP isAsciiWhitespace).filter (· ≠ [])).map String.ofList).eraseDups

theorem ne_empty_of_mem_tokensOf {text token : String} (h : token ∈ tokensOf text) :
    token ≠ "" := by
  obtain ⟨chars, hchars, rfl⟩ := List.mem_map.mp (List.mem_eraseDups.mp h)
  have hne : chars ≠ [] := by simpa using (List.mem_filter.mp hchars).2
  intro hempty
  exact hne (by simpa using congrArg String.toList hempty)

/-- A document, with the nodes that are or were in it. -/
structure Dom (ν : Type) where
  nodeType : ν → Nat
  localName : ν → String
  /-- `instanceof HTMLElement`. -/
  isHTMLElement : ν → Bool
  attributes : ν → List (String × String)
  parentNode : ν → Option ν
  /-- The child nodes that are elements. -/
  children : ν → List ν
  /-- The elements below a node, in tree order. -/
  descendants : ν → List ν
  /-- The elements of the document, in tree order. -/
  all : List ν
  /-- No fewer than the nodes above a node. -/
  depth : ν → Nat
  depth_parent : ∀ {node parent}, parentNode node = some parent → depth parent < depth node
  /-- The stylesheets that cosmetic filtering injected. -/
  stylesheets : List String := []

namespace Dom

variable {ν : Type} (dom : Dom ν)

def getAttribute (node : ν) (name : String) : Option String :=
  ((dom.attributes node).find? fun entry => entry.1 == name).map Prod.snd

def id (node : ν) : String := (dom.getAttribute node "id").getD ""

def classList (node : ν) : List String := tokensOf ((dom.getAttribute node "class").getD "")

/-- A node and the nodes above it, up to a number of nodes. -/
def ancestorsFrom : Nat → ν → List ν
  | 0, _ => []
  | limit + 1, node =>
    node :: match dom.parentNode node with
      | none => []
      | some parent => ancestorsFrom limit parent

/-- A node and all nodes above it. -/
def inclusiveAncestors (node : ν) : List ν := dom.ancestorsFrom (dom.depth node + 1) node

theorem ancestorsFrom_eq {limit : Nat} {node : ν} (h : dom.depth node < limit) :
    dom.ancestorsFrom limit node = dom.inclusiveAncestors node := by
  unfold inclusiveAncestors
  suffices hall : ∀ n limit node, dom.depth node < n → dom.depth node < limit →
      dom.ancestorsFrom limit node = dom.ancestorsFrom n node from
    hall (dom.depth node + 1) limit node (Nat.lt_succ_self _) h
  intro n
  induction n with
  | zero =>
    intro limit node hn
    omega
  | succ n ih =>
    intro limit node hn hlimit
    cases limit with
    | zero => omega
    | succ limit =>
      rw [ancestorsFrom, ancestorsFrom]
      cases hparent : dom.parentNode node with
      | none => rfl
      | some parent =>
        have hlt := dom.depth_parent hparent
        exact congrArg (node :: ·) (ih limit parent (by omega) (by omega))

/-- The nodes above a node are its parent and the nodes above that. -/
theorem inclusiveAncestors_eq (node : ν) :
    dom.inclusiveAncestors node = node :: match dom.parentNode node with
      | none => []
      | some parent => dom.inclusiveAncestors parent := by
  conv_lhs => rw [inclusiveAncestors, ancestorsFrom]
  cases hparent : dom.parentNode node with
  | none => rfl
  | some parent => exact congrArg (node :: ·) (dom.ancestorsFrom_eq (dom.depth_parent hparent))

def isElement (node : ν) : Bool := dom.nodeType node == 1

def isHtmlOrBody (node : ν) : Bool := dom.localName node == "html" || dom.localName node == "body"

/-- Whether `classIdWithoutHtmlOrBody` matches. -/
def classIdWithoutHtmlOrBody (node : ν) : Bool :=
  ((dom.getAttribute node "id").isSome || (dom.getAttribute node "class").isSome) &&
    !dom.isHtmlOrBody node

theorem ne_empty_of_mem_classList {node : ν} {className : String}
    (h : className ∈ dom.classList node) : className ≠ "" :=
  ne_empty_of_mem_tokensOf h

theorem hasId_of_id_ne {node : ν} (h : dom.id node ≠ "") :
    (dom.getAttribute node "id").isSome = true := by
  cases hnamed : dom.getAttribute node "id" with
  | none => exact absurd (by simp [id, hnamed]) h
  | some _ => rfl

theorem hasClass_of_mem_classList {node : ν} {className : String}
    (h : className ∈ dom.classList node) : (dom.getAttribute node "class").isSome = true := by
  cases hnamed : dom.getAttribute node "class" with
  | none =>
    have hnone : dom.classList node = [] := by
      unfold classList
      rw [hnamed]
      decide
    exact absurd (hnone ▸ h) List.not_mem_nil
  | some _ => rfl

/-! The changes that scripts make. -/

def injectStylesheet (stylesheet : String) : Dom ν :=
  { dom with stylesheets := dom.stylesheets ++ [stylesheet] }

section Changes

variable [DecidableEq ν]

/-- The name of an attribute, which HTML elements have in lower case. -/
def qualifiedName (node : ν) (name : String) : String :=
  if dom.isHTMLElement node then name.toLower else name

def setAttributes (node : ν) (attributes : List (String × String)) : Dom ν :=
  { dom with attributes := fun other => if other = node then attributes else dom.attributes other }

def setAttribute (node : ν) (name value : String) : Dom ν :=
  let name := dom.qualifiedName node name
  let attributes := dom.attributes node
  dom.setAttributes node <|
    if attributes.any fun entry => entry.1 == name then
      attributes.map fun entry => if entry.1 == name then (name, value) else entry
    else attributes ++ [(name, value)]

def removeAttribute (node : ν) (name : String) : Dom ν :=
  let name := dom.qualifiedName node name
  dom.setAttributes node ((dom.attributes node).eraseP fun entry => entry.1 == name)

/-- `classList.remove`. -/
def removeClass (node : ν) (token : String) : Dom ν :=
  dom.setAttribute node "class" (" ".intercalate ((dom.classList node).erase token))

/-- `Element.remove`: a node leaves its parent, with what is below it. -/
def remove (node : ν) : Dom ν :=
  match dom.parentNode node with
  | none => dom
  | some _ =>
    let subtree := node :: dom.descendants node
    { dom with
      parentNode := fun other => if other = node then none else dom.parentNode other
      children := fun other => (dom.children other).erase node
      descendants := fun other =>
        if other ∈ subtree then dom.descendants other
        else (dom.descendants other).filter (· ∉ subtree)
      all := dom.all.filter (· ∉ subtree)
      depth_parent := by
        intro other parent h
        split at h
        · contradiction
        · exact dom.depth_parent h }

theorem mem_of_mem_remove {node element : ν} (h : element ∈ (dom.remove node).all) :
    element ∈ dom.all := by
  unfold remove at h
  split at h
  · exact h
  · exact List.mem_of_mem_filter h

end Changes

end Dom

end ChromiumAdblock
