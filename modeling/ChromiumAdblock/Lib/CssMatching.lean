import ChromiumAdblock.Lib.CssText

/-! Which elements of a document a chain of compound selectors matches.  A chain is matched upwards:
its last compound selector against the element, the one before it against the parent, and so on.
Where the elements of a path each match their own compound selector, the chain matches the first of
them; where besides no child of a path's element is mistaken for the one on the path, it matches
nothing else. -/

namespace Css

/-- A document, as far as selectors see it. -/
structure Document (ν : Type) where
  isHTMLDocument : Bool
  isQuirky : Bool
  isHTML : ν → Bool
  localName : ν → String
  namespaceURI : ν → String
  attr : ν → String → Option String
  classes : ν → List String
  parentElement : ν → Option ν
  /-- The elements in front of an element that have its parent. -/
  before : ν → List ν

/-- `ASCII lowercase`. -/
def lowercase (text : String) : String := String.ofList (text.toList.map Char.toLower)

def AttributeMatch.holds : AttributeMatch → (actual value : String) → Bool
  | .equals, actual, value => actual == value
  | .startsWith, actual, value => value != "" && value.toList.isPrefixOf actual.toList
  | .contains, actual, value => value != "" && actual.toList.tails.any value.toList.isPrefixOf

namespace Document

variable {ν : Type} (doc : Document ν)

/-- Ids and classes are compared without case in quirks mode. -/
def sameIdent (a b : String) : Bool :=
  if doc.isQuirky then lowercase a == lowercase b else a == b

/-- Names in selectors are lowercased for HTML elements of HTML documents. -/
def nameFor (x : ν) (name : String) : String :=
  if doc.isHTMLDocument && doc.isHTML x then lowercase name else name

def sameType (x y : ν) : Bool :=
  doc.localName x == doc.localName y && doc.namespaceURI x == doc.namespaceURI y

/-- The position of an element among its siblings of the same type. -/
def typeIndex (x : ν) : Nat := ((doc.before x).filter (doc.sameType x)).length + 1

def matchesType (x : ν) (type : String) : Bool := doc.localName x == doc.nameFor x type

def matchesSimple (x : ν) : Simple → Bool
  | .id name => (doc.attr x "id").any (doc.sameIdent · name)
  | .cls name => (doc.classes x).any (doc.sameIdent · name)
  | .attr name relation value =>
    (doc.attr x (doc.nameFor x name)).any (relation.holds · value)
  | .nthOfType index => doc.typeIndex x == index

def matchesCompound (c : Compound) (x : ν) : Bool :=
  c.type.all (doc.matchesType x) && c.simples.all (doc.matchesSimple x)

/-- Compound selectors against an element and the elements above it. -/
def matchesUp : List Compound → ν → Bool
  | [], _ => true
  | [c], x => doc.matchesCompound c x
  | c :: cs, x => doc.matchesCompound c x && (doc.parentElement x).any (matchesUp cs)

/-- A chain of compound selectors, the one of the element itself last. -/
def «matches» (chain : List Compound) (x : ν) : Bool := doc.matchesUp chain.reverse x

variable {doc}

theorem lowercase_readName {name : String} :
    lowercase name = lowercase (readName name) ↔ ∀ c ∈ name.toList, c.toNat ≠ 0 := by
  constructor
  · intro h c hc hzero
    have hlists := congrArg String.toList h
    rw [lowercase, lowercase, readName, String.toList_ofList, String.toList_ofList,
      String.toList_ofList, List.map_map] at hlists
    have hc' : c.toLower = (readChar c).toLower := List.map_inj_left.mp hlists c hc
    obtain rfl : c = Char.ofNat 0 := by rw [← hzero, Char.ofNat_toNat]
    exact absurd hc' (by decide)
  · intro h
    rw [readName_eq h]

/-- A name stays the same when it is escaped and read, unless it has U+0000. -/
theorem sameIdent_readName (name : String) :
    doc.sameIdent name (readName name) = true ↔ ∀ c ∈ name.toList, c.toNat ≠ 0 := by
  rw [sameIdent]
  split
  · rw [beq_iff_eq, lowercase_readName]
  · rw [beq_iff_eq]
    exact ⟨fun h => lowercase_readName.mp (congrArg lowercase h), fun h => (readName_eq h).symm⟩

/-- What a compound selector matches, each of its simple selectors matches. -/
theorem matchesSimple_of_compound {c : Compound} {x : ν}
    (h : doc.matchesCompound c.read x = true) {simple : Simple} (hsimple : simple ∈ c.simples) :
    doc.matchesSimple x simple.read = true := by
  have hsimples := ((Bool.and_eq_true _ _).mp h).2
  exact List.all_eq_true.mp hsimples _ (List.mem_map_of_mem hsimple)

/-- Each element of the path is the parent of the one before it. -/
def IsPath (doc : Document ν) : List ν → Prop
  | [] => True
  | [_] => True
  | x :: y :: path => doc.parentElement x = some y ∧ IsPath doc (y :: path)

theorem matchesUp_cons (c : Compound) {cs : List Compound} (hne : cs ≠ []) (x : ν) :
    doc.matchesUp (c :: cs) x =
      (doc.matchesCompound c x && (doc.parentElement x).any (doc.matchesUp cs)) := by
  cases cs with
  | nil => exact absurd rfl hne
  | cons c' cs => rfl

/-- Along a path a chain matches exactly when each compound selector matches its own element. -/
theorem matchesUp_path {cs : List Compound} {x : ν} {path : List ν}
    (hpath : doc.IsPath (x :: path)) (hlength : cs.length = (x :: path).length) :
    doc.matchesUp cs x = true ↔
      ∀ pair ∈ cs.zip (x :: path), doc.matchesCompound pair.1 pair.2 = true := by
  induction path generalizing cs x with
  | nil =>
    obtain ⟨c, rfl⟩ := List.length_eq_one_iff.mp hlength
    show doc.matchesCompound c x = true ↔ _
    simp
  | cons y path ih =>
    obtain ⟨hparent, hpath⟩ := hpath
    cases cs with
    | nil => cases hlength
    | cons c cs =>
      have hrest : cs.length = (y :: path).length := by simpa using hlength
      have hne : cs ≠ [] := by
        rintro rfl
        cases hrest
      rw [matchesUp_cons c hne, hparent, Option.any_some, Bool.and_eq_true, ih hpath hrest,
        List.zip_cons_cons, List.forall_mem_cons]

section Unique

variable {Inside : ν → Prop}

/-- At most one child of an element that is `Inside` matches a compound selector. -/
def AtMostOneChild (doc : Document ν) (Inside : ν → Prop) (c : Compound) (parent : ν) : Prop :=
  ∀ x y, Inside x → Inside y → doc.parentElement x = some parent →
    doc.parentElement y = some parent → doc.matchesCompound c x = true →
      doc.matchesCompound c y = true → x = y

/-- Each element of a path matches its own compound selector, no other child of the element above it
does, and at the top no other element. -/
def Pinned (doc : Document ν) (Inside : ν → Prop) : List Compound → List ν → Prop
  | [], _ => False
  | _ :: _, [] => False
  | c :: cs, [x] => cs = [] ∧ doc.matchesCompound c x = true ∧
    ∀ y, Inside y → doc.matchesCompound c y = true → y = x
  | c :: cs, x :: y :: path => doc.matchesCompound c x = true ∧ doc.AtMostOneChild Inside c y ∧
    Pinned doc Inside cs (y :: path)

theorem Pinned.ne_nil {cs : List Compound} {path : List ν} (h : doc.Pinned Inside cs path) :
    cs ≠ [] := by
  rintro rfl
  exact h

variable (hinside : ∀ x y, doc.parentElement x = some y → Inside x → Inside y)
include hinside

/-- A pinned chain matches the first element of its path only. -/
theorem Pinned.eq {cs : List Compound} {x y : ν} {path : List ν}
    (hpath : doc.IsPath (x :: path)) (hpinned : doc.Pinned Inside cs (x :: path)) (hx : Inside x)
    (hy : Inside y) (hmatches : doc.matchesUp cs y = true) : y = x := by
  induction path generalizing cs x y with
  | nil =>
    cases cs with
    | nil => exact absurd rfl hpinned.ne_nil
    | cons c cs =>
      obtain ⟨rfl, -, honly⟩ := hpinned
      exact honly y hy hmatches
  | cons z path ih =>
    obtain ⟨hparent, hpath⟩ := hpath
    cases cs with
    | nil => exact absurd rfl hpinned.ne_nil
    | cons c cs =>
      obtain ⟨hcx, hchild, hrest⟩ := hpinned
      rw [matchesUp_cons c hrest.ne_nil, Bool.and_eq_true] at hmatches
      obtain ⟨hcy, habove⟩ := hmatches
      obtain ⟨w, hw, hup⟩ := (Option.any_eq_true _ _).mp habove
      -- The parent of `y` matches the rest of the chain, so it is the one on the path.
      obtain rfl : w = z :=
        ih hpath hrest (hinside x z hparent hx) (hinside y w hw hy) hup
      exact hchild y x hy hx hw hparent hcy hcx

/-- Two elements that a chain matches are one, when the chain above them is pinned. -/
theorem eq_of_pinned {c : Compound} {cs : List Compound} {z : ν} {path : List ν}
    (hpath : doc.IsPath (z :: path)) (hz : Inside z) (hchild : doc.AtMostOneChild Inside c z)
    (hpinned : doc.Pinned Inside cs (z :: path)) {x y : ν} (hx : Inside x) (hy : Inside y)
    (hmx : doc.matchesUp (c :: cs) x = true) (hmy : doc.matchesUp (c :: cs) y = true) : x = y := by
  have hparent : ∀ w, Inside w → doc.matchesUp (c :: cs) w = true →
      doc.parentElement w = some z ∧ doc.matchesCompound c w = true := by
    intro w hw hmatches
    rw [matchesUp_cons c hpinned.ne_nil, Bool.and_eq_true] at hmatches
    obtain ⟨hc, habove⟩ := hmatches
    obtain ⟨v, hv, hup⟩ := (Option.any_eq_true _ _).mp habove
    obtain rfl : v = z := Pinned.eq hinside hpath hpinned hz (hinside w v hv hw) hup
    exact ⟨hv, hc⟩
  obtain ⟨hpx, hcx⟩ := hparent x hx hmx
  obtain ⟨hpy, hcy⟩ := hparent y hy hmy
  exact hchild x y hx hy hpx hpy hcx hcy

end Unique

end Document

end Css
