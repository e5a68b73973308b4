import ChromiumAdblock.Cosmetic.ProceduralSelectors
import ChromiumAdblock.Cosmetic.SelectorQueries
import ChromiumAdblock.Lib.Machine
import Mathlib.Tactic.MkIffOfInductiveProp

/-! The procedural filters of `content_cosmetic.ts`: the actions on the elements that a filter
selects, in the whole document or from elements that were added to it. -/

namespace ChromiumAdblock

open EventMachine

inductive CosmeticFilterAction
  | style (arg : String)
  | remove
  | removeAttr (arg : String)
  | removeClass (arg : String)

structure ProceduralActionFilter where
  selector : ProceduralSelector
  action : Option CosmeticFilterAction := none

/-- The document, and the attribute that stands for each style. -/
structure StyledPage (ν : Type) where
  dom : Dom ν
  styleAttrMap : List (String × String) := []

namespace StyledPage

variable {ν : Type} [DecidableEq ν] (randomAttr : Nat → String)

/-- The first attribute that `generateRandomAttr` gives. -/
def globalStyleAttr : String := randomAttr 0

def getStyleAttr (style : String) (s : StyledPage ν) : StyledPage ν × String :=
  match s.styleAttrMap.lookup style with
  | some styleAttr => (s, styleAttr)
  | none =>
    let styleAttr := randomAttr (s.styleAttrMap.length + 1)
    let css := "[" ++ globalStyleAttr randomAttr ++ "][" ++ styleAttr ++ "]\x7b" ++ style ++ "\x7d"
    ({ dom := s.dom.injectStylesheet css
       styleAttrMap := s.styleAttrMap ++ [(style, styleAttr)] }, styleAttr)

/-- An element gets the attributes of a style. -/
def setStyle (style : String) (element : ν) (s : StyledPage ν) : StyledPage ν :=
  let (s, attr) := s.getStyleAttr randomAttr style
  { s with
    dom := (s.dom.setAttribute element (globalStyleAttr randomAttr) "").setAttribute element attr
      "" }

def performAction (element : ν) (s : StyledPage ν) : Option CosmeticFilterAction → StyledPage ν
  | none => s.setStyle randomAttr "display: none !important" element
  | some (.style arg) => s.setStyle randomAttr arg element
  | some .remove => { s with dom := s.dom.remove element }
  | some (.removeAttr arg) => { s with dom := s.dom.removeAttribute element arg }
  | some (.removeClass arg) =>
    if arg ∈ s.dom.classList element then { s with dom := s.dom.removeClass element arg } else s

theorem setStyle_dom (style : String) (element : ν) (s : StyledPage ν) :
    ∃ attributes stylesheets, (s.setStyle randomAttr style element).dom =
      { s.dom with
        attributes := attributes
        stylesheets := stylesheets } := by
  unfold setStyle getStyleAttr
  cases s.styleAttrMap.lookup style <;> exact ⟨_, _, rfl⟩

theorem setStyle_all (style : String) (element : ν) (s : StyledPage ν) :
    (s.setStyle randomAttr style element).dom.all = s.dom.all := by
  obtain ⟨attributes, stylesheets, hdom⟩ := setStyle_dom randomAttr style element s
  rw [hdom]

theorem mem_of_mem_performAction {element other : ν} {s : StyledPage ν}
    {action : Option CosmeticFilterAction}
    (h : other ∈ (s.performAction randomAttr element action).dom.all) : other ∈ s.dom.all := by
  cases action with
  | none => exact setStyle_all randomAttr _ element s ▸ h
  | some action =>
    cases action with
    | style arg => exact setStyle_all randomAttr arg element s ▸ h
    | remove => exact s.dom.mem_of_mem_remove h
    | removeAttr arg => exact h
    | removeClass arg =>
      rw [performAction] at h
      split at h <;> exact h

end StyledPage

/-- A page with what was passed to `performAction`: the position of a filter, and an element. -/
structure FilteredPage (ν : Type) extends StyledPage ν where
  passed : List (Nat × ν) := []

/-- A document after subtrees were inserted, and the records of it that the observer gets. -/
structure Insertion (ν : Type) where
  dom : Dom ν
  mutations : List (MutationRecord ν)

namespace Insertion

variable {ν : Type}

/-- The elements that a record tells of. -/
def addedBy (dom : Dom ν) : MutationRecord ν → List ν
  | .attributes _ _ => []
  | .childList addedNodes =>
    (addedNodes.filter dom.isElement).flatMap fun n => n :: (dom.descendants n).filter dom.isElement

def addedElements (e : Insertion ν) : List ν := e.mutations.flatMap (addedBy e.dom)

/-- Subtrees were inserted: what was there stays as it is, and the records tell of the rest. -/
@[mk_iff]
structure Inserts (dom : Dom ν) (e : Insertion ν) : Prop where
  all : dom.all.Sublist e.dom.all
  nodeType : ∀ n ∈ dom.all, e.dom.nodeType n = dom.nodeType n
  localName : ∀ n ∈ dom.all, e.dom.localName n = dom.localName n
  isHTMLElement : ∀ n ∈ dom.all, e.dom.isHTMLElement n = dom.isHTMLElement n
  attributes : ∀ n ∈ dom.all, e.dom.attributes n = dom.attributes n
  parentNode : ∀ n ∈ dom.all, e.dom.parentNode n = dom.parentNode n
  children : ∀ n ∈ dom.all, (dom.children n).Sublist (e.dom.children n)
  descendants : ∀ n ∈ dom.all, (dom.descendants n).Sublist (e.dom.descendants n)
  stylesheets : e.dom.stylesheets = dom.stylesheets
  inserted : ∀ n ∈ e.addedElements, n ∈ e.dom.all ∧ n ∉ dom.all
  reported : ∀ n ∈ e.dom.all, n ∈ dom.all ∨ n ∈ e.addedElements

instance [DecidableEq ν] (dom : Dom ν) (e : Insertion ν) : Decidable (Inserts dom e) :=
  decidable_of_iff _ (inserts_iff dom e).symm

end Insertion

namespace FilteredPage

variable {ν : Type} [DecidableEq ν] (b : Browser ν) (randomAttr : Nat → String)

def passToPerformAction (filter : ProceduralActionFilter) (position : Nat) (s : FilteredPage ν)
    (element : ν) : FilteredPage ν where
  toStyledPage := s.toStyledPage.performAction randomAttr element filter.action
  passed := s.passed ++ [(position, element)]

/-- One filter; an exception is caught, and only logged. -/
def applyFilter (added : Option (List ν)) (s : FilteredPage ν)
    (entry : ProceduralActionFilter × Nat) : FilteredPage ν :=
  match matchingElements b s.dom entry.1.selector added with
  | .error _ => s
  | .ok elements => elements.foldl (passToPerformAction randomAttr entry.1 entry.2) s

def executeProceduralActions (filters : List ProceduralActionFilter) (added : Option (List ν))
    (s : FilteredPage ν) : FilteredPage ν :=
  filters.zipIdx.foldl (applyFilter b randomAttr added) s

/-- The part of `onMutations` under `CC.hasProceduralActions`, which says that there are filters. -/
def onMutations (filters : List ProceduralActionFilter) (s : FilteredPage ν) (e : Insertion ν) :
    FilteredPage ν :=
  let s : FilteredPage ν := { s with dom := e.dom }
  if !filters.isEmpty && !e.addedElements.isEmpty then
    s.executeProceduralActions b randomAttr filters (some e.addedElements)
  else s

/-- A page into which subtrees are inserted. -/
def machine (filters : List ProceduralActionFilter) :
    Machine (FilteredPage ν) (Insertion ν) Empty where
  enabled s e := Insertion.Inserts s.dom e
  step s e := .ok (s.onMutations b randomAttr filters e)

instance (filters : List ProceduralActionFilter) (s : FilteredPage ν) (e : Insertion ν) :
    Decidable ((machine b randomAttr filters).enabled s e) :=
  inferInstanceAs (Decidable (Insertion.Inserts s.dom e))

end FilteredPage

end ChromiumAdblock
