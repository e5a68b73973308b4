import Mathlib.Data.List.Nodup
import ChromiumAdblock.Cosmetic.IncrementalFiltering

/-! The styles of the procedural filters.  A style is an attribute of random letters on the elements
that it is for, and one stylesheet that looks for the attribute.  Over the whole life of a page,
each style that is used has one stylesheet, and its attributes are on exactly the elements that were
selected for it. -/

namespace ChromiumAdblock

open EventMachine

namespace Dom

variable {ν : Type} (dom : Dom ν)

/-- Whether an attribute of this very name is there. -/
def bears (element : ν) (name : String) : Bool :=
  (dom.attributes element).any fun entry => entry.1 == name

variable {dom} [DecidableEq ν] {element other : ν} {name key value : String}

theorem bears_setAttributes (attributes : List (String × String)) :
    (dom.setAttributes element attributes).bears other key =
      if other = element then attributes.any fun entry => entry.1 == key
      else dom.bears other key := by
  simp only [bears, setAttributes]
  split <;> rfl

theorem any_replaced (attributes : List (String × String)) (qualified : String) :
    (attributes.map fun entry => if entry.1 == qualified then (qualified, value) else entry).any
      (fun entry => entry.1 == key) = attributes.any fun entry => entry.1 == key := by
  induction attributes with
  | nil => rfl
  | cons entry attributes ih =>
    simp only [List.map_cons, List.any_cons, ih]
    by_cases h : entry.1 = qualified <;> simp [h]

theorem bears_setAttribute :
    (dom.setAttribute element name value).bears other key =
      (dom.bears other key || decide (other = element ∧ dom.qualifiedName element name = key)) := by
  rw [setAttribute, bears_setAttributes]
  by_cases hother : other = element
  · rw [if_pos hother, hother]
    generalize dom.qualifiedName element name = qualified
    split
    · rename_i hany
      rw [any_replaced]
      by_cases hkey : qualified = key
      · subst hkey
        simpa [bears] using hany
      · simp [hkey, bears]
    · simp [bears, beq_eq_decide]
  · simp [hother]

theorem any_eraseP_of_ne {attributes : List (String × String)} {qualified : String}
    (h : qualified ≠ key) :
    (attributes.eraseP fun entry => entry.1 == qualified).any (fun entry => entry.1 == key) =
      attributes.any fun entry => entry.1 == key := by
  induction attributes with
  | nil => rfl
  | cons entry attributes ih =>
    by_cases hentry : entry.1 = qualified
    · simp [hentry, h]
    · rw [List.eraseP_cons_of_neg (by simpa using hentry)]
      simp only [List.any_cons, ih]

theorem bears_removeAttribute (h : dom.qualifiedName element name ≠ key) :
    (dom.removeAttribute element name).bears other key = dom.bears other key := by
  rw [removeAttribute, bears_setAttributes, any_eraseP_of_ne h]
  split
  · rename_i hother
    rw [hother, bears]
  · rfl

theorem bears_remove : (dom.remove element).bears other key = dom.bears other key := by
  unfold remove
  split <;> rfl

theorem stylesheets_remove : (dom.remove element).stylesheets = dom.stylesheets := by
  unfold remove
  split <;> rfl

end Dom

namespace StyledPage

variable (randomAttr : Nat → String)

/-- The stylesheet for the style at an index. -/
def styleRule (index : Nat) (style : String) : String :=
  "[" ++ globalStyleAttr randomAttr ++ "][" ++ randomAttr (index + 1) ++ "]\x7b" ++ style ++ "\x7d"

variable {randomAttr} {ν : Type} {before styles : List String} {s : StyledPage ν} {style : String}

theorem lookup_styles_of_mem (randomAttr : Nat → String) (start : Nat) (h : style ∈ styles) :
    ∃ index, styles[index]? = some style ∧
    ((styles.zipIdx start).map fun entry => (entry.1, randomAttr (entry.2 + 1))).lookup style =
      some (randomAttr (start + index + 1)) := by
  induction styles generalizing start with
  | nil => simp at h
  | cons first rest ih =>
    by_cases hfirst : style = first
    · exact ⟨0, by simp [hfirst], by simp [hfirst]⟩
    · obtain ⟨index, hindex, hlookup⟩ := ih (start + 1)
        ((List.mem_cons.mp h).resolve_left hfirst)
      refine ⟨index + 1, by simpa using hindex, ?_⟩
      have hne : (style == first) = false := by simpa using hfirst
      simp only [List.zipIdx_cons, List.map_cons, List.lookup_cons, hne, hlookup]
      rw [Nat.add_right_comm start 1 index, Nat.add_assoc start index 1]

theorem lookup_styles_of_not_mem (randomAttr : Nat → String) (start : Nat) (h : style ∉ styles) :
    ((styles.zipIdx start).map fun entry => (entry.1, randomAttr (entry.2 + 1))).lookup style =
      none := by
  induction styles generalizing start with
  | nil => rfl
  | cons first rest ih =>
    have hne : (style == first) = false := by
      simpa using fun heq => h (List.mem_cons.mpr (.inl heq))
    simp only [List.zipIdx_cons, List.map_cons, List.lookup_cons, hne]
    exact ih (start + 1) fun hmem => h (List.mem_cons_of_mem _ hmem)

/-- The styles that have an attribute, in the order in which they got it. -/
structure Interned (randomAttr : Nat → String) (before styles : List String)
    (s : StyledPage ν) : Prop where
  nodup : styles.Nodup
  styleAttrMap : s.styleAttrMap =
    styles.zipIdx.map fun entry => (entry.1, randomAttr (entry.2 + 1))
  stylesheets : s.dom.stylesheets = before ++ styles.mapIdx (styleRule randomAttr)

/-- A style that has an attribute keeps it, and a new one gets the next. -/
theorem Interned.getStyleAttr (h : Interned randomAttr before styles s) (style : String) :
    ∃ styles' index, styles'[index]? = some style ∧
      (styles' = styles ∨ style ∉ styles ∧ styles' = styles ++ [style]) ∧
      Interned randomAttr before styles' (s.getStyleAttr randomAttr style).1 ∧
      (s.getStyleAttr randomAttr style).2 = randomAttr (index + 1) ∧
      (s.getStyleAttr randomAttr style).1.dom.attributes = s.dom.attributes := by
  by_cases hmem : style ∈ styles
  · obtain ⟨index, hindex, hlookup⟩ := lookup_styles_of_mem randomAttr 0 hmem
    rw [← h.styleAttrMap, Nat.zero_add] at hlookup
    refine ⟨styles, index, hindex, .inl rfl, ?_⟩
    rw [StyledPage.getStyleAttr, hlookup]
    exact ⟨h, rfl, rfl⟩
  · have hlookup := lookup_styles_of_not_mem randomAttr 0 hmem
    have hlength : s.styleAttrMap.length = styles.length := by simp [h.styleAttrMap]
    rw [← h.styleAttrMap] at hlookup
    refine ⟨styles ++ [style], styles.length, by simp, .inr ⟨hmem, rfl⟩, ?_⟩
    rw [StyledPage.getStyleAttr, hlookup]
    refine ⟨⟨?_, ?_, ?_⟩, by simp [hlength], rfl⟩
    · exact List.nodup_append.mpr ⟨h.nodup, List.nodup_singleton style, by
        intro a ha c hc heq
        obtain rfl := List.mem_singleton.mp hc
        exact hmem (heq ▸ ha)⟩
    · simp [h.styleAttrMap, List.zipIdx_append]
    · simp [Dom.injectStylesheet, h.stylesheets, styleRule, hlength, List.mapIdx_append]

end StyledPage

namespace ProceduralActionFilter

/-- The style that the action of a filter gives, if it gives one. -/
def style? (filter : ProceduralActionFilter) : Option String :=
  match filter.action with
  | none => some "display: none !important"
  | some (.style arg) => some arg
  | some .remove | some (.removeAttr _) | some (.removeClass _) => none

end ProceduralActionFilter

/-- What `generateRandomAttr` is for: letters and digits of base 36, and never the same twice. -/
structure FreshAttrs (randomAttr : Nat → String) (filters : List ProceduralActionFilter) :
    Prop where
  distinct : ∀ i j, randomAttr i = randomAttr j → i = j
  lowerCase : ∀ i, (randomAttr i).toLower = randomAttr i
  notClass : ∀ i, randomAttr i ≠ "class"
  notRemoved : ∀ filter ∈ filters, ∀ arg, filter.action = some (.removeAttr arg) →
    ∀ i, arg ≠ randomAttr i ∧ arg.toLower ≠ randomAttr i

namespace FilteredPage

variable {ν : Type} {b : Browser ν} {randomAttr : Nat → String}
  {filters : List ProceduralActionFilter} {before styles : List String} {s : FilteredPage ν}

/-- An element was passed to `performAction` for a style. -/
def Selected (filters : List ProceduralActionFilter) (passed : List (Nat × ν)) (style : String)
    (element : ν) : Prop :=
  ∃ position filter, filters[position]? = some filter ∧ filter.style? = some style ∧
    (position, element) ∈ passed

/-- The page may do what it likes, but for the attributes of the script. -/
def Untouched (randomAttr : Nat → String) (s : FilteredPage ν) (e : Insertion ν) : Prop :=
  ∀ element i, e.dom.bears element (randomAttr i) = s.dom.bears element (randomAttr i)

/-- The elements that bear the attributes of a style are those that were selected for it. -/
structure Styled (randomAttr : Nat → String) (filters : List ProceduralActionFilter)
    (before styles : List String) (s : FilteredPage ν) : Prop
    extends StyledPage.Interned randomAttr before styles s.toStyledPage where
  used : ∀ style, style ∈ styles ↔ ∃ element, Selected filters s.passed style element
  general : ∀ element, s.dom.bears element (randomAttr 0) = true ↔
    ∃ style, Selected filters s.passed style element
  marked : ∀ element index, s.dom.bears element (randomAttr (index + 1)) = true ↔
    ∃ style, styles[index]? = some style ∧ Selected filters s.passed style element

theorem selected_append {position : Nat} {filter : ProceduralActionFilter}
    (hfilter : filters[position]? = some filter) {passed : List (Nat × ν)} {element other : ν}
    {style : String} : Selected filters (passed ++ [(position, element)]) style other ↔
      Selected filters passed style other ∨ filter.style? = some style ∧ other = element := by
  constructor
  · rintro ⟨place, found, hfound, hstyle, hmem⟩
    rcases List.mem_append.mp hmem with hold | hnew
    · exact .inl ⟨place, found, hfound, hstyle, hold⟩
    · obtain ⟨rfl, rfl⟩ := Prod.mk.inj (List.mem_singleton.mp hnew)
      obtain rfl := Option.some.inj (hfilter.symm.trans hfound)
      exact .inr ⟨hstyle, rfl⟩
  · rintro (⟨place, found, hfound, hstyle, hmem⟩ | ⟨hstyle, rfl⟩)
    · exact ⟨place, found, hfound, hstyle, List.mem_append_left _ hmem⟩
    · exact ⟨position, filter, hfilter, hstyle, List.mem_append_right _ (by simp)⟩

theorem qualifiedName_randomAttr (hfresh : FreshAttrs randomAttr filters) (dom : Dom ν)
    (element : ν) (i : Nat) : dom.qualifiedName element (randomAttr i) = randomAttr i := by
  unfold Dom.qualifiedName
  split
  · exact hfresh.lowerCase i
  · rfl

theorem qualifiedName_class (dom : Dom ν) (element : ν) :
    dom.qualifiedName element "class" = "class" := by
  unfold Dom.qualifiedName
  split
  · decide +kernel
  · rfl

variable [DecidableEq ν]

/-- An element that gets a style bears the attribute of all styles and that of its own. -/
theorem bears_setStyle (hfresh : FreshAttrs randomAttr filters)
    (h : StyledPage.Interned randomAttr before styles s.toStyledPage) (style : String)
    (element : ν) : ∃ styles' index, styles'[index]? = some style ∧
      (styles' = styles ∨ style ∉ styles ∧ styles' = styles ++ [style]) ∧
      StyledPage.Interned randomAttr before styles'
        (s.toStyledPage.setStyle randomAttr style element) ∧
      ∀ other i,
        (s.toStyledPage.setStyle randomAttr style element).dom.bears other (randomAttr i) = true ↔
          s.dom.bears other (randomAttr i) = true ∨
            other = element ∧ (i = 0 ∨ i = index + 1) := by
  obtain ⟨styles', index, hindex, hstyles, hinterned, hattr, hattributes⟩ := h.getStyleAttr style
  refine ⟨styles', index, hindex, hstyles, ?_, ?_⟩
  · exact ⟨hinterned.nodup, hinterned.styleAttrMap, hinterned.stylesheets⟩
  · intro other i
    have hbears : (s.toStyledPage.getStyleAttr randomAttr style).1.dom.bears other (randomAttr i) =
        s.dom.bears other (randomAttr i) := by
      rw [Dom.bears, hattributes]
      rfl
    have hname : ∀ j, randomAttr j = randomAttr i ↔ i = j := fun j =>
      ⟨fun heq => (hfresh.distinct j i heq).symm, fun heq => heq ▸ rfl⟩
    rw [StyledPage.setStyle, Dom.bears_setAttribute, Dom.bears_setAttribute, hattr, hbears]
    simp only [StyledPage.globalStyleAttr, qualifiedName_randomAttr hfresh, hname,
      Bool.or_eq_true, decide_eq_true_eq, or_assoc, ← and_or_left]

theorem Styled.setStyle (hfresh : FreshAttrs randomAttr filters)
    (h : Styled randomAttr filters before styles s) {position : Nat}
    {filter : ProceduralActionFilter} (hfilter : filters[position]? = some filter) {style : String}
    (hstyle : filter.style? = some style) (element : ν) : ∃ styles',
      Styled randomAttr filters before styles'
        { toStyledPage := s.toStyledPage.setStyle randomAttr style element
          passed := s.passed ++ [(position, element)] } := by
  obtain ⟨styles', index, hindex, hstyles, hinterned, hbears⟩ :=
    bears_setStyle hfresh h.toInterned style element
  have hselected : ∀ used other, Selected filters (s.passed ++ [(position, element)]) used other ↔
      Selected filters s.passed used other ∨ used = style ∧ other = element := by
    intro used other
    rw [selected_append hfilter, hstyle, Option.some_inj, eq_comm (a := style)]
  -- A style that was in use has the place that it had.
  have hold : ∀ used other, Selected filters s.passed used other → ∀ place : Nat,
      styles'[place]? = some used ↔ styles[place]? = some used := by
    intro used other hused place
    rcases hstyles with rfl | ⟨hnew, rfl⟩
    · rfl
    · have hne : used ≠ style := fun heq => hnew (heq ▸ (h.used used).mpr ⟨other, hused⟩)
      rcases Nat.lt_or_ge place styles.length with hlt | hle
      · rw [List.getElem?_append_left hlt]
      · rw [List.getElem?_append_right hle, List.getElem?_eq_none hle, List.getElem?_singleton]
        split <;> simp [hne.symm]
  have hplace : ∀ place : Nat, styles'[place]? = some style ↔ place = index := by
    intro place
    constructor
    · intro h'
      exact (List.getElem?_inj (List.getElem?_eq_some_iff.mp h').1 hinterned.nodup).mp
        (h'.trans hindex.symm)
    · rintro rfl
      exact hindex
  refine ⟨styles', hinterned, ?_, ?_, ?_⟩
  · intro used
    have hmem : used ∈ styles' ↔ used ∈ styles ∨ used = style := by
      rcases hstyles with rfl | ⟨hnew, rfl⟩
      · exact ⟨.inl, fun h' => h'.elim id fun heq => heq ▸ List.mem_of_getElem? hindex⟩
      · simp
    rw [hmem, h.used]
    constructor
    · rintro (⟨other, hother⟩ | rfl)
      · exact ⟨other, (hselected used other).mpr (.inl hother)⟩
      · exact ⟨element, (hselected used element).mpr (.inr ⟨rfl, rfl⟩)⟩
    · rintro ⟨other, hother⟩
      rcases (hselected used other).mp hother with hbefore | ⟨hused, -⟩
      · exact .inl ⟨other, hbefore⟩
      · exact .inr hused
  · intro other
    rw [hbears, h.general]
    constructor
    · rintro (⟨used, hused⟩ | ⟨rfl, -⟩)
      · exact ⟨used, (hselected used other).mpr (.inl hused)⟩
      · exact ⟨style, (hselected style other).mpr (.inr ⟨rfl, rfl⟩)⟩
    · rintro ⟨used, hused⟩
      rcases (hselected used other).mp hused with hbefore | ⟨-, heq⟩
      · exact .inl ⟨used, hbefore⟩
      · exact .inr ⟨heq, .inl rfl⟩
  · intro other place
    rw [hbears, h.marked]
    constructor
    · rintro (⟨used, hused, hbefore⟩ | ⟨rfl, hzero | hsame⟩)
      · exact ⟨used, (hold used other hbefore place).mpr hused,
          (hselected used other).mpr (.inl hbefore)⟩
      · omega
      · obtain rfl : place = index := by omega
        exact ⟨style, hindex, (hselected style other).mpr (.inr ⟨rfl, rfl⟩)⟩
    · rintro ⟨used, hused, hnow⟩
      rcases (hselected used other).mp hnow with hbefore | ⟨rfl, heq⟩
      · exact .inl ⟨used, (hold used other hbefore place).mp hused, hbefore⟩
      · exact .inr ⟨heq, .inr (by rw [(hplace place).mp hused])⟩

omit [DecidableEq ν] in
/-- An action that gives no style leaves the attributes of the script. -/
theorem Styled.of_same_marks (h : Styled randomAttr filters before styles s) {t : StyledPage ν}
    (hattrs : t.styleAttrMap = s.styleAttrMap) (hsheets : t.dom.stylesheets = s.dom.stylesheets)
    (hbears : ∀ element i, t.dom.bears element (randomAttr i) =
      s.dom.bears element (randomAttr i)) {passed : List (Nat × ν)}
    (hpassed : ∀ style element, Selected filters passed style element ↔
      Selected filters s.passed style element) :
    Styled randomAttr filters before styles
      { toStyledPage := t
        passed := passed } where
  nodup := h.nodup
  styleAttrMap := hattrs.trans h.styleAttrMap
  stylesheets := hsheets.trans h.stylesheets
  used style := by simp only [h.used, hpassed]
  general element := by
    show t.dom.bears element (randomAttr 0) = true ↔ _
    simp only [hbears, h.general, hpassed]
  marked element index := by
    show t.dom.bears element (randomAttr (index + 1)) = true ↔ _
    simp only [hbears, h.marked, hpassed]

theorem Styled.passToPerformAction (hfresh : FreshAttrs randomAttr filters)
    (h : Styled randomAttr filters before styles s) {position : Nat}
    {filter : ProceduralActionFilter} (hfilter : filters[position]? = some filter) (element : ν) :
    ∃ styles', Styled randomAttr filters before styles'
      (s.passToPerformAction randomAttr filter position element) := by
  have hunselected : filter.style? = none → ∀ style other,
      Selected filters (s.passed ++ [(position, element)]) style other ↔
        Selected filters s.passed style other := by
    intro hnone style other
    rw [selected_append hfilter, hnone]
    simp
  unfold FilteredPage.passToPerformAction
  cases haction : filter.action with
  | none => exact h.setStyle hfresh hfilter (by rw [ProceduralActionFilter.style?, haction]) element
  | some action =>
    cases action with
    | style arg =>
      exact h.setStyle hfresh hfilter (by rw [ProceduralActionFilter.style?, haction]) element
    | remove =>
      have hnone : filter.style? = none := by rw [ProceduralActionFilter.style?, haction]
      refine ⟨styles, h.of_same_marks (t := s.toStyledPage.performAction randomAttr element
        (some .remove)) rfl ?_ ?_ (hunselected hnone)⟩
      · exact Dom.stylesheets_remove
      · intro other i
        exact Dom.bears_remove
    | removeAttr arg =>
      have hnone : filter.style? = none := by rw [ProceduralActionFilter.style?, haction]
      refine ⟨styles, h.of_same_marks (t := s.toStyledPage.performAction randomAttr element
        (some (.removeAttr arg))) rfl rfl ?_ (hunselected hnone)⟩
      intro other i
      have hkept := hfresh.notRemoved filter (List.mem_of_getElem? hfilter) arg haction i
      apply Dom.bears_removeAttribute
      unfold Dom.qualifiedName
      split
      · exact hkept.2
      · exact hkept.1
    | removeClass arg =>
      have hnone : filter.style? = none := by rw [ProceduralActionFilter.style?, haction]
      rw [StyledPage.performAction]
      split
      · refine ⟨styles, h.of_same_marks (t := { s.toStyledPage with
          dom := s.dom.removeClass element arg }) rfl rfl ?_ (hunselected hnone)⟩
        intro other i
        have hclass : s.dom.qualifiedName element "class" ≠ randomAttr i := by
          rw [qualifiedName_class]
          exact (hfresh.notClass i).symm
        rw [Dom.removeClass, Dom.bears_setAttribute]
        simp [hclass]
      · exact ⟨styles, h.of_same_marks rfl rfl (fun _ _ => rfl) (hunselected hnone)⟩

theorem Styled.applyFilter (b : Browser ν) (added : Option (List ν))
    (hfresh : FreshAttrs randomAttr filters) (h : Styled randomAttr filters before styles s)
    {position : Nat} {filter : ProceduralActionFilter}
    (hfilter : filters[position]? = some filter) : ∃ styles',
      Styled randomAttr filters before styles'
        (s.applyFilter b randomAttr added (filter, position)) := by
  unfold FilteredPage.applyFilter
  split
  · exact ⟨styles, h⟩
  · rename_i elements _
    clear * - hfresh h hfilter
    induction elements generalizing s styles with
    | nil => exact ⟨styles, h⟩
    | cons element rest ih =>
      obtain ⟨styles', hnext⟩ := h.passToPerformAction hfresh hfilter element
      exact ih hnext

theorem Styled.executeProceduralActions (hfresh : FreshAttrs randomAttr filters)
    (h : Styled randomAttr filters before styles s) (added : Option (List ν)) :
    ∃ styles', Styled randomAttr filters before styles'
      (s.executeProceduralActions b randomAttr filters added) := by
  unfold FilteredPage.executeProceduralActions
  have hentries : ∀ entry ∈ filters.zipIdx, filters[entry.2]? = some entry.1 :=
    fun entry hentry => List.mem_zipIdx_iff_getElem?.mp hentry
  generalize filters.zipIdx = entries at hentries
  induction entries generalizing s styles with
  | nil => exact ⟨styles, h⟩
  | cons entry rest ih =>
    obtain ⟨styles', hnext⟩ := h.applyFilter b added hfresh
      (hentries entry List.mem_cons_self)
    exact ih hnext fun other hother => hentries other (List.mem_cons_of_mem _ hother)

theorem Styled.onMutations (hfresh : FreshAttrs randomAttr filters)
    (h : Styled randomAttr filters before styles s) {e : Insertion ν}
    (hinserts : Insertion.Inserts s.dom e) (huntouched : Untouched randomAttr s e) :
    ∃ styles', Styled randomAttr filters before styles'
      (s.onMutations b randomAttr filters e) := by
  have hinserted : Styled randomAttr filters before styles { s with dom := e.dom } :=
    h.of_same_marks (t := { s.toStyledPage with dom := e.dom }) rfl hinserts.stylesheets huntouched
      fun _ _ => Iff.rfl
  unfold FilteredPage.onMutations
  dsimp only
  split
  · exact hinserted.executeProceduralActions hfresh _
  · exact ⟨styles, hinserted⟩

/-- A page that the script comes to. -/
structure Unstyled (randomAttr : Nat → String) (page : FilteredPage ν) : Prop where
  styleAttrMap : page.styleAttrMap = []
  passed : page.passed = []
  unmarked : ∀ element i, page.dom.bears element (randomAttr i) = false

omit [DecidableEq ν] in
theorem Unstyled.styled {page : FilteredPage ν} (h : Unstyled randomAttr page) :
    Styled randomAttr filters page.dom.stylesheets [] page where
  nodup := List.nodup_nil
  styleAttrMap := h.styleAttrMap
  stylesheets := by simp
  used style := by simp [Selected, h.passed]
  general element := by simp [Selected, h.passed, h.unmarked]
  marked element index := by simp [h.unmarked]

/-- Over the life of a page each style that was used gets one stylesheet, and the elements that the
stylesheet finds are those that were selected for the style. -/
theorem styles_on_selected (hfresh : FreshAttrs randomAttr filters) {page : FilteredPage ν}
    (hpage : Unstyled randomAttr page) {es : List (Insertion ν)}
    (run : Run ((machine b randomAttr filters).restrict (Untouched randomAttr))
      (page.executeProceduralActions b randomAttr filters none) es s) :
    ∃ styles : List String, styles.Nodup ∧
      (∀ style, style ∈ styles ↔ ∃ element, Selected filters s.passed style element) ∧
      s.dom.stylesheets =
        page.dom.stylesheets ++ styles.mapIdx (StyledPage.styleRule randomAttr) ∧
      ∀ index style, styles[index]? = some style → ∀ element,
        (s.dom.bears element (StyledPage.globalStyleAttr randomAttr) = true ∧
          s.dom.bears element (randomAttr (index + 1)) = true) ↔
        Selected filters s.passed style element := by
  obtain ⟨styles, h⟩ : ∃ styles, Styled randomAttr filters page.dom.stylesheets styles s := by
    have hstart := hpage.styled.executeProceduralActions (b := b) hfresh none
    refine run.preserves (P := fun t => ∃ styles,
      Styled randomAttr filters page.dom.stylesheets styles t) ?_ hstart
    rintro t e t' ⟨hinserts, huntouched⟩ hstep ⟨styles, hstyled⟩
    obtain rfl : t.onMutations b randomAttr filters e = t' := Except.ok.inj hstep
    exact hstyled.onMutations hfresh hinserts huntouched
  refine ⟨styles, h.nodup, h.used, h.stylesheets, ?_⟩
  intro index style hindex element
  rw [StyledPage.globalStyleAttr, h.general, h.marked]
  constructor
  · rintro ⟨-, used, hused, hselected⟩
    rw [hindex] at hused
    exact Option.some.inj hused ▸ hselected
  · intro hselected
    exact ⟨⟨style, hselected⟩, style, hindex, hselected⟩

section Pages

theorem freshAttrs_attrOfLength : FreshAttrs attrOfLength [anySpan] where
  distinct i j h := by
    simp only [attrOfLength, String.ofList_inj] at h
    have hlength := congrArg List.length h
    simp only [List.length_replicate] at hlength
    omega
  lowerCase i := by
    show (attrOfLength i).map Char.toLower = attrOfLength i
    rw [attrOfLength, String.map_eq_internal, String.toList_ofList, List.map_replicate]
    rfl
  notClass i h := by
    have hfirst := congrArg (fun text => text.toList.head?) h
    simp [attrOfLength, List.replicate_succ] at hfirst
  notRemoved filter hfilter arg haction := by
    obtain rfl := List.mem_singleton.mp hfilter
    simp [anySpan] at haction

/-- The span that comes into the div is hidden. -/
theorem styles_on_selected_span : ∃ (s : FilteredPage Nat) (styles : List String) (index : Nat),
    styles[index]? = some "display: none !important" ∧
    s.dom.stylesheets = styles.mapIdx (StyledPage.styleRule attrOfLength) ∧
    s.dom.bears 3 (StyledPage.globalStyleAttr attrOfLength) = true ∧
    s.dom.bears 3 (attrOfLength (index + 1)) = true := by
  have hinserts : (machine smallBrowser attrOfLength [anySpan]).enabled
      (emptyDiv.executeProceduralActions smallBrowser attrOfLength [anySpan] none)
      spanInsertion := by decide +kernel
  have run := Run.single (m := (machine smallBrowser attrOfLength [anySpan]).restrict
    (Untouched attrOfLength)) ⟨hinserts, fun _ _ => rfl⟩ rfl
  obtain ⟨styles, -, hused, hsheets, hmarked⟩ := styles_on_selected freshAttrs_attrOfLength
    ⟨rfl, rfl, fun _ _ => rfl⟩ run
  have hselected : Selected [anySpan] [(0, 3)] "display: none !important" 3 :=
    ⟨0, anySpan, rfl, rfl, by simp⟩
  obtain ⟨index, hindex⟩ := List.mem_iff_getElem?.mp ((hused _).mpr ⟨3, hselected⟩)
  obtain ⟨hgeneral, hown⟩ := (hmarked index _ hindex 3).mpr hselected
  exact ⟨_, styles, index, hindex, hsheets, hgeneral, hown⟩

end Pages

end FilteredPage

end ChromiumAdblock
