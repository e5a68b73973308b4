import ChromiumAdblock.Cosmetic.SelectorQueries

/-! Every id and class is queried once, and none is forgotten. -/

namespace ChromiumAdblock

open EventMachine SendOnce

namespace SelectorQueries

variable {ν : Type} {config : SelectorsConfig} {dom : Dom ν} {s t : SelectorQueries ν}

/-- Each id and each class was noted once, and was passed on or waits. -/
structure NamesKept (s : SelectorQueries ν) : Prop where
  ids : s.ids.Kept
  classes : s.classes.Kept

theorem NamesKept.of_eq (h : NamesKept s) (hids : t.ids = s.ids)
    (hclasses : t.classes = s.classes) :
    NamesKept t where
  ids := hids ▸ h.ids
  classes := hclasses ▸ h.classes

theorem NamesKept.queueElementIdAndClasses (h : NamesKept s) (element : ν) :
    NamesKept (s.queueElementIdAndClasses dom element) where
  ids := by
    unfold SelectorQueries.queueElementIdAndClasses
    show (if dom.id element = "" then s.ids else s.ids.note (dom.id element)).Kept
    split
    · exact h.ids
    · exact h.ids.note _
  classes := h.classes.noteAll _

theorem NamesKept.queueElements (h : NamesKept s) (elements : List ν) :
    NamesKept (s.queueElements dom elements) := by
  induction elements generalizing s with
  | nil => exact h
  | cons element elements ih => exact ih (h.queueElementIdAndClasses element)

theorem NamesKept.fetchNewClassIdRules (h : NamesKept s) :
    NamesKept (s.fetchNewClassIdRules dom) := by
  have hqueued : NamesKept (s.queueElements dom s.notYetQueriedElements.flatten) :=
    h.queueElements _
  unfold SelectorQueries.fetchNewClassIdRules
  simp only
  split
  · exact hqueued.of_eq rfl rfl
  · exact ⟨hqueued.ids.send, hqueued.classes.send⟩

theorem queueAddedNode_names (dom : Dom ν) (s : SelectorQueries ν × Nat) (node : ν) :
    (queueAddedNode dom s node).1.ids = s.1.ids ∧
      (queueAddedNode dom s node).1.classes = s.1.classes := by
  unfold queueAddedNode
  split
  · exact ⟨rfl, rfl⟩
  · simp only
    split <;> exact ⟨rfl, rfl⟩

theorem queueAttrsFromMutation_kept {s : SelectorQueries ν × Nat} (h : NamesKept s.1)
    (mutation : MutationRecord ν) : NamesKept (queueAttrsFromMutation dom s mutation).1 := by
  unfold queueAttrsFromMutation
  split
  · exact ⟨h.ids, h.classes.noteAll _⟩
  · exact ⟨h.ids.note _, h.classes⟩
  · exact h
  · rename_i addedNodes
    induction addedNodes generalizing s with
    | nil => exact h
    | cons node addedNodes ih =>
      obtain ⟨hids, hclasses⟩ := queueAddedNode_names dom s node
      exact ih (h.of_eq hids hclasses)

theorem queueAttrsFromMutations_kept {s : SelectorQueries ν × Nat} (h : NamesKept s.1)
    (mutations : List (MutationRecord ν)) :
    NamesKept (mutations.foldl (queueAttrsFromMutation dom) s).1 := by
  induction mutations generalizing s with
  | nil => exact h
  | cons mutation mutations ih => exact ih (queueAttrsFromMutation_kept h mutation)

theorem checkMutationScore_names (config : SelectorsConfig) (m : Moment ν)
    (observer mutationScore : Nat) :
    (s.checkMutationScore config m observer mutationScore).ids = s.ids ∧
      (s.checkMutationScore config m observer mutationScore).classes = s.classes := by
  have hscore : (s.addMutationScore m.performanceNow mutationScore).ids = s.ids ∧
      (s.addMutationScore m.performanceNow mutationScore).classes = s.classes := by
    unfold addMutationScore
    split <;> exact ⟨rfl, rfl⟩
  unfold checkMutationScore
  split
  · exact ⟨rfl, rfl⟩
  · simp only
    split <;> exact hscore

theorem shouldThrottle_names (config : SelectorsConfig) (s : SelectorQueries ν) (now : ℚ) :
    (s.shouldThrottleFetchNewClassIdsRules config now).1.ids = s.ids ∧
      (s.shouldThrottleFetchNewClassIdsRules config now).1.classes = s.classes := by
  unfold shouldThrottleFetchNewClassIdsRules
  split
  · exact ⟨rfl, rfl⟩
  · split
    · exact ⟨rfl, rfl⟩
    · simp only
      split <;> exact ⟨rfl, rfl⟩

theorem NamesKept.fetchUnlessThrottled (h : NamesKept s) (m : Moment ν) :
    NamesKept (s.fetchUnlessThrottled config m) := by
  unfold SelectorQueries.fetchUnlessThrottled
  split
  · exact h
  · obtain ⟨hids, hclasses⟩ := shouldThrottle_names config s m.performanceNow
    have hkept := h.of_eq hids hclasses
    split
    · rename_i s' hthrottle
      rw [hthrottle] at hkept
      exact hkept
    · rename_i s' hthrottle
      rw [hthrottle] at hkept
      exact (hkept.of_eq rfl rfl : NamesKept (s'.logExecution _ _)).fetchNewClassIdRules

theorem NamesKept.onMutations (h : NamesKept s) (m : Moment ν)
    (mutations : List (MutationRecord ν)) (observer : Nat) :
    NamesKept (s.onMutations config m mutations observer) := by
  unfold SelectorQueries.onMutations queueAttrsFromMutations
  have hqueued : NamesKept (mutations.foldl (queueAttrsFromMutation m.dom) (s, 0)).1 :=
    queueAttrsFromMutations_kept (s := (s, 0)) h mutations
  apply NamesKept.fetchUnlessThrottled
  obtain ⟨hids, hclasses⟩ := checkMutationScore_names (s := _) config m observer _
  exact hqueued.of_eq hids hclasses

theorem NamesKept.queryAttrsFromDocument (h : NamesKept s) (m : Moment ν) (time : Option ℚ) :
    NamesKept (s.queryAttrsFromDocument m time) := by
  have hqueried : NamesKept (if m.generichide then s
      else (s.queueElements m.dom
        (m.dom.all.filter m.dom.classIdWithoutHtmlOrBody)).fetchNewClassIdRules m.dom) := by
    split
    · exact h
    · exact (h.queueElements _).fetchNewClassIdRules
  unfold SelectorQueries.queryAttrsFromDocument
  cases time with
  | none => exact hqueried
  | some time =>
    simp only
    split
    · exact hqueried.of_eq rfl rfl
    · exact hqueried

theorem NamesKept.step (h : NamesKept s) (e : SelectorEvent ν) : NamesKept (s.step config e) := by
  suffices hhandled : NamesKept (s.handle config e) from hhandled.of_eq rfl rfl
  cases e with
  | startObserving m => exact (h.queryAttrsFromDocument m none).of_eq rfl rfl
  | onMutations m mutations observer => exact h.onMutations m mutations observer
  | timeout m id =>
    apply NamesKept.fetchNewClassIdRules
    exact h.of_eq rfl rfl
  | pollingTick m interval => exact h.queryAttrsFromDocument m (some interval.futureTimeMs)

theorem run_namesKept {loadTime : ℚ} {es : List (SelectorEvent ν)}
    (run : Run (machine config) (loaded loadTime) es s) : NamesKept s := by
  refine run.preserves ?_ ⟨Ledger.kept_empty, Ledger.kept_empty⟩
  intro s e s' _ step h
  obtain rfl := Except.ok.inj step
  exact h.step e

/-! What the names of a document come to. -/

/-- The names of an element are noted. -/
def Noted (dom : Dom ν) (s : SelectorQueries ν) (element : ν) : Prop :=
  (dom.id element ≠ "" → dom.id element ∈ s.ids.noted) ∧
    ∀ className ∈ dom.classList element, className ∈ s.classes.noted

theorem queueElementIdAndClasses_noted (s : SelectorQueries ν) (element : ν) :
    Noted dom (s.queueElementIdAndClasses dom element) element := by
  constructor
  · intro hid
    show dom.id element ∈ (if dom.id element = "" then s.ids
      else s.ids.note (dom.id element)).noted
    rw [if_neg hid]
    exact Ledger.mem_note _ _
  · intro className hclass
    exact Ledger.mem_noteAll
      (by simpa using And.intro hclass (dom.ne_empty_of_mem_classList hclass))

theorem noted_queueElementIdAndClasses {element : ν} (h : Noted dom s element) (other : ν) :
    Noted dom (s.queueElementIdAndClasses dom other) element := by
  constructor
  · intro hid
    show dom.id element ∈ (if dom.id other = "" then s.ids else s.ids.note (dom.id other)).noted
    split
    · exact h.1 hid
    · exact Ledger.noted_note (h.1 hid)
  · intro className hclass
    exact Ledger.noted_noteAll _ (h.2 className hclass)

theorem noted_queueElements {element : ν} (h : Noted dom s element) (elements : List ν) :
    Noted dom (s.queueElements dom elements) element := by
  induction elements generalizing s with
  | nil => exact h
  | cons other elements ih => exact ih (noted_queueElementIdAndClasses h other)

theorem queueElements_noted {element : ν} {elements : List ν} (h : element ∈ elements) :
    Noted dom (s.queueElements dom elements) element := by
  induction elements generalizing s with
  | nil => simp at h
  | cons other elements ih =>
    rcases List.mem_cons.mp h with rfl | h
    · exact noted_queueElements (queueElementIdAndClasses_noted s _) elements
    · exact ih h

theorem fetchNewClassIdRules_noted {element : ν} (h : Noted dom s element) :
    Noted dom (s.fetchNewClassIdRules dom) element := by
  have hqueued := noted_queueElements h s.notYetQueriedElements.flatten
  unfold fetchNewClassIdRules
  simp only
  split <;> exact hqueued

theorem fetchNewClassIdRules_waiting (dom : Dom ν) (s : SelectorQueries ν) :
    (s.fetchNewClassIdRules dom).ids.waiting = [] ∧
      (s.fetchNewClassIdRules dom).classes.waiting = [] := by
  unfold fetchNewClassIdRules
  simp only
  split
  · rename_i hnone
    exact ⟨hnone.2, hnone.1⟩
  · exact ⟨rfl, rfl⟩

/-- An element with an id or a class is found by the selector, unless it is html or body. -/
theorem classIdWithoutHtmlOrBody_of_named {element : ν} (hplain : dom.isHtmlOrBody element = false)
    (hnamed : dom.id element ≠ "" ∨ dom.classList element ≠ []) :
    dom.classIdWithoutHtmlOrBody element = true := by
  have hattribute : ((dom.getAttribute element "id").isSome ||
      (dom.getAttribute element "class").isSome) = true := by
    rcases hnamed with hid | hclass
    · rw [dom.hasId_of_id_ne hid, Bool.true_or]
    · obtain ⟨className, hmem⟩ := List.exists_mem_of_ne_nil _ hclass
      rw [dom.hasClass_of_mem_classList hmem, Bool.or_true]
  rw [Dom.classIdWithoutHtmlOrBody, hattribute, hplain]
  rfl

theorem queryAttrsFromDocument_names (m : Moment ν) (time : Option ℚ)
    (hgeneric : m.generichide = false) :
    (s.queryAttrsFromDocument m time).ids = ((s.queueElements m.dom
      (m.dom.all.filter m.dom.classIdWithoutHtmlOrBody)).fetchNewClassIdRules m.dom).ids ∧
    (s.queryAttrsFromDocument m time).classes = ((s.queueElements m.dom
      (m.dom.all.filter m.dom.classIdWithoutHtmlOrBody)).fetchNewClassIdRules m.dom).classes := by
  unfold queryAttrsFromDocument
  rw [hgeneric]
  cases time with
  | none => exact ⟨rfl, rfl⟩
  | some time =>
    simp only
    split <;> exact ⟨rfl, rfl⟩

/-- After a query of the document the names of its elements were passed on. -/
theorem queryAttrsFromDocument_sends (h : NamesKept s) {m : Moment ν} (time : Option ℚ)
    (hgeneric : m.generichide = false) {element : ν} (hmem : element ∈ m.dom.all)
    (hplain : m.dom.isHtmlOrBody element = false) :
    (m.dom.id element ≠ "" → m.dom.id element ∈ (s.queryAttrsFromDocument m time).ids.sent) ∧
      ∀ className ∈ m.dom.classList element,
        className ∈ (s.queryAttrsFromDocument m time).classes.sent := by
  obtain ⟨hids, hclasses⟩ := queryAttrsFromDocument_names (s := s) m time hgeneric
  have hkept : NamesKept ((s.queueElements m.dom
      (m.dom.all.filter m.dom.classIdWithoutHtmlOrBody)).fetchNewClassIdRules m.dom) :=
    (h.queueElements _).fetchNewClassIdRules
  obtain ⟨hidsSent, hclassesSent⟩ := fetchNewClassIdRules_waiting m.dom
    (s.queueElements m.dom (m.dom.all.filter m.dom.classIdWithoutHtmlOrBody))
  have hnoted : m.dom.id element ≠ "" ∨ m.dom.classList element ≠ [] →
      Noted m.dom ((s.queueElements m.dom
        (m.dom.all.filter m.dom.classIdWithoutHtmlOrBody)).fetchNewClassIdRules m.dom) element := by
    intro hnamed
    apply fetchNewClassIdRules_noted
    apply queueElements_noted
    exact List.mem_filter.mpr ⟨hmem, classIdWithoutHtmlOrBody_of_named hplain hnamed⟩
  rw [hids, hclasses]
  constructor
  · intro hid
    exact hkept.ids.sent_of_noted hidsSent ((hnoted (.inl hid)).1 hid)
  · intro className hclass
    exact hkept.classes.sent_of_noted hclassesSent
      ((hnoted (.inr (List.ne_nil_of_mem hclass))).2 className hclass)

/-- In every run, each id and class was noted once, and was passed to the browser or waits; and a
query of the document passes on the names of all its elements. -/
theorem names_queried_once {loadTime : ℚ} {es : List (SelectorEvent ν)}
    (run : Run (machine config) (loaded loadTime) es s) :
    (s.ids.sent ++ s.ids.waiting).Nodup ∧ s.ids.sent ++ s.ids.waiting = s.ids.noted ∧
    (s.classes.sent ++ s.classes.waiting).Nodup ∧
    s.classes.sent ++ s.classes.waiting = s.classes.noted ∧
    ∀ (m : Moment ν) (time : Option ℚ), m.generichide = false → ∀ element ∈ m.dom.all,
      m.dom.isHtmlOrBody element = false →
      (m.dom.id element ≠ "" → m.dom.id element ∈ (s.queryAttrsFromDocument m time).ids.sent) ∧
      ∀ className ∈ m.dom.classList element,
        className ∈ (s.queryAttrsFromDocument m time).classes.sent := by
  have h := run_namesKept run
  refine ⟨?_, h.ids.accounted, ?_, h.classes.accounted, ?_⟩
  · rw [h.ids.accounted]
    exact h.ids.nodup
  · rw [h.classes.accounted]
    exact h.classes.nodup
  · intro m time hgeneric element hmem hplain
    exact queryAttrsFromDocument_sends h time hgeneric hmem hplain

/-- A page of the elements `1`, with an id and two classes, and `2`, with one of these classes. -/
def smallPage : Dom Nat where
  nodeType _ := 1
  localName _ := "div"
  isHTMLElement _ := true
  attributes
    | 1 => [("id", "ad"), ("class", "wide top")]
    | _ => [("class", "top")]
  parentNode _ := none
  children _ := []
  descendants _ := []
  all := [1, 2]
  depth _ := 0
  depth_parent := nofun

def smallPageAt (time : ℚ) : Moment Nat where
  dom := smallPage
  performanceNow := time
  dateNow := time

/-- The script starts on the page, and an element is added while observing. -/
theorem smallPage_queried : ∃ s : SelectorQueries Nat,
    Run (machine {}) (loaded 0) [.startObserving (smallPageAt 1),
      .onMutations (smallPageAt 2) [.childList [2]] 1] s ∧
    s.ids.sent = ["ad"] ∧ s.classes.sent = ["wide", "top"] ∧
    (s.classes.sent ++ s.classes.waiting).Nodup := by
  obtain ⟨s, run, hs⟩ := Machine.exists_run (machine {}) (loaded 0)
    [.startObserving (smallPageAt 1), .onMutations (smallPageAt 2) [.childList [2]] 1]
    (fun s => s.ids.sent = ["ad"] && s.classes.sent = ["wide", "top"]) (by decide +kernel)
  obtain ⟨hids, hclasses⟩ := (Bool.and_eq_true _ _).mp hs
  exact ⟨s, run, of_decide_eq_true hids, of_decide_eq_true hclasses,
    (names_queried_once run).2.2.1⟩

end SelectorQueries

end ChromiumAdblock
