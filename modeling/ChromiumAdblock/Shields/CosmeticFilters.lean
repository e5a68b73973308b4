import ChromiumAdblock.Base.Utf8
import ChromiumAdblock.Lib.Lines
import ChromiumAdblock.Shields.FilterLoads

/-! Rules that a page adds to the custom filters.  The element picker of a frame sends the text of a
cosmetic filter, the browser puts the host of the frame before it, and the custom filters provider
puts the rule after the current text.  adblock-rust reads the text line by line. -/

namespace ChromiumAdblock

open Lines

abbrev LF : UInt8 := 10
abbrev CR : UInt8 := 13

/-- `url::SchemeHostPort::host()`.  A canonical host has no control characters. -/
structure CanonicalHost where
  host : List UInt8
  one_line : LF ∉ host

/-- `url::Origin`; the origin of a `file` URL is a tuple with an empty host. -/
inductive Origin
  | opaqueOrigin
  | tuple (host : CanonicalHost)

def Origin.host : Origin → List UInt8
  | opaqueOrigin => []
  | tuple host => host.host

theorem Origin.host_one_line (origin : Origin) : LF ∉ origin.host := by
  cases origin with
  | opaqueOrigin => simp [Origin.host]
  | tuple host => exact host.one_line

/-- The lines that adblock-rust reads. -/
abbrev ruleLines (text : DATFileDataBuffer) : List (List UInt8) := lines LF CR text

variable (isStringUTF8 : List UInt8 → Bool)

def isValidFilterText (selector : List UInt8) : Bool :=
  if isStringUTF8 selector = false then false
  else if selector.contains LF then false
  else true

namespace AdditionalFilters

variable (s : AdditionalFilters)

def addUserCosmeticFilter (filter : List UInt8) : AdditionalFilters :=
  s.updateCustomFilters (s.customFilters ++ utf8 "\n" ++ filter)

def createSiteExemption (host : List UInt8) : AdditionalFilters :=
  s.updateCustomFilters
    (s.customFilters ++ utf8 "\n" ++ utf8 "@@||" ++ host ++ utf8 "^$first-party\n")

/-- `AddSiteCosmeticFilter`, from a frame whose last committed origin is the given one. -/
def addSiteCosmeticFilter (origin : Origin) (filter : List UInt8) : AdditionalFilters :=
  if isValidFilterText isStringUTF8 filter then
    s.addUserCosmeticFilter (origin.host ++ utf8 "##" ++ filter)
  else s

end AdditionalFilters

/-- The text gains exactly one line, with the filter for the host of the origin, which is not empty.
-/
def GainsOwnRule (origin : Origin) (filter : List UInt8) (text text' : DATFileDataBuffer) : Prop :=
  origin.host ≠ [] ∧ ∃ kept, ruleLines text' = kept ++ [origin.host ++ utf8 "##" ++ filter] ∧
    List.Forall₂ (Kept CR) (ruleLines text) kept

namespace AdditionalFilters

variable {isStringUTF8} {s : AdditionalFilters}

@[simp] theorem updateCustomFilters_customFilters (text : DATFileDataBuffer) :
    (s.updateCustomFilters text).customFilters = text := by
  simp only [updateCustomFilters, notifyObservers, onChanged, loadFilterSetForEngine,
    finishCombinating]
  split_ifs <;> rfl

/-- A rule that is put after the custom filters is their last line, after the lines that were there
and an empty one if they were complete. -/
theorem addUserCosmeticFilter_lines {filter : List UInt8} (hline : LF ∉ filter)
    (hne : filter ≠ []) :
    ∃ kept, ruleLines (s.addUserCosmeticFilter filter).customFilters =
        kept ++ (if Complete LF s.customFilters then [[]] else []) ++ [filter] ∧
      List.Forall₂ (Kept CR) (ruleLines s.customFilters) kept := by
  obtain ⟨kept, hlines, hkept⟩ := lines_append_lf LF CR s.customFilters
  refine ⟨kept, ?_, hkept⟩
  rw [addUserCosmeticFilter, updateCustomFilters_customFilters, ← hlines,
    ← lines_of_not_mem hline hne]
  exact lines_append_lf_append s.customFilters filter

/-- An exemption is a line of its own, and leaves the custom filters complete. -/
theorem createSiteExemption_lines (origin : Origin) :
    Complete LF (s.createSiteExemption origin.host).customFilters ∧
    ∃ kept, ruleLines (s.createSiteExemption origin.host).customFilters =
        kept ++ (if Complete LF s.customFilters then [[]] else []) ++
          [utf8 "@@||" ++ origin.host ++ utf8 "^$first-party"] ∧
      List.Forall₂ (Kept CR) (ruleLines s.customFilters) kept := by
  have htext : (s.createSiteExemption origin.host).customFilters =
      s.customFilters ++ [LF] ++
        ((utf8 "@@||" ++ origin.host ++ utf8 "^$first-party") ++ [LF]) := by
    rw [createSiteExemption, updateCustomFilters_customFilters]
    simp only [List.append_assoc]
    rfl
  have hline : LF ∉ utf8 "@@||" ++ origin.host ++ utf8 "^$first-party" := by
    have hbefore : LF ∉ utf8 "@@||" := by decide
    have hafter : LF ∉ utf8 "^$first-party" := by decide
    simp [hbefore, hafter, origin.host_one_line]
  obtain ⟨kept, hlines, hkept⟩ := lines_append_lf LF CR s.customFilters
  rw [htext]
  refine ⟨.inr ?_, kept, ?_, hkept⟩
  · rw [← List.append_assoc]
    exact List.getLast?_concat
  rw [ruleLines, lines_append_lf_append, hlines, lines_terminated hline]
  have hstrip : stripSuffix CR (utf8 "@@||" ++ origin.host ++ utf8 "^$first-party") = none := by
    rw [stripSuffix, List.getLast?_append_of_ne_nil _ (by decide), if_neg (by decide)]
  rw [hstrip]
  rfl

theorem one_line_of_isValidFilterText {selector : List UInt8}
    (h : isValidFilterText isStringUTF8 selector = true) : LF ∉ selector := by
  rw [isValidFilterText] at h
  split_ifs at h with hutf8 hnewline
  simpa using hnewline

theorem addSiteCosmeticFilter_lines (origin : Origin) {filter : List UInt8}
    (hvalid : isValidFilterText isStringUTF8 filter = true) :
    ∃ kept, ruleLines (s.addSiteCosmeticFilter isStringUTF8 origin filter).customFilters =
        kept ++ (if Complete LF s.customFilters then [[]] else []) ++
          [origin.host ++ utf8 "##" ++ filter] ∧
      List.Forall₂ (Kept CR) (ruleLines s.customFilters) kept := by
  rw [addSiteCosmeticFilter, if_pos hvalid]
  have hmarker : LF ∉ utf8 "##" := by decide
  apply addUserCosmeticFilter_lines
  · simp [hmarker, origin.host_one_line, one_line_of_isValidFilterText hvalid]
  · have hne : utf8 "##" ≠ [] := by decide
    simp [hne]

theorem addSiteCosmeticFilter_ne (origin : Origin) {filter : List UInt8}
    (hvalid : isValidFilterText isStringUTF8 filter = true) :
    (s.addSiteCosmeticFilter isStringUTF8 origin filter).customFilters ≠ s.customFilters := by
  rw [addSiteCosmeticFilter, if_pos hvalid, addUserCosmeticFilter,
    updateCustomFilters_customFilters, List.append_assoc]
  intro hsame
  have hlength := congrArg List.length hsame
  have hnewline : (utf8 "\n").length = 1 := by decide
  simp only [List.length_append, hnewline] at hlength
  omega

theorem gainsOwnRule_iff (origin : Origin) {filter : List UInt8}
    (hvalid : isValidFilterText isStringUTF8 filter = true) :
    GainsOwnRule origin filter s.customFilters
        (s.addSiteCosmeticFilter isStringUTF8 origin filter).customFilters ↔
      origin.host ≠ [] ∧ ¬Complete LF s.customFilters := by
  obtain ⟨kept, hlines, hkept⟩ := addSiteCosmeticFilter_lines (s := s) origin hvalid
  constructor
  · rintro ⟨hhost, kept', hlines', hkept'⟩
    refine ⟨hhost, ?_⟩
    -- An empty line between would be one line too many.
    intro hcomplete
    rw [hlines, if_pos hcomplete] at hlines'
    have hlength := congrArg List.length hlines'
    have hkeptLength := hkept.length_eq
    have hkeptLength' := hkept'.length_eq
    simp only [List.length_append, List.length_singleton] at hlength
    omega
  · rintro ⟨hhost, hincomplete⟩
    refine ⟨hhost, kept, ?_, hkept⟩
    rw [hlines, if_neg hincomplete, List.append_nil]

/-- A page gains one line for its own site, or changes nothing, exactly if its filter is refused, or
its host is not empty and the custom filters do not end with a line feed.  In any case the lines are
those that were there, an empty one if the custom filters were complete, and the one of the filter.
-/
theorem own_rule_gained_iff (isStringUTF8 : List UInt8 → Bool) (s : AdditionalFilters)
    (origin : Origin) (filter : List UInt8) :
    ((s.addSiteCosmeticFilter isStringUTF8 origin filter).customFilters = s.customFilters ∨
        GainsOwnRule origin filter s.customFilters
          (s.addSiteCosmeticFilter isStringUTF8 origin filter).customFilters ↔
      isValidFilterText isStringUTF8 filter = false ∨
        origin.host ≠ [] ∧ s.customFilters ≠ [] ∧ s.customFilters.getLast? ≠ some LF) ∧
    (isValidFilterText isStringUTF8 filter = false ∨
      ∃ kept, ruleLines (s.addSiteCosmeticFilter isStringUTF8 origin filter).customFilters =
          kept ++ (if Complete LF s.customFilters then [[]] else []) ++
            [origin.host ++ utf8 "##" ++ filter] ∧
        List.Forall₂ (Kept CR) (ruleLines s.customFilters) kept) := by
  cases hvalid : isValidFilterText isStringUTF8 filter with
  | false => simp [addSiteCosmeticFilter, hvalid]
  | true =>
    refine ⟨?_, .inr (addSiteCosmeticFilter_lines origin hvalid)⟩
    have hchanged := addSiteCosmeticFilter_ne (s := s) origin hvalid
    rw [or_iff_right hchanged, gainsOwnRule_iff origin hvalid, Complete, not_or]
    simp

/-- Custom filters with one rule. -/
def oneRule : AdditionalFilters := init (utf8 "a.com##.ad") fun _ => []

def isAscii (text : List UInt8) : Bool := text.all (· < 128)

/-- A frame with an opaque origin adds a rule for every site. -/
theorem generic_rule_added :
    ruleLines (oneRule.addSiteCosmeticFilter isAscii .opaqueOrigin (utf8 ".post")).customFilters =
      [utf8 "a.com##.ad", utf8 "##.post"] ∧
    (oneRule.addSiteCosmeticFilter isAscii .opaqueOrigin (utf8 ".post")).customFilters ≠
      oneRule.customFilters ∧
    ¬GainsOwnRule .opaqueOrigin (utf8 ".post") oneRule.customFilters
      (oneRule.addSiteCosmeticFilter isAscii .opaqueOrigin (utf8 ".post")).customFilters := by
  refine ⟨by decide, by decide, ?_⟩
  rintro ⟨hhost, -⟩
  exact hhost rfl

end AdditionalFilters

end ChromiumAdblock
