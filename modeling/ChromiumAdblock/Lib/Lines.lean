import Mathlib.Data.List.Basic
import Mathlib.Data.List.Forall2

/-! Texts as lines.  A line ends with a line feed, with or without a carriage return before it, or
with the text; a carriage return elsewhere belongs to its line.  The rules here say what a text that
is put after another one does to the lines. -/

namespace Lines

variable {α : Type}

section Complete

variable (lf cr : α)

/-- The text is empty or ends with a line feed. -/
def Complete (text : List α) : Prop := text = [] ∨ text.getLast? = some lf

/-- A line stays as it is, up to a carriage return at its end. -/
def Kept (old new : List α) : Prop := new = old ∨ old = new ++ [cr]

variable {lf}

theorem complete_append_iff {front last : List α} (hfront : Complete lf front) (hlast : lf ∉ last) :
    Complete lf (front ++ last) ↔ last = [] := by
  constructor
  · rintro (hnil | hend)
    · exact (List.append_eq_nil_iff.mp hnil).2
    · by_contra hne
      rw [List.getLast?_append_of_ne_nil _ hne] at hend
      exact hlast (List.mem_of_getLast? hend)
  · rintro rfl
    rw [List.append_nil]
    exact hfront

end Complete

variable [DecidableEq α]

/-- The text without its last element, if that is the given one. -/
def stripSuffix (a : α) (text : List α) : Option (List α) :=
  if text.getLast? = some a then some text.dropLast else none

/-- The pieces of a text that end with `sep`, with the rest as the last piece. -/
def splitInclusive (sep : α) : List α → List (List α)
  | [] => []
  | a :: rest =>
    if a = sep then [a] :: splitInclusive sep rest
    else
      match splitInclusive sep rest with
      | [] => [[a]]
      | piece :: pieces => (a :: piece) :: pieces

variable (lf cr : α)

instance (text : List α) : Decidable (Complete lf text) :=
  inferInstanceAs (Decidable (text = [] ∨ text.getLast? = some lf))

def lineOf (piece : List α) : List α :=
  match stripSuffix lf piece with
  | none => piece
  | some line => (stripSuffix cr line).getD line

def lines (text : List α) : List (List α) := (splitInclusive lf text).map (lineOf lf cr)

variable {lf cr} {sep : α} {text line : List α}

theorem stripSuffix_concat (a : α) (text : List α) : stripSuffix a (text ++ [a]) = some text := by
  simp [stripSuffix]

theorem stripSuffix_of_not_mem {a : α} (h : a ∉ text) : stripSuffix a text = none := by
  rw [stripSuffix, if_neg]
  intro hlast
  exact h (List.mem_of_getLast? hlast)

theorem stripSuffix_eq_some {a : α} {rest : List α} (h : stripSuffix a text = some rest) :
    text = rest ++ [a] := by
  rw [stripSuffix] at h
  split at h
  · rename_i hlast
    obtain ⟨front, rfl⟩ := List.getLast?_eq_some_iff.mp hlast
    simpa using h
  · contradiction

theorem splitInclusive_ne_nil (h : text ≠ []) : splitInclusive sep text ≠ [] := by
  cases text with
  | nil => exact absurd rfl h
  | cons a rest =>
    rw [splitInclusive]
    split
    · simp
    · split
      · simp
      · simp

theorem splitInclusive_append_sep (xs ys : List α) :
    splitInclusive sep (xs ++ [sep] ++ ys) =
      splitInclusive sep (xs ++ [sep]) ++ splitInclusive sep ys := by
  induction xs with
  | nil => simp [splitInclusive]
  | cons a rest ih =>
    simp only [List.cons_append, splitInclusive]
    by_cases ha : a = sep
    · rw [if_pos ha, if_pos ha, ih]
      rfl
    · rw [if_neg ha, if_neg ha, ih]
      -- The piece that `a` joins is one of the first text.
      have hne : splitInclusive sep (rest ++ [sep]) ≠ [] := splitInclusive_ne_nil (by simp)
      cases hpieces : splitInclusive sep (rest ++ [sep]) with
      | nil => exact absurd hpieces hne
      | cons piece pieces => rfl

theorem splitInclusive_of_not_mem (h : sep ∉ text) (hne : text ≠ []) :
    splitInclusive sep text = [text] := by
  induction text with
  | nil => exact absurd rfl hne
  | cons a rest ih =>
    obtain ⟨ha, hrest⟩ := List.ne_and_not_mem_of_not_mem_cons h
    rw [splitInclusive, if_neg (Ne.symm ha)]
    by_cases hnil : rest = []
    · subst hnil
      rfl
    · rw [ih hrest hnil]

theorem Complete.lines_append (h : Complete lf text) (rest : List α) :
    lines lf cr (text ++ rest) = lines lf cr text ++ lines lf cr rest := by
  obtain rfl | hlast := h
  · rfl
  · obtain ⟨front, rfl⟩ := List.getLast?_eq_some_iff.mp hlast
    rw [lines, splitInclusive_append_sep, List.map_append]
    rfl

/-- The last line of a text, if the text does not end with a line feed. -/
theorem exists_lastLine (lf : α) (text : List α) :
    ∃ front last, text = front ++ last ∧ Complete lf front ∧ lf ∉ last := by
  induction text with
  | nil => exact ⟨[], [], rfl, .inl rfl, by simp⟩
  | cons a rest ih =>
    obtain ⟨front, last, rfl, hfront, hlast⟩ := ih
    obtain rfl | hend := hfront
    · by_cases ha : a = lf
      · exact ⟨[a], last, rfl, .inr (by simp [ha]), hlast⟩
      · refine ⟨[], a :: last, rfl, .inl rfl, ?_⟩
        simp [hlast, Ne.symm ha]
    · obtain ⟨front', rfl⟩ := List.getLast?_eq_some_iff.mp hend
      refine ⟨a :: (front' ++ [lf]), last, rfl, .inr ?_, hlast⟩
      exact List.getLast?_concat (l := a :: front')

theorem lines_of_not_mem (h : lf ∉ text) (hne : text ≠ []) : lines lf cr text = [text] := by
  rw [lines, splitInclusive_of_not_mem h hne]
  simp [lineOf, stripSuffix_of_not_mem h]

theorem lines_terminated (h : lf ∉ text) :
    lines lf cr (text ++ [lf]) = [(stripSuffix cr text).getD text] := by
  have hpieces : splitInclusive lf (text ++ [lf]) = [text ++ [lf]] := by
    induction text with
    | nil => simp [splitInclusive]
    | cons a rest ih =>
      obtain ⟨ha, hrest⟩ := List.ne_and_not_mem_of_not_mem_cons h
      rw [List.cons_append, splitInclusive, if_neg (Ne.symm ha), ih hrest]
  rw [lines, hpieces]
  simp [lineOf, stripSuffix_concat]

theorem kept_stripSuffix (cr : α) (text : List α) :
    Kept cr text ((stripSuffix cr text).getD text) := by
  cases h : stripSuffix cr text with
  | none => exact .inl rfl
  | some rest => exact .inr (stripSuffix_eq_some h)

/-- A line feed after a text ends its last line; where the text was complete, it makes an empty one.
-/
theorem lines_append_lf (lf cr : α) (text : List α) :
    ∃ kept, lines lf cr (text ++ [lf]) = kept ++ (if Complete lf text then [[]] else []) ∧
      List.Forall₂ (Kept cr) (lines lf cr text) kept := by
  obtain ⟨front, last, rfl, hfront, hlast⟩ := exists_lastLine lf text
  have hkept : List.Forall₂ (Kept cr) (lines lf cr front) (lines lf cr front) :=
    List.forall₂_same.mpr fun _ _ => .inl rfl
  rw [List.append_assoc, hfront.lines_append, hfront.lines_append, lines_terminated hlast]
  by_cases hnil : last = []
  · subst hnil
    rw [if_pos ((complete_append_iff hfront hlast).mpr rfl)]
    refine ⟨lines lf cr front, by simp [stripSuffix], ?_⟩
    simpa [lines, splitInclusive] using hkept
  · rw [if_neg (mt (complete_append_iff hfront hlast).mp hnil), lines_of_not_mem hlast hnil]
    refine ⟨lines lf cr front ++ [(stripSuffix cr last).getD last], by simp, ?_⟩
    exact List.rel_append hkept (.cons (kept_stripSuffix cr last) .nil)

/-- What is put after a text and a line feed has its own lines. -/
theorem lines_append_lf_append (text rest : List α) :
    lines lf cr (text ++ [lf] ++ rest) = lines lf cr (text ++ [lf]) ++ lines lf cr rest := by
  have hcomplete : Complete lf (text ++ [lf]) := .inr (by simp)
  exact hcomplete.lines_append rest

end Lines
