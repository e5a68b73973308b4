import Mathlib.Data.List.Infix
import ChromiumAdblock.Cosmetic.ProceduralSelectors

/-! The arguments of the operators as they are written: regular expressions between slashes, and a
key with a value, each with quotes or without.  The parsers of `content_cosmetic.ts` are compared
with the way such arguments are printed. -/

namespace ChromiumAdblock

/-! Regular expressions. -/

/-- `/p/f`. -/
def regExpLiteral (p f : String) : String := "/" ++ p ++ "/" ++ f

theorem toList_regExpLiteral (p f : String) :
    (regExpLiteral p f).toList = '/' :: (p.toList ++ '/' :: f.toList) := by
  simp [regExpLiteral]

/-- `value.match(new RegExp(p, f)) !== null`. -/
def matchAgainst {ν : Type} (b : Browser ν) (p f : String) : JsValue → Except JsError Bool
  | .undefined => .error (.readingUndefined "match")
  | .string value => do return (← b.regExp p (some f)) value
  | .other => do
    let _ ← b.regExp p (some f)
    .error (.typeError "value.match is not a function")

/-- A literal is read back: the regular expression is that of its pattern and flags, and each
operator that tests against the literal tests against that expression. -/
structure ReadBack (p f : String) : Prop where
  compiled {ν : Type} (b : Browser ν) : compileRegEx b (regExpLiteral p f) = b.regExp p (some f)
  tested {ν : Type} (b : Browser ν) (value : JsValue) (isExact : Bool) :
    testMatches b (regExpLiteral p f) value isExact = matchAgainst b p f value
  hasText {ν : Type} (b : Browser ν) (dom : Dom ν) (instruction : String) (element : ν) :
    extractValueFromStr instruction false 0 = .ok (regExpLiteral p f) →
    operatorHasText b dom instruction element =
      keepIf (matchAgainst b p f (b.innerText dom element)) element
  matchesPath {ν : Type} (b : Browser ν) (instruction : String) (element : ν) :
    extractValueFromStr instruction true 0 = .ok (regExpLiteral p f) →
    operatorMatchesPath b instruction element =
      keepIf (matchAgainst b p f (.string (b.pathname ++ b.search))) element
  key {ν : Type} (b : Browser ν) (rules : KeyValueMatchRules) (name : String) (value : JsValue) :
    rules.key = regExpLiteral p f →
    rules.matchesPair b name value = do
      if ← matchAgainst b p f (.string name) then
        match rules.value with
        | none => return true
        | some rule => testMatches b rule value true
      else return false
  value {ν : Type} (b : Browser ν) (rules : KeyValueMatchRules) (name : String) (value : JsValue) :
    rules.value = some (regExpLiteral p f) →
    rules.matchesPair b name value = do
      if ← testMatches b rules.key (.string name) true then matchAgainst b p f value
      else return false

theorem splitOn_regExpLiteral {p f : String} (hp : '/' ∉ p.toList) (hf : '/' ∉ f.toList) :
    (regExpLiteral p f).toList.splitOn '/' = [[], p.toList, f.toList] := by
  rw [toList_regExpLiteral]
  calc List.splitOn '/' ([] ++ '/' :: (p.toList ++ '/' :: f.toList))
      = [] :: List.splitOn '/' (p.toList ++ '/' :: f.toList) :=
        List.splitOn_append_cons_self_of_not_mem (by simp) _
    _ = [[], p.toList, f.toList] := by
        rw [List.splitOn_append_cons_self_of_not_mem hp, List.splitOn_eq_singleton hf]

theorem compileRegEx_literal {ν : Type} (b : Browser ν) {p f : String} (hp : '/' ∉ p.toList)
    (hf : '/' ∉ f.toList) : compileRegEx b (regExpLiteral p f) = b.regExp p (some f) := by
  simp [compileRegEx, splitOn_regExpLiteral hp hf, String.ofList_toList]

theorem testMatches_literal {ν : Type} (b : Browser ν) {p f : String}
    (hcompiled : compileRegEx b (regExpLiteral p f) = b.regExp p (some f)) (value : JsValue)
    (isExact : Bool) :
    testMatches b (regExpLiteral p f) value isExact = matchAgainst b p f value := by
  cases value <;> simp [testMatches, toList_regExpLiteral, matchAgainst, hcompiled]

theorem readBack_of_compiled {p f : String}
    (hcompiled : ∀ {ν : Type} (b : Browser ν),
      compileRegEx b (regExpLiteral p f) = b.regExp p (some f)) : ReadBack p f where
  compiled := hcompiled
  tested b := testMatches_literal b (hcompiled b)
  hasText b dom instruction element h := by
    simp only [operatorHasText, matchesValueRule, h]
    exact congrArg (keepIf · element) (testMatches_literal b (hcompiled b) _ false)
  matchesPath b instruction element h := by
    simp only [operatorMatchesPath, matchesValueRule, h]
    exact congrArg (keepIf · element) (testMatches_literal b (hcompiled b) _ false)
  key b rules name value h := by
    have htest := testMatches_literal b (hcompiled b) (.string name) true
    rw [← h] at htest
    rw [← htest]
    rfl
  value b rules name value h := by
    simp only [KeyValueMatchRules.matchesPair, h, testMatches_literal b (hcompiled b)]

theorem notMem_of_mem_splitOn {a : Char} {part text : List Char} (h : part ∈ text.splitOn a) :
    a ∉ part := by
  induction text generalizing part with
  | nil =>
    obtain rfl : part = [] := by simpa using h
    simp
  | cons c text ih =>
    rw [List.splitOn_cons_eq_if_modifyHead] at h
    split at h
    · rcases List.mem_cons.mp h with rfl | h
      · simp
      · exact ih h
    · rename_i hc
      cases hparts : text.splitOn a with
      | nil => exact absurd hparts (List.splitOn_ne_nil a text)
      | cons first parts =>
        rw [hparts, List.modifyHead_cons] at h
        rcases List.mem_cons.mp h with rfl | h
        · have hfirst : a ∉ first := ih (by rw [hparts]; exact List.mem_cons_self)
          exact fun hmem => (List.mem_cons.mp hmem).elim (fun e => hc (by simp [e])) hfirst
        · exact ih (by rw [hparts]; exact List.mem_cons_of_mem _ h)

/-- A browser whose regular expressions match nothing or everything: everything, if they have the
given pattern and flags. -/
def tellingBrowser (p f : String) : Browser Unit where
  isValidSelector _ := false
  matchesSelector _ _ _ _ := false
  innerText _ _ := .undefined
  entries _ _ := []
  styleValue _ _ _ _ := none
  matchMedia _ := false
  pathname := ""
  search := ""
  evaluate _ _ _ := .ok []
  regExp pattern flags := .ok fun _ => decide (pattern = p ∧ flags = some f)

/-- What `_compileRegEx` takes for the pattern and the flags has no slash. -/
theorem noSlash_of_compiled {p f : String}
    (h : compileRegEx (tellingBrowser p f) (regExpLiteral p f) =
      (tellingBrowser p f).regExp p (some f)) : '/' ∉ p.toList ∧ '/' ∉ f.toList := by
  have hsame := congrFun (Except.ok.inj h) ""
  simp only [and_self, decide_true, decide_eq_true_eq] at hsame
  obtain ⟨hp, hf⟩ := hsame
  constructor
  · rw [← hp, String.toList_ofList, List.getD_eq_getElem?_getD]
    cases hpart : ((regExpLiteral p f).toList.splitOn '/')[1]? with
    | none => simp
    | some part => exact notMem_of_mem_splitOn (List.mem_of_getElem? hpart)
  · obtain ⟨part, hpart, rfl⟩ := Option.map_eq_some_iff.mp hf
    rw [String.toList_ofList]
    exact notMem_of_mem_splitOn (List.mem_of_getElem? hpart)

/-- A literal is read back exactly when no slash is in its pattern, nor in its flags. -/
theorem readBack_iff (p f : String) : ReadBack p f ↔ '/' ∉ p.toList ∧ '/' ∉ f.toList :=
  ⟨fun h => noSlash_of_compiled (h.compiled (tellingBrowser p f)), fun h =>
    readBack_of_compiled fun b => compileRegEx_literal b h.1 h.2⟩

/-! Bodies of literals, to tell which of them have a slash. -/

/-- Where a scanner is in the body of a regular expression literal. -/
inductive RegExpMode
  | chars
  | backslash
  | charClass
  | classBackslash
deriving DecidableEq, Repr

def isLineTerminator (c : Char) : Bool := [10, 13, 0x2028, 0x2029].contains c.toNat

/-- `RegularExpressionChars`. -/
def isRegExpChars : RegExpMode → List Char → Bool
  | mode, [] => mode = .chars
  | mode, c :: rest =>
    !isLineTerminator c &&
      match mode with
      | .chars =>
        if c = '/' then false
        else isRegExpChars (if c = '\\' then .backslash else if c = '[' then .charClass else .chars)
          rest
      | .backslash => isRegExpChars .chars rest
      | .charClass =>
        isRegExpChars (if c = '\\' then .classBackslash else if c = ']' then .chars else .charClass)
          rest
      | .classBackslash => isRegExpChars .charClass rest

/-- `RegularExpressionBody`. -/
def isRegExpBody (p : String) : Bool :=
  p.toList ≠ [] && p.toList.head? ≠ some '*' && isRegExpChars .chars p.toList

/-- `/ads\/banner/i` is a literal whose pattern is taken to end at its backslash, and `/[/]x/` one
whose pattern is taken to be a bracket. -/
theorem slashes_split_literals :
    isRegExpBody "ads\\/banner" = true ∧
      (regExpLiteral "ads\\/banner" "i").toList.splitOn '/' =
        [[], "ads\\".toList, "banner".toList, "i".toList] ∧
      isRegExpBody "[/]x" = true ∧
      (regExpLiteral "[/]x" "").toList.splitOn '/' = [[], ['['], "]x".toList, []] ∧
      ¬ (∀ p f, isRegExpBody p = true → '/' ∉ f.toList → ReadBack p f) := by
  refine ⟨by decide, by decide, by decide, by decide, fun h => ?_⟩
  have hread := h "ads\\/banner" "i" (by decide) (by decide)
  exact (noSlash_of_compiled (hread.compiled (tellingBrowser _ _))).1 (by decide)

/-! Keys and values. -/

/-- A key or a value as it is written. -/
structure Quotation where
  isQuoted : Bool
  content : String
deriving DecidableEq, Repr

namespace Quotation

def print (q : Quotation) : List Char :=
  if q.isQuoted then '"' :: (q.content.toList ++ ['"']) else q.content.toList

/-- What can be written as a key. -/
def IsKey (q : Quotation) : Prop :=
  if q.isQuoted then ¬ ['"', '='] <:+: q.content.toList
  else '=' ∉ q.content.toList ∧ q.content.toList.head? ≠ some '"'

/-- What can be written as a value. -/
def IsValue (q : Quotation) : Prop :=
  q.isQuoted = false → q.content.toList.head? ≠ some '"'

instance (q : Quotation) : Decidable q.IsKey :=
  inferInstanceAs (Decidable (if q.isQuoted then _ else _))

instance (q : Quotation) : Decidable q.IsValue :=
  inferInstanceAs (Decidable (q.isQuoted = false → _))

end Quotation

/-- A key, and a value behind `=` if there is one. -/
def printRules (key : Quotation) (value : Option Quotation) : String :=
  String.ofList (key.print ++ match value with
    | none => []
    | some value => '=' :: value.print)

/-- A key starts with a quote, and no other quote ends it: none stands before `=` or at the end. -/
def OpenKey (text : List Char) : Prop :=
  ∃ rest, text = '"' :: rest ∧ ¬ ['"', '='] <:+: rest ∧ ¬ ['"'] <:+ rest

/-- A value starts with a quote, and no other quote stands at its end. -/
def OpenValue (text : List Char) : Prop :=
  ∃ (key : Quotation) (rest : List Char), key.IsKey ∧ text = key.print ++ '=' :: '"' :: rest ∧
    ¬ ['"'] <:+ rest

/-- The text, or the value in it, is one quote. -/
def LoneQuote (text : List Char) : Prop :=
  text = ['"'] ∨ ∃ key : Quotation, key.IsKey ∧ text = key.print ++ ['=', '"']

/-- A text that prints a key and a value is parsed to these, and one with an open quote is an
error. -/
def ParsedFaithfully (text : String) : Prop :=
  (∀ key value, key.IsKey → (∀ v, value = some v → v.IsValue) → text = printRules key value →
    parseKeyValueMatchRules text = .ok ⟨key.content, value.map Quotation.content⟩) ∧
  (OpenKey text.toList ∨ OpenValue text.toList →
    ∃ e, parseKeyValueMatchRules text = .error e)

namespace JsText

theorem indexOf_none {needle text : List Char} (hne : needle ≠ []) :
    indexOf needle text = none ↔ ¬ needle <:+: text := by
  induction text with
  | nil => simp [indexOf, hne]
  | cons c rest ih =>
    rw [indexOf, List.infix_cons_iff]
    by_cases hhere : needle <+: c :: rest
    · rw [if_pos (List.isPrefixOf_iff_prefix.mpr hhere)]
      simp [hhere]
    · rw [if_neg (fun h => hhere (List.isPrefixOf_iff_prefix.mp h)), Option.map_eq_none_iff, ih]
      simp [hhere]

/-- The first occurrence, when no earlier one can begin in what stands before it. -/
theorem indexOf_append {needle before rest : List Char} (hne : needle ≠ [])
    (hfirst : ∀ i < before.length, ¬ needle <+: before.drop i ++ needle ++ rest) :
    indexOf needle (before ++ needle ++ rest) = some before.length := by
  induction before with
  | nil =>
    cases needle with
    | nil => exact absurd rfl hne
    | cons c needle =>
      have hhere : c :: needle <+: c :: (needle ++ rest) := ⟨rest, rfl⟩
      rw [List.nil_append, List.cons_append, indexOf,
        if_pos (List.isPrefixOf_iff_prefix.mpr hhere)]
      rfl
  | cons c before ih =>
    have hnot : ¬ (needle.isPrefixOf (c :: (before ++ needle ++ rest)) = true) := fun h =>
      hfirst 0 (by simp) (List.isPrefixOf_iff_prefix.mp h)
    have hlater := ih fun i hi => by simpa using hfirst (i + 1) (by simpa using hi)
    show indexOf needle (c :: (before ++ needle ++ rest)) = _
    rw [indexOf, if_neg hnot, hlater]
    rfl

theorem slice_middle (before text after : List Char) :
    slice (before ++ text ++ after) before.length (before.length + text.length) = text := by
  rw [slice, List.take_left' (by simp), List.drop_left]

end JsText

/-- The end of a key that is not quoted. -/
theorem indexOf_equals {key rest : List Char} (h : '=' ∉ key) :
    JsText.indexOf ['='] (key ++ '=' :: rest) = some key.length := by
  rw [show key ++ '=' :: rest = key ++ ['='] ++ rest by simp]
  refine JsText.indexOf_append (by simp) fun i hi hstart => h ?_
  rw [List.drop_eq_getElem_cons hi, List.cons_append, List.cons_append,
    List.cons_prefix_cons] at hstart
  rw [hstart.1]
  exact List.getElem_mem hi

/-- The end of a quoted key.  Its last character can be a quote, since `=` comes after the quote
behind it. -/
theorem indexOf_quoteEquals {key rest : List Char} (h : ¬ ['"', '='] <:+: key) :
    JsText.indexOf ['"', '='] (key ++ '"' :: '=' :: rest) = some key.length := by
  rw [show key ++ '"' :: '=' :: rest = key ++ ['"', '='] ++ rest by simp]
  refine JsText.indexOf_append (by simp) fun i hi hstart => ?_
  rw [List.drop_eq_getElem_cons hi, List.cons_append, List.cons_append,
    List.cons_prefix_cons] at hstart
  obtain ⟨hquote, hstart⟩ := hstart
  by_cases hlast : i + 1 < key.length
  · rw [List.drop_eq_getElem_cons hlast, List.cons_append, List.cons_append,
      List.cons_prefix_cons] at hstart
    refine h ⟨key.take i, key.drop (i + 2), ?_⟩
    calc key.take i ++ ['"', '='] ++ key.drop (i + 2)
        = key.take i ++ key[i] :: key[i + 1] :: key.drop (i + 2) := by
          rw [← hquote, ← hstart.1]
          simp
      _ = key := by
          rw [← List.drop_eq_getElem_cons hlast, ← List.drop_eq_getElem_cons hi,
            List.take_append_drop]
  · rw [List.drop_eq_nil_of_le (by omega), List.nil_append, List.cons_append,
      List.cons_prefix_cons] at hstart
    exact absurd hstart.1 (by decide)

theorem indexOf_quoteEquals_none {key : List Char} (h : ¬ ['"', '='] <:+: key) :
    JsText.indexOf ['"', '='] (key ++ ['"']) = none := by
  refine (JsText.indexOf_none (by simp)).mpr fun hmiddle => ?_
  rcases List.infix_concat_iff.mp hmiddle with hsuffix | hmiddle
  · obtain ⟨before, hlast, -⟩ := (List.suffix_concat_iff.mp hsuffix).resolve_left (by simp)
    have heq := congrArg List.getLast? hlast
    simp at heq
  · exact h hmiddle

/-- `_extractKeyFromStr` of a text that starts with a quote. -/
theorem extractKeyFromStr_quote (rest : List Char) :
    extractKeyFromStr (String.ofList ('"' :: rest)) =
      match JsText.indexOf ['"', '='] rest with
      | some index => .ok (String.ofList (rest.take index), some (index + 3))
      | none =>
        if ('"' :: rest).getLast? != some '"' then
          .error (.error ("Quoted value '" ++ String.ofList ('"' :: rest) ++
            "' does not terminate with quote"))
        else .ok (String.ofList (rest.take (rest.length - 1)), none) := by
  simp only [extractKeyFromStr, String.toList_ofList, List.head?_cons, beq_self_eq_true, if_true,
    List.drop_succ_cons, List.drop_zero]
  cases JsText.indexOf ['"', '='] rest with
  | some index =>
    simp only [List.length_cons, List.length_nil]
    rw [show 1 + index + (0 + 1 + 1) = index + 3 by omega]
  | none => cases rest <;> simp [JsText.slice]

theorem extractKeyFromStr_plain {text : List Char} (h : text.head? ≠ some '"') :
    extractKeyFromStr (String.ofList text) =
      match JsText.indexOf ['='] text with
      | some index => .ok (String.ofList (text.take index), some (index + 1))
      | none => .ok (String.ofList text, none) := by
  have hplain : (text.head? == some '"') = false := by simpa using h
  simp only [extractKeyFromStr, String.toList_ofList, hplain, Bool.false_eq_true, if_false,
    List.drop_zero]
  cases JsText.indexOf ['='] text with
  | some index => simp
  | none => simp

/-- The key in front of a value. -/
theorem extractKeyFromStr_pair {key : Quotation} (hkey : key.IsKey) (rest : List Char) :
    extractKeyFromStr (String.ofList (key.print ++ '=' :: rest)) =
      .ok (key.content, some (key.print.length + 1)) := by
  obtain ⟨isQuoted, content⟩ := key
  cases isQuoted with
  | true =>
    have hkey : ¬ ['"', '='] <:+: content.toList := hkey
    rw [show Quotation.print ⟨true, content⟩ ++ '=' :: rest =
      '"' :: (content.toList ++ '"' :: '=' :: rest) by simp [Quotation.print],
      extractKeyFromStr_quote, indexOf_quoteEquals hkey]
    simp [Quotation.print, String.ofList_toList]
  | false =>
    obtain ⟨hequals, hhead⟩ : '=' ∉ content.toList ∧ content.toList.head? ≠ some '"' := hkey
    have hhead : (content.toList ++ '=' :: rest).head? ≠ some '"' := by
      cases hcontent : content.toList with
      | nil => simp
      | cons c cs => simpa [hcontent] using hhead
    show extractKeyFromStr (String.ofList (content.toList ++ '=' :: rest)) = _
    rw [extractKeyFromStr_plain hhead, indexOf_equals hequals]
    simp [Quotation.print, String.ofList_toList]

/-- The key without a value. -/
theorem extractKeyFromStr_only {key : Quotation} (hkey : key.IsKey) :
    extractKeyFromStr (String.ofList key.print) = .ok (key.content, none) := by
  obtain ⟨isQuoted, content⟩ := key
  cases isQuoted with
  | true =>
    have hkey : ¬ ['"', '='] <:+: content.toList := hkey
    have hlast : ('"' :: (content.toList ++ ['"'])).getLast? = some '"' := by
      rw [← List.cons_append, List.getLast?_concat]
    show extractKeyFromStr (String.ofList ('"' :: (content.toList ++ ['"']))) = _
    rw [extractKeyFromStr_quote, indexOf_quoteEquals_none hkey, hlast]
    simp [String.ofList_toList]
  | false =>
    obtain ⟨hequals, hhead⟩ : '=' ∉ content.toList ∧ content.toList.head? ≠ some '"' := hkey
    have hindex : JsText.indexOf ['='] content.toList = none :=
      (JsText.indexOf_none (by simp)).mpr (by rwa [List.singleton_infix_iff])
    show extractKeyFromStr (String.ofList content.toList) = _
    rw [extractKeyFromStr_plain hhead, hindex]
    simp [String.ofList_toList]

/-- A value behind other text. -/
theorem extractValueFromStr_print {value : Quotation} (h : value.IsValue) (before : List Char) :
    extractValueFromStr (String.ofList (before ++ value.print)) false before.length =
      .ok value.content := by
  obtain ⟨isQuoted, content⟩ := value
  cases isQuoted with
  | true =>
    have hlast : (before ++ '"' :: (content.toList ++ ['"'])).getLast? = some '"' := by
      rw [← List.cons_append, ← List.append_assoc, List.getLast?_concat]
    have hslice : JsText.slice (before ++ '"' :: (content.toList ++ ['"'])) (before.length + 1)
        (before.length + (content.toList.length + 1)) = content.toList := by
      have hmiddle := JsText.slice_middle (before ++ ['"']) content.toList ['"']
      rw [List.length_append, List.length_singleton, Nat.add_assoc, Nat.add_comm 1] at hmiddle
      simpa using hmiddle
    simp [extractValueFromStr, Quotation.print, hlast, hslice, String.ofList_toList]
  | false =>
    have hhead : content.toList.head? ≠ some '"' := h rfl
    have hat : (before ++ content.toList)[before.length]? = content.toList.head? := by
      rw [List.getElem?_append_right le_rfl, Nat.sub_self, List.head?_eq_getElem?]
    simp [extractValueFromStr, Quotation.print, hat, hhead, String.ofList_toList]

/-- A value whose quote is not closed. -/
theorem extractValueFromStr_openQuote {before rest : List Char}
    (hlast : (before ++ '=' :: '"' :: rest).getLast? ≠ some '"') :
    ∃ e, extractValueFromStr (String.ofList (before ++ '=' :: '"' :: rest)) false
      (before.length + 1) = .error e := by
  have hat : (before ++ '=' :: '"' :: rest)[before.length + 1]? = some '"' := by
    rw [List.getElem?_append_right (by omega), Nat.add_sub_cancel_left]
    rfl
  simp only [extractValueFromStr, String.toList_ofList, hat, bne_iff_ne, ne_eq, hlast]
  exact ⟨_, rfl⟩

theorem parse_key {arg key : String} (h : extractKeyFromStr arg = .ok (key, none)) :
    parseKeyValueMatchRules arg = .ok ⟨key, none⟩ := by
  rw [parseKeyValueMatchRules, h]
  rfl

theorem parse_pair {arg key : String} {position : Nat}
    (h : extractKeyFromStr arg = .ok (key, some position)) :
    parseKeyValueMatchRules arg =
      (extractValueFromStr arg false position).map fun value => ⟨key, some value⟩ := by
  rw [parseKeyValueMatchRules, h]
  cases hvalue : extractValueFromStr arg false position <;>
    simp [bind, Except.bind, pure, Except.pure, hvalue, Except.map]

theorem parse_printRules {key : Quotation} {value : Option Quotation} (hkey : key.IsKey)
    (hvalue : ∀ v, value = some v → v.IsValue) :
    parseKeyValueMatchRules (printRules key value) =
      .ok ⟨key.content, value.map Quotation.content⟩ := by
  cases value with
  | none =>
    rw [printRules, List.append_nil]
    exact parse_key (extractKeyFromStr_only hkey)
  | some value =>
    have hprint := extractValueFromStr_print (hvalue value rfl) (key.print ++ ['='])
    rw [List.append_assoc, List.length_append, List.length_singleton, List.singleton_append]
      at hprint
    show parseKeyValueMatchRules (String.ofList (key.print ++ '=' :: value.print)) = _
    rw [parse_pair (extractKeyFromStr_pair hkey value.print), hprint]
    rfl

/-- A key whose quote is open is an error, unless it is that quote alone. -/
theorem parse_openKey {rest : List Char} (hne : rest ≠ []) (hmiddle : ¬ ['"', '='] <:+: rest)
    (hsuffix : ¬ ['"'] <:+ rest) :
    ∃ e, parseKeyValueMatchRules (String.ofList ('"' :: rest)) = .error e := by
  have hlast : ('"' :: rest).getLast? ≠ some '"' := by
    rw [List.getLast?_cons_of_ne_nil hne]
    exact fun h => hsuffix (List.singleton_suffix_iff_getLast?_eq_some.mpr h)
  rw [parseKeyValueMatchRules, extractKeyFromStr_quote,
    (JsText.indexOf_none (by simp)).mpr hmiddle]
  simp only [bne_iff_ne, ne_eq, hlast, not_false_eq_true, if_true]
  exact ⟨_, rfl⟩

/-- A value whose quote is open is an error, unless it is that quote alone. -/
theorem parse_openValue {key : Quotation} {rest : List Char} (hkey : key.IsKey) (hne : rest ≠ [])
    (hsuffix : ¬ ['"'] <:+ rest) :
    ∃ e, parseKeyValueMatchRules (String.ofList (key.print ++ '=' :: '"' :: rest)) = .error e := by
  have hlast : (key.print ++ '=' :: '"' :: rest).getLast? ≠ some '"' := by
    rw [List.getLast?_append_of_ne_nil _ (by simp), List.getLast?_cons_of_ne_nil (by simp),
      List.getLast?_cons_of_ne_nil hne]
    exact fun h => hsuffix (List.singleton_suffix_iff_getLast?_eq_some.mpr h)
  obtain ⟨e, he⟩ := extractValueFromStr_openQuote hlast
  exact ⟨e, by rw [parse_pair (extractKeyFromStr_pair hkey _), he]; rfl⟩

theorem parse_loneValue {key : Quotation} (hkey : key.IsKey) :
    parseKeyValueMatchRules (String.ofList (key.print ++ ['=', '"'])) =
      .ok ⟨key.content, some ""⟩ := by
  have hvalue : extractValueFromStr (String.ofList (key.print ++ ['=', '"'])) false
      (key.print.length + 1) = .ok "" := by
    have hat : (key.print ++ ['=', '"'])[key.print.length + 1]? = some '"' := by
      rw [List.getElem?_append_right (by omega), Nat.add_sub_cancel_left]
      rfl
    have hlast : (key.print ++ ['=', '"']).getLast? = some '"' := by
      rw [List.getLast?_append_of_ne_nil _ (by simp)]
      rfl
    -- The quote is taken for the one at the end too, so that the bounds of the value cross.
    have hslice : JsText.slice (key.print ++ ['=', '"']) (key.print.length + 1 + 1)
        ((key.print ++ ['=', '"']).length - 1) = [] := by
      rw [JsText.slice, List.drop_eq_nil_of_le]
      simp
    simp only [extractValueFromStr, String.toList_ofList, hat, hlast, hslice]
    rfl
  rw [parse_pair (extractKeyFromStr_pair hkey _), hvalue]
  rfl

/-- A text is parsed as it should be exactly when neither it nor the value in it is one quote. -/
theorem parsedFaithfully_iff (text : String) :
    ParsedFaithfully text ↔ ¬ LoneQuote text.toList := by
  constructor
  · rintro ⟨-, herror⟩ hlone
    rcases hlone with hquote | ⟨key, hkey, hvalue⟩
    · obtain ⟨e, he⟩ := herror (.inl ⟨[], hquote, by simp, by simp⟩)
      rw [← String.ofList_toList (s := text), hquote] at he
      cases he
    · obtain ⟨e, he⟩ := herror (.inr ⟨key, [], hkey, hvalue, by simp⟩)
      rw [← String.ofList_toList (s := text), hvalue, parse_loneValue hkey] at he
      cases he
  · intro hlone
    refine ⟨fun key value hkey hvalue htext => ?_, ?_⟩
    · rw [htext, parse_printRules hkey hvalue]
    · rw [← String.ofList_toList (s := text), String.toList_ofList]
      rintro (⟨rest, hrest, hmiddle, hsuffix⟩ | ⟨key, rest, hkey, hrest, hsuffix⟩)
      · rw [hrest]
        exact parse_openKey (fun h => hlone (.inl (h ▸ hrest))) hmiddle hsuffix
      · rw [hrest]
        exact parse_openValue hkey (fun h => hlone (.inr ⟨key, hkey, h ▸ hrest⟩)) hsuffix

/-- A lone quote is an empty key, and a lone quote after `=` an empty value. -/
theorem lone_quotes_parsed :
    parseKeyValueMatchRules "\"" = .ok ⟨"", none⟩ ∧
      parseKeyValueMatchRules "href=\"" = .ok ⟨"href", some ""⟩ ∧
      ¬ (∀ text, ParsedFaithfully text) := by
  refine ⟨rfl, rfl, fun h => ?_⟩
  obtain ⟨e, he⟩ := (h "\"").2 (.inl ⟨[], by decide, by simp, by simp⟩)
  cases he

end ChromiumAdblock
