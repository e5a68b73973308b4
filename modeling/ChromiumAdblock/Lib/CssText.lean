import Mathlib.Data.List.Basic
import Mathlib.Data.String.Basic

/-! The text of CSS selectors, as far as they are compound selectors of a type, ids, classes,
attributes, and `:nth-of-type`, joined by `>`.  A text is read in three passes: escapes become
characters that stand for themselves, characters become tokens, and tokens selectors.  What
`CSS.escape` writes is read back as one name, with U+FFFD for U+0000. -/

namespace Css

/-- A character of a text whose escapes are resolved: one that was written plainly, or one that an
escape stands for. -/
inductive Mark
  | raw (c : Char)
  | lit (c : Char)
deriving DecidableEq, Repr

def Mark.char : Mark → Char
  | .raw c | .lit c => c

def replacement : Char := Char.ofNat 0xFFFD

/-- `name code point`. -/
def isNameChar (c : Char) : Bool := c.isAlphanum || c == '-' || c == '_' || 128 ≤ c.toNat

/-- `name-start code point`. -/
def isNameStart (c : Char) : Bool := isNameChar c && !c.isDigit && c != '-'

def Mark.isName : Mark → Bool
  | .raw c => isNameChar c
  | .lit _ => true

def Mark.isNameStart : Mark → Bool
  | .raw c => Css.isNameStart c
  | .lit _ => true

section Escape

def isControl (c : Char) : Bool := (1 ≤ c.toNat && c.toNat ≤ 31) || c.toNat == 127

/-- The lowercase hexadecimal digits of a number below 256. -/
def hexDigits (n : Nat) : List Char :=
  if n < 16 then [n.digitChar] else [(n / 16).digitChar, (n % 16).digitChar]

/-- A character of a name, where digits may have to be escaped too. -/
def escapeChar (escapeDigit : Bool) (c : Char) : List Char :=
  if c.toNat = 0 then [replacement]
  else if isControl c || (escapeDigit && c.isDigit) then '\\' :: (hexDigits c.toNat ++ [' '])
  else if isNameChar c then [c]
  else ['\\', c]

/-- `CSS.escape`. -/
def escape : List Char → List Char
  | [] => []
  | ['-'] => ['\\', '-']
  | '-' :: c :: rest => '-' :: (escapeChar true c ++ rest.flatMap (escapeChar false))
  | c :: rest => escapeChar true c ++ rest.flatMap (escapeChar false)

/-- What an escaped character is read as. -/
def readChar (c : Char) : Char := if c.toNat = 0 then replacement else c

def markChar (escapeDigit : Bool) (c : Char) : Mark :=
  if c.toNat = 0 then .raw replacement
  else if isControl c || (escapeDigit && c.isDigit) then .lit c
  else if isNameChar c then .raw c
  else .lit c

/-- An escaped name, with its escapes resolved. -/
def nameMarks : List Char → List Mark
  | [] => []
  | ['-'] => [.lit '-']
  | '-' :: c :: rest => .raw '-' :: markChar true c :: rest.map (markChar false)
  | c :: rest => markChar true c :: rest.map (markChar false)

end Escape

section Resolve

/-- Where a reader is in an escape. -/
inductive EscapeMode
  | plain
  | backslash
  | hex (value digits : Nat)

def hexValue (c : Char) : Option Nat :=
  if c.isDigit then some (c.toNat - 48)
  else if 97 ≤ c.toNat ∧ c.toNat ≤ 102 then some (c.toNat - 87)
  else if 65 ≤ c.toNat ∧ c.toNat ≤ 70 then some (c.toNat - 55)
  else none

def isSpace (c : Char) : Bool := c == ' ' || c == '\n' || c == '\t'

/-- The character with a code point, or U+FFFD for one that no character has. -/
def codePoint (n : Nat) : Char :=
  if n = 0 ∨ 0x10FFFF < n ∨ (0xD800 ≤ n ∧ n ≤ 0xDFFF) then replacement else Char.ofNat n

/-- The escapes are resolved: a backslash stands before one to six hexadecimal digits and a white
space, or before another character. -/
def resolve : EscapeMode → List Char → List Mark
  | .plain, [] => []
  | .backslash, [] => [.lit replacement]
  | .hex value _, [] => [.lit (codePoint value)]
  | .plain, c :: rest => if c = '\\' then resolve .backslash rest else .raw c :: resolve .plain rest
  | .backslash, c :: rest =>
    match hexValue c with
    | some digit => resolve (.hex digit 1) rest
    | none =>
      if c = '\n' then .raw '\\' :: .raw c :: resolve .plain rest
      else .lit c :: resolve .plain rest
  | .hex value digits, c :: rest =>
    match hexValue c with
    | some digit =>
      if digits < 6 then resolve (.hex (value * 16 + digit) (digits + 1)) rest
      else .lit (codePoint value) :: .raw c :: resolve .plain rest
    | none =>
      if isSpace c then .lit (codePoint value) :: resolve .plain rest
      else if c = '\\' then .lit (codePoint value) :: resolve .backslash rest
      else .lit (codePoint value) :: .raw c :: resolve .plain rest

theorem hexValue_digitChar {n : Nat} (h : n < 16) : hexValue n.digitChar = some n := by
  have hall : ∀ n < 16, hexValue n.digitChar = some n := by decide
  exact hall n h

theorem hexValue_space : hexValue ' ' = none := rfl

theorem resolve_hex {n : Nat} (hpos : 0 < n) (hlt : n < 256) (rest : List Char) :
    resolve .plain ('\\' :: (hexDigits n ++ [' ']) ++ rest) =
      .lit (Char.ofNat n) :: resolve .plain rest := by
  have hpoint : codePoint n = Char.ofNat n := if_neg (by omega)
  by_cases hsmall : n < 16
  · simp [hexDigits, hsmall, resolve, hexValue_digitChar hsmall, hexValue_space, isSpace, hpoint]
  · have hhigh : n / 16 < 16 := by omega
    have hlow : n % 16 < 16 := by omega
    have hvalue : n / 16 * 16 + n % 16 = n := by omega
    simp [hexDigits, hsmall, resolve, hexValue_digitChar hhigh, hexValue_digitChar hlow,
      hexValue_space, isSpace, hvalue, hpoint]

theorem isDigit_le {c : Char} (h : c.isDigit = true) : c.toNat ≤ 57 :=
  (Char.isDigit_iff_toNat.mp h).2

/-- A letter or a digit can stand in a name. -/
theorem isNameChar_of_alphanum {c : Char}
    (h : c.isUpper = true ∨ c.isLower = true ∨ c.isDigit = true) : isNameChar c = true := by
  show ((((c.isUpper || c.isLower) || c.isDigit) || c == '-') || c == '_' || _) = true
  rcases h with h | h | h <;> simp [h]

theorem isNameChar_of_hexValue {c : Char} (h : (hexValue c).isSome = true) :
    isNameChar c = true := by
  apply isNameChar_of_alphanum
  unfold hexValue at h
  split at h
  · rename_i hdigit
    exact .inr (.inr hdigit)
  · split at h
    · rename_i hlower
      refine .inr (.inl ?_)
      show (decide (97 ≤ c.val) && decide (c.val ≤ 122)) = true
      rw [Bool.and_eq_true, decide_eq_true_eq, decide_eq_true_eq, UInt32.le_iff_toNat_le,
        UInt32.le_iff_toNat_le]
      exact ⟨hlower.1, hlower.2.trans (by decide)⟩
    · split at h
      · rename_i hupper
        refine .inl ?_
        show decide (65 ≤ c.val ∧ c.val ≤ 90) = true
        rw [decide_eq_true_eq, UInt32.le_iff_toNat_le, UInt32.le_iff_toNat_le]
        exact ⟨hupper.1, hupper.2.trans (by decide)⟩
      · cases h

/-- What an escaped character is resolved to. -/
theorem resolve_escapeChar (escapeDigit : Bool) (c : Char) (rest : List Char) :
    resolve .plain (escapeChar escapeDigit c ++ rest) =
      markChar escapeDigit c :: resolve .plain rest := by
  unfold escapeChar markChar
  split
  · rw [List.singleton_append, resolve, if_neg (by decide)]
  · rename_i hzero
    split
    · rename_i hcode
      have hlt : c.toNat < 256 := by
        simp only [isControl, Bool.or_eq_true, Bool.and_eq_true, decide_eq_true_eq,
          beq_iff_eq] at hcode
        rcases hcode with (⟨-, hle⟩ | heq) | ⟨-, hdigit⟩
        · omega
        · omega
        · have := isDigit_le hdigit
          omega
      rw [resolve_hex (by omega) hlt, Char.ofNat_toNat]
    · rename_i hcode
      split
      · rename_i hname
        have hne : c ≠ '\\' := by
          rintro rfl
          exact absurd hname (by decide)
        rw [List.singleton_append, resolve, if_neg hne]
      · rename_i hname
        have hhex : hexValue c = none := by
          cases hvalue : hexValue c with
          | none => rfl
          | some digit => exact absurd (isNameChar_of_hexValue (by simp [hvalue])) hname
        have hline : c ≠ '\n' := by
          rintro rfl
          exact absurd hcode (by cases escapeDigit <;> decide)
        simp [resolve, hhex, hline]

theorem resolve_flatMap (text rest : List Char) :
    resolve .plain (text.flatMap (escapeChar false) ++ rest) =
      text.map (markChar false) ++ resolve .plain rest := by
  induction text with
  | nil => rfl
  | cons c text ih =>
    rw [List.flatMap_cons, List.append_assoc, resolve_escapeChar, ih]
    rfl

/-- An escaped name stands for its characters. -/
theorem resolve_escape (name rest : List Char) :
    resolve .plain (escape name ++ rest) = nameMarks name ++ resolve .plain rest := by
  fun_cases escape name with
  | case1 => rfl
  | case2 => simp [nameMarks, resolve, show hexValue '-' = none from rfl]
  | case3 c text =>
    show resolve .plain
      ('-' :: ((escapeChar true c ++ text.flatMap (escapeChar false)) ++ rest)) = _
    rw [resolve, if_neg (by decide), List.append_assoc, resolve_escapeChar, resolve_flatMap]
    rfl
  | case4 c text =>
    rw [List.append_assoc, resolve_escapeChar, resolve_flatMap]
    simp [nameMarks]

end Resolve

section Tokens

inductive Token
  /-- A name, or a number. -/
  | name (marks : List Mark)
  | text (value : List Char)
  | delim (c : Char)
  | space
  /-- A line ends in a string. -/
  | badText
deriving DecidableEq, Repr

/-- Where a tokenizer is: in a name or in a string, with what it has read of it, last first. -/
inductive TokenMode
  | plain
  | name (marks : List Mark)
  | text (value : List Char)

/-- The tokens that are complete when the text ends. -/
def TokenMode.finish : TokenMode → List Token
  | .plain => []
  | .name marks => [.name marks.reverse]
  | .text value => [.text value.reverse]

/-- A mark outside of names and strings. -/
def startToken (m : Mark) : List Token × TokenMode :=
  if m.isName then ([], .name [m])
  else if m = .raw '"' then ([], .text [])
  else if m = .raw ' ' then ([.space], .plain)
  else ([.delim m.char], .plain)

def tokenStep : TokenMode → Mark → List Token × TokenMode
  | .plain, m => startToken m
  | .name marks, m =>
    if m.isName then ([], .name (m :: marks))
    else (.name marks.reverse :: (startToken m).1, (startToken m).2)
  | .text value, m =>
    if m = .raw '"' then ([.text value.reverse], .plain)
    else if m = .raw '\n' then ([.badText], .plain)
    else ([], .text (m.char :: value))

def tokens : TokenMode → List Mark → List Token
  | mode, [] => mode.finish
  | mode, m :: marks => (tokenStep mode m).1 ++ tokens (tokenStep mode m).2 marks

/-- What comes does not continue a name. -/
def EndsName (marks : List Mark) : Prop := ∀ m ∈ marks.head?, m.isName = false

theorem endsName_nil : EndsName [] := by simp [EndsName]

theorem endsName_cons {m : Mark} {marks : List Mark} (h : m.isName = false) :
    EndsName (m :: marks) := by
  simpa [EndsName] using h

theorem tokens_endsName {read rest : List Mark} (h : EndsName rest) :
    tokens (.name read) rest = .name read.reverse :: tokens .plain rest := by
  cases rest with
  | nil => rfl
  | cons m rest =>
    have hm : m.isName = false := h m rfl
    simp [tokens, tokenStep, hm]

theorem tokens_inName {r marks rest : List Mark} (hmarks : ∀ m ∈ marks, m.isName = true)
    (hrest : EndsName rest) :
    tokens (.name r) (marks ++ rest) = .name (r.reverse ++ marks) :: tokens .plain rest := by
  induction marks generalizing r with
  | nil => simpa using tokens_endsName hrest
  | cons m marks ih =>
    have hm : m.isName = true := hmarks m List.mem_cons_self
    rw [List.cons_append, tokens, tokenStep, if_pos hm, List.nil_append,
      ih fun m' h => hmarks m' (List.mem_cons_of_mem _ h)]
    simp

/-- A name is one token. -/
theorem tokens_name {marks rest : List Mark} (hne : marks ≠ [])
    (hmarks : ∀ m ∈ marks, m.isName = true) (hrest : EndsName rest) :
    tokens .plain (marks ++ rest) = .name marks :: tokens .plain rest := by
  cases marks with
  | nil => exact absurd rfl hne
  | cons m marks =>
    have hm : m.isName = true := hmarks m List.mem_cons_self
    have hname := tokens_inName (r := [m]) (fun m' h => hmarks m' (List.mem_cons_of_mem _ h)) hrest
    rw [List.cons_append, tokens, tokenStep, startToken, if_pos hm]
    exact hname

/-- What a string cannot hold as it is. -/
def EndsText (m : Mark) : Prop := m = .raw '"' ∨ m = .raw '\n'

theorem tokens_inText {value : List Char} {marks rest : List Mark}
    (hmarks : ∀ m ∈ marks, ¬ EndsText m) :
    tokens (.text value) (marks ++ .raw '"' :: rest) =
      .text (value.reverse ++ marks.map Mark.char) :: tokens .plain rest := by
  induction marks generalizing value with
  | nil => simp [tokens, tokenStep]
  | cons m marks ih =>
    obtain ⟨hquote, hline⟩ := not_or.mp (hmarks m List.mem_cons_self)
    rw [List.cons_append, tokens, tokenStep, if_neg hquote, if_neg hline, List.nil_append,
      ih fun m' h => hmarks m' (List.mem_cons_of_mem _ h)]
    simp

/-- A string is one token. -/
theorem tokens_text {marks rest : List Mark} (hmarks : ∀ m ∈ marks, ¬ EndsText m) :
    tokens .plain (.raw '"' :: (marks ++ .raw '"' :: rest)) =
      .text (marks.map Mark.char) :: tokens .plain rest :=
  tokens_inText hmarks

theorem tokens_delim {c : Char} (hname : isNameChar c = false) (hquote : c ≠ '"')
    (hspace : c ≠ ' ') (rest : List Mark) :
    tokens .plain (.raw c :: rest) = .delim c :: tokens .plain rest := by
  simp [tokens, tokenStep, startToken, Mark.isName, hname, hquote, hspace, Mark.char]

end Tokens

section Names

theorem isName_markChar (escapeDigit : Bool) (c : Char) :
    (markChar escapeDigit c).isName = true := by
  unfold markChar
  split
  · decide
  · split
    · rfl
    · split
      · assumption
      · rfl

theorem char_markChar (escapeDigit : Bool) (c : Char) :
    (markChar escapeDigit c).char = readChar c := by
  unfold markChar readChar
  split
  · rfl
  · split
    · rfl
    · split <;> rfl

theorem isNameStart_markChar {c : Char} (h : c ≠ '-') : (markChar true c).isNameStart = true := by
  unfold markChar
  split
  · decide
  · split
    · rfl
    · rename_i hcode
      split
      · rename_i hname
        obtain ⟨-, hdigit⟩ : isControl c = false ∧ c.isDigit = false := by simpa using hcode
        simp [Mark.isNameStart, isNameStart, hname, hdigit, h]
      · rfl

/-- Marks that a name can start with. -/
def isIdent : List Mark → Bool
  | [] => false
  | [m] => m.isNameStart
  | m :: next :: _ => m.isNameStart || (m = .raw '-' && (next.isNameStart || next = .raw '-'))

/-- The last case of a name. -/
theorem ne_dash {c : Char} {rest : List Char} (hlone : c = '-' → rest = [] → False)
    (hdash : ∀ d rest', c = '-' → rest = d :: rest' → False) : c ≠ '-' := by
  rintro rfl
  cases rest with
  | nil => exact hlone rfl rfl
  | cons d rest => exact hdash d rest rfl rfl

theorem nameMarks_cons {c : Char} {rest : List Char} (h : c ≠ '-') :
    nameMarks (c :: rest) = markChar true c :: rest.map (markChar false) := by
  cases rest <;> simp [nameMarks, h]

theorem nameMarks_ne_nil {name : List Char} (h : name ≠ []) : nameMarks name ≠ [] := by
  fun_cases nameMarks name <;> simp_all

theorem isName_of_mem_nameMarks {name : List Char} {m : Mark} (h : m ∈ nameMarks name) :
    m.isName = true := by
  have hmap : ∀ rest : List Char, m ∈ rest.map (markChar false) → m.isName = true := by
    intro rest hm
    obtain ⟨c, -, rfl⟩ := List.mem_map.mp hm
    exact isName_markChar false c
  fun_cases nameMarks name with
  | case1 => simp [nameMarks] at h
  | case2 =>
    obtain rfl : m = .lit '-' := by simpa [nameMarks] using h
    rfl
  | case3 c rest =>
    rcases List.mem_cons.mp h with rfl | h
    · decide
    · rcases List.mem_cons.mp h with rfl | h
      · exact isName_markChar true c
      · exact hmap rest h
  | case4 c rest hlone hdash =>
    rw [nameMarks_cons (ne_dash hlone hdash)] at h
    rcases List.mem_cons.mp h with rfl | h
    · exact isName_markChar true c
    · exact hmap rest h

theorem char_nameMarks (name : List Char) :
    (nameMarks name).map Mark.char = name.map readChar := by
  fun_cases nameMarks name with
  | case1 => rfl
  | case2 => rfl
  | case3 c rest =>
    have hdash : readChar '-' = '-' := rfl
    simp only [List.map_cons, List.map_map, Function.comp_def, char_markChar, hdash]
    rfl
  | case4 c rest => simp [char_markChar, Function.comp_def]

theorem isIdent_nameMarks {name : List Char} (h : name ≠ []) : isIdent (nameMarks name) = true := by
  fun_cases nameMarks name with
  | case1 => exact absurd rfl h
  | case2 => rfl
  | case3 c rest =>
    by_cases hc : c = '-'
    · subst hc
      have hdash : markChar true '-' = .raw '-' := rfl
      simp [isIdent, hdash]
    · simp [isIdent, isNameStart_markChar hc]
  | case4 c rest hlone hdash =>
    cases rest <;> simp [isIdent, isNameStart_markChar (ne_dash hlone hdash)]

end Names

section Selectors

inductive AttributeMatch
  | equals
  | startsWith
  | contains
deriving DecidableEq, Repr

inductive Simple
  | id (name : String)
  | cls (name : String)
  | attr (name : String) (relation : AttributeMatch) (value : String)
  | nthOfType (index : Nat)
deriving DecidableEq, Repr

/-- A compound selector: a type, if there is one, and simple selectors. -/
structure Compound where
  type : Option String
  simples : List Simple
deriving DecidableEq, Repr

def textOf (marks : List Mark) : String := String.ofList (marks.map Mark.char)

/-- The number that unescaped digits write. -/
def numberOf (marks : List Mark) : Option Nat :=
  if marks.all fun m => m = .raw m.char && m.char.isDigit then
    some (Nat.ofDigitChars 10 (marks.map Mark.char) 0)
  else none

def nthOfTypeName : List Char := "nth-of-type".toList

def parseSimples : List Token → Option (List Simple)
  | [] => some []
  | .delim '#' :: .name name :: rest =>
    if isIdent name then (parseSimples rest).map (.id (textOf name) :: ·) else none
  | .delim '.' :: .name name :: rest =>
    if isIdent name then (parseSimples rest).map (.cls (textOf name) :: ·) else none
  | .delim '[' :: .name name :: .delim '=' :: .text value :: .delim ']' :: rest =>
    if isIdent name then
      (parseSimples rest).map (.attr (textOf name) .equals (String.ofList value) :: ·)
    else none
  | .delim '[' :: .name name :: .delim '^' :: .delim '=' :: .text value :: .delim ']' :: rest =>
    if isIdent name then
      (parseSimples rest).map (.attr (textOf name) .startsWith (String.ofList value) :: ·)
    else none
  | .delim '[' :: .name name :: .delim '*' :: .delim '=' :: .text value :: .delim ']' :: rest =>
    if isIdent name then
      (parseSimples rest).map (.attr (textOf name) .contains (String.ofList value) :: ·)
    else none
  | .delim ':' :: .name name :: .delim '(' :: .name number :: .delim ')' :: rest =>
    if textOf name = String.ofList nthOfTypeName then
      (numberOf number).bind fun index => (parseSimples rest).map (.nthOfType index :: ·)
    else none
  | _ => none

def parseCompound : List Token → Option Compound
  | [] => none
  | .name name :: rest =>
    if isIdent name then (parseSimples rest).map (⟨some (textOf name), ·⟩) else none
  | tokens => (parseSimples tokens).map (⟨none, ·⟩)

def trimSpace (tokens : List Token) : List Token :=
  ((tokens.dropWhile (· = .space)).reverse.dropWhile (· = .space)).reverse

/-- The compound selectors of a text, in the order in which `>` joins them. -/
def parse (text : String) : Option (List Compound) :=
  ((tokens .plain (resolve .plain text.toList)).splitOn (.delim '>')).mapM fun group =>
    parseCompound (trimSpace group)

/-- What a name or a string is read as when it was escaped. -/
def readName (name : String) : String := String.ofList (name.toList.map readChar)

def AttributeMatch.print : AttributeMatch → List Char
  | .equals => ['=']
  | .startsWith => ['^', '=']
  | .contains => ['*', '=']

namespace Simple

def print : Simple → List Char
  | .id name => '#' :: escape name.toList
  | .cls name => '.' :: escape name.toList
  | .attr name relation value =>
    '[' :: (escape name.toList ++ (relation.print ++ '"' :: (escape value.toList ++ ['"', ']'])))
  | .nthOfType index => ':' :: (nthOfTypeName ++ '(' :: (Nat.toDigits 10 index ++ [')']))

def read : Simple → Simple
  | .id name => .id (readName name)
  | .cls name => .cls (readName name)
  | .attr name relation value => .attr (readName name) relation (readName value)
  | .nthOfType index => .nthOfType index

/-- Its names are not empty. -/
def WellFormed : Simple → Prop
  | .id name | .cls name | .attr name _ _ => name ≠ ""
  | .nthOfType _ => True

def marks : Simple → List Mark
  | .id name => .raw '#' :: nameMarks name.toList
  | .cls name => .raw '.' :: nameMarks name.toList
  | .attr name relation value =>
    .raw '[' :: (nameMarks name.toList ++ (relation.print.map .raw ++
      .raw '"' :: (nameMarks value.toList ++ [.raw '"', .raw ']'])))
  | .nthOfType index =>
    .raw ':' :: (nthOfTypeName.map .raw ++
      .raw '(' :: ((Nat.toDigits 10 index).map .raw ++ [.raw ')']))

def toTokens : Simple → List Token
  | .id name => [.delim '#', .name (nameMarks name.toList)]
  | .cls name => [.delim '.', .name (nameMarks name.toList)]
  | .attr name relation value =>
    .delim '[' :: .name (nameMarks name.toList) :: (relation.print.map .delim ++
      [.text (value.toList.map readChar), .delim ']'])
  | .nthOfType index =>
    [.delim ':', .name (nthOfTypeName.map .raw), .delim '(',
      .name ((Nat.toDigits 10 index).map .raw), .delim ')']

end Simple

end Selectors

section RoundTrip

theorem resolve_plain {text : List Char} (h : '\\' ∉ text) (rest : List Char) :
    resolve .plain (text ++ rest) = text.map .raw ++ resolve .plain rest := by
  induction text with
  | nil => rfl
  | cons c text ih =>
    rw [List.mem_cons, not_or] at h
    rw [List.cons_append, resolve, if_neg (Ne.symm h.1), ih h.2]
    rfl

theorem resolve_cons {c : Char} (h : c ≠ '\\') (rest : List Char) :
    resolve .plain (c :: rest) = .raw c :: resolve .plain rest := by
  rw [resolve, if_neg h]

theorem isDigit_of_mem_toDigits {index : Nat} {c : Char} (h : c ∈ Nat.toDigits 10 index) :
    c.isDigit = true :=
  Nat.isDigit_of_mem_toDigits (by decide) (by decide) h

theorem backslash_notMem_toDigits (index : Nat) : '\\' ∉ Nat.toDigits 10 index :=
  fun h => absurd (isDigit_of_mem_toDigits h) (by decide)

theorem resolve_simple (simple : Simple) (rest : List Char) :
    resolve .plain (simple.print ++ rest) = simple.marks ++ resolve .plain rest := by
  cases simple with
  | id name =>
    show resolve .plain ('#' :: (escape name.toList ++ rest)) = _
    rw [resolve_cons (by decide), resolve_escape]
    rfl
  | cls name =>
    show resolve .plain ('.' :: (escape name.toList ++ rest)) = _
    rw [resolve_cons (by decide), resolve_escape]
    rfl
  | attr name relation value =>
    have hrelation : '\\' ∉ relation.print := by cases relation <;> decide
    simp only [Simple.print, Simple.marks, List.cons_append, List.append_assoc, List.nil_append]
    rw [resolve_cons (by decide), resolve_escape, resolve_plain hrelation,
      resolve_cons (by decide), resolve_escape, resolve_cons (by decide), resolve_cons (by decide)]
  | nthOfType index =>
    have hname : '\\' ∉ nthOfTypeName := by decide
    simp only [Simple.print, Simple.marks, List.cons_append, List.append_assoc, List.nil_append]
    rw [resolve_cons (by decide), resolve_plain hname, resolve_cons (by decide),
      resolve_plain (backslash_notMem_toDigits index), resolve_cons (by decide)]

theorem not_endsText_of_mem_nameMarks {name : List Char} {m : Mark} (h : m ∈ nameMarks name) :
    ¬ EndsText m := by
  rintro (rfl | rfl)
  · exact absurd (isName_of_mem_nameMarks h) (by decide)
  · exact absurd (isName_of_mem_nameMarks h) (by decide)

theorem toList_ne_nil {name : String} (h : name ≠ "") : name.toList ≠ [] := by
  simpa using h

theorem endsName_simple (simple : Simple) (rest : List Mark) : EndsName (simple.marks ++ rest) := by
  cases simple <;> exact endsName_cons (by decide)

theorem tokens_escaped {name : String} {rest : List Mark} (h : name ≠ "") (hrest : EndsName rest) :
    tokens .plain (nameMarks name.toList ++ rest) =
      .name (nameMarks name.toList) :: tokens .plain rest :=
  tokens_name (nameMarks_ne_nil (toList_ne_nil h)) (fun _ hm => isName_of_mem_nameMarks hm) hrest

theorem tokens_relation (relation : AttributeMatch) (rest : List Mark) :
    tokens .plain (relation.print.map .raw ++ rest) =
      relation.print.map .delim ++ tokens .plain rest := by
  cases relation <;> rfl

theorem tokens_simple {simple : Simple} {rest : List Mark} (h : simple.WellFormed)
    (hrest : EndsName rest) :
    tokens .plain (simple.marks ++ rest) = simple.toTokens ++ tokens .plain rest := by
  cases simple with
  | id name =>
    show tokens .plain (.raw '#' :: (nameMarks name.toList ++ rest)) = _
    rw [tokens_delim (by decide) (by decide) (by decide), tokens_escaped h hrest]
    rfl
  | cls name =>
    show tokens .plain (.raw '.' :: (nameMarks name.toList ++ rest)) = _
    rw [tokens_delim (by decide) (by decide) (by decide), tokens_escaped h hrest]
    rfl
  | attr name relation value =>
    have hends : ∀ rest, EndsName (relation.print.map Mark.raw ++ rest) := by
      intro rest
      cases relation <;> exact endsName_cons (by decide)
    simp only [Simple.marks, Simple.toTokens, List.cons_append, List.append_assoc, List.nil_append]
    rw [tokens_delim (by decide) (by decide) (by decide), tokens_escaped h (hends _),
      tokens_relation, tokens_text fun m hm => not_endsText_of_mem_nameMarks hm, char_nameMarks,
      tokens_delim (by decide) (by decide) (by decide)]
  | nthOfType index =>
    have hname : ∀ m ∈ nthOfTypeName.map Mark.raw, m.isName = true := by decide
    have hdigits : ∀ m ∈ (Nat.toDigits 10 index).map Mark.raw, m.isName = true := by
      intro m hm
      obtain ⟨c, hc, rfl⟩ := List.mem_map.mp hm
      simp [Mark.isName, isNameChar, Char.isAlphanum, isDigit_of_mem_toDigits hc]
    simp only [Simple.marks, Simple.toTokens, List.cons_append, List.append_assoc, List.nil_append]
    rw [tokens_delim (by decide) (by decide) (by decide),
      tokens_name (by decide) hname (endsName_cons (by decide)),
      tokens_delim (by decide) (by decide) (by decide),
      tokens_name (by simp [Nat.toDigits_ne_nil]) hdigits (endsName_cons (by decide)),
      tokens_delim (by decide) (by decide) (by decide)]

theorem map_char_raw (text : List Char) : (text.map Mark.raw).map Mark.char = text := by
  induction text with
  | nil => rfl
  | cons c text ih => exact congrArg (c :: ·) ih

/-- A name without U+0000 is read as it is. -/
theorem readName_eq {name : String} (h : ∀ c ∈ name.toList, c.toNat ≠ 0) :
    readName name = name := by
  have hmap : name.toList.map readChar = name.toList.map fun c => c :=
    List.map_congr_left fun c hc => if_neg (h c hc)
  rw [readName, hmap, List.map_id', String.ofList_toList]

/-- What is escaped without a backslash is read as it is written. -/
theorem map_readChar_of_escape {name text : List Char} (h : escape name = text)
    (hplain : '\\' ∉ text) : name.map readChar = text := by
  have hresolve := resolve_escape name []
  have htext := resolve_plain hplain []
  simp only [List.append_nil, resolve] at hresolve htext
  rw [h, htext] at hresolve
  rw [← char_nameMarks, ← hresolve, map_char_raw]

theorem textOf_nameMarks (name : String) : textOf (nameMarks name.toList) = readName name := by
  rw [textOf, char_nameMarks, readName]

theorem isIdent_escaped {name : String} (h : name ≠ "") : isIdent (nameMarks name.toList) = true :=
  isIdent_nameMarks (toList_ne_nil h)

theorem numberOf_toDigits (index : Nat) :
    numberOf ((Nat.toDigits 10 index).map .raw) = some index := by
  have hdigits : ((Nat.toDigits 10 index).map Mark.raw).all
      (fun m => m = .raw m.char && m.char.isDigit) = true := by
    rw [List.all_eq_true]
    intro m hm
    obtain ⟨c, hc, rfl⟩ := List.mem_map.mp hm
    simp [Mark.char, isDigit_of_mem_toDigits hc]
  rw [numberOf, if_pos hdigits, map_char_raw, Nat.ofDigitChars_ten_toDigits]

/-- The tokens of a simple selector are parsed to it, with its names as they are read. -/
theorem parseSimples_simple {simple : Simple} (h : simple.WellFormed) (rest : List Token) :
    parseSimples (simple.toTokens ++ rest) = (parseSimples rest).map (simple.read :: ·) := by
  cases simple with
  | id name =>
    show parseSimples (.delim '#' :: .name (nameMarks name.toList) :: rest) = _
    rw [parseSimples, if_pos (isIdent_escaped h), textOf_nameMarks]
    rfl
  | cls name =>
    show parseSimples (.delim '.' :: .name (nameMarks name.toList) :: rest) = _
    rw [parseSimples, if_pos (isIdent_escaped h), textOf_nameMarks]
    rfl
  | attr name relation value =>
    have hident : isIdent (nameMarks name.toList) = true := isIdent_escaped h
    cases relation
    · show parseSimples (.delim '[' :: .name (nameMarks name.toList) :: .delim '=' ::
        .text (value.toList.map readChar) :: .delim ']' :: rest) = _
      rw [parseSimples, if_pos hident, textOf_nameMarks]
      rfl
    · show parseSimples (.delim '[' :: .name (nameMarks name.toList) :: .delim '^' :: .delim '=' ::
        .text (value.toList.map readChar) :: .delim ']' :: rest) = _
      rw [parseSimples, if_pos hident, textOf_nameMarks]
      rfl
    · show parseSimples (.delim '[' :: .name (nameMarks name.toList) :: .delim '*' :: .delim '=' ::
        .text (value.toList.map readChar) :: .delim ']' :: rest) = _
      rw [parseSimples, if_pos hident, textOf_nameMarks]
      rfl
  | nthOfType index =>
    have hname : textOf (nthOfTypeName.map .raw) = String.ofList nthOfTypeName := by
      rw [textOf, map_char_raw]
    show parseSimples (.delim ':' :: .name (nthOfTypeName.map .raw) :: .delim '(' ::
      .name ((Nat.toDigits 10 index).map .raw) :: .delim ')' :: rest) = _
    rw [parseSimples, if_pos hname, numberOf_toDigits]
    rfl

end RoundTrip

section Chains

namespace Compound

def print (c : Compound) : List Char :=
  (c.type.map fun type => escape type.toList).getD [] ++ c.simples.flatMap Simple.print

def read (c : Compound) : Compound where
  type := c.type.map readName
  simples := c.simples.map Simple.read

structure WellFormed (c : Compound) : Prop where
  type : c.type ≠ some ""
  simples : ∀ simple ∈ c.simples, simple.WellFormed

/-- Nothing would be printed. -/
def isEmpty (c : Compound) : Bool := c.type.isNone && c.simples.isEmpty

def marks (c : Compound) : List Mark :=
  (c.type.map fun type => nameMarks type.toList).getD [] ++ c.simples.flatMap Simple.marks

def toTokens (c : Compound) : List Token :=
  (c.type.map fun type => [Token.name (nameMarks type.toList)]).getD [] ++
    c.simples.flatMap Simple.toTokens

end Compound

theorem resolve_simples (simples : List Simple) (rest : List Char) :
    resolve .plain (simples.flatMap Simple.print ++ rest) =
      simples.flatMap Simple.marks ++ resolve .plain rest := by
  induction simples with
  | nil => rfl
  | cons simple simples ih =>
    rw [List.flatMap_cons, List.flatMap_cons, List.append_assoc, resolve_simple, ih,
      List.append_assoc]

theorem resolve_compound (c : Compound) (rest : List Char) :
    resolve .plain (c.print ++ rest) = c.marks ++ resolve .plain rest := by
  obtain ⟨type, simples⟩ := c
  cases type with
  | none => exact resolve_simples simples rest
  | some type =>
    show resolve .plain ((escape type.toList ++ simples.flatMap Simple.print) ++ rest) =
      (nameMarks type.toList ++ simples.flatMap Simple.marks) ++ _
    rw [List.append_assoc, resolve_escape, resolve_simples, List.append_assoc]

theorem endsName_simples {simples : List Simple} {rest : List Mark} (h : EndsName rest) :
    EndsName (simples.flatMap Simple.marks ++ rest) := by
  cases simples with
  | nil => exact h
  | cons simple simples =>
    rw [List.flatMap_cons, List.append_assoc]
    exact endsName_simple simple _

theorem tokens_simples {simples : List Simple} {rest : List Mark}
    (h : ∀ simple ∈ simples, simple.WellFormed) (hrest : EndsName rest) :
    tokens .plain (simples.flatMap Simple.marks ++ rest) =
      simples.flatMap Simple.toTokens ++ tokens .plain rest := by
  induction simples with
  | nil => rfl
  | cons simple simples ih =>
    rw [List.flatMap_cons, List.flatMap_cons, List.append_assoc,
      tokens_simple (h simple List.mem_cons_self) (endsName_simples hrest),
      ih fun s hs => h s (List.mem_cons_of_mem _ hs), List.append_assoc]

theorem tokens_compound {c : Compound} {rest : List Mark} (h : c.WellFormed)
    (hrest : EndsName rest) :
    tokens .plain (c.marks ++ rest) = c.toTokens ++ tokens .plain rest := by
  obtain ⟨type, simples⟩ := c
  cases type with
  | none => exact tokens_simples h.simples hrest
  | some type =>
    have hne : type ≠ "" := fun e => h.type (congrArg some e)
    show tokens .plain ((nameMarks type.toList ++ simples.flatMap Simple.marks) ++ rest) = _
    rw [List.append_assoc, tokens_escaped hne (endsName_simples hrest),
      tokens_simples h.simples hrest]
    rfl

theorem parseSimples_simples {simples : List Simple}
    (h : ∀ simple ∈ simples, simple.WellFormed) :
    parseSimples (simples.flatMap Simple.toTokens) = some (simples.map Simple.read) := by
  induction simples with
  | nil => rfl
  | cons simple simples ih =>
    rw [List.flatMap_cons, parseSimples_simple (h simple List.mem_cons_self),
      ih fun s hs => h s (List.mem_cons_of_mem _ hs)]
    rfl

/-- A compound selector is parsed to itself, unless nothing was printed. -/
theorem parseCompound_toTokens {c : Compound} (h : c.WellFormed) :
    parseCompound c.toTokens = if c.isEmpty then none else some c.read := by
  obtain ⟨type, simples⟩ := c
  cases type with
  | some type =>
    have hne : type ≠ "" := fun e => h.type (congrArg some e)
    show parseCompound (.name (nameMarks type.toList) :: simples.flatMap Simple.toTokens) = _
    rw [parseCompound, if_pos (isIdent_escaped hne), parseSimples_simples h.simples,
      textOf_nameMarks]
    rfl
  | none =>
    cases simples with
    | nil => rfl
    | cons simple simples =>
      have hparse := parseSimples_simples h.simples
      have hcompound : parseCompound ((simple :: simples).flatMap Simple.toTokens) =
          (parseSimples ((simple :: simples).flatMap Simple.toTokens)).map (⟨none, ·⟩) := by
        cases simple <;> rfl
      show parseCompound ((simple :: simples).flatMap Simple.toTokens) = _
      rw [hcompound, hparse]
      rfl

/-- Texts joined by ` > `. -/
def joinChild : List (List Char) → List Char
  | [] => []
  | [part] => part
  | part :: parts => part ++ ' ' :: '>' :: ' ' :: joinChild parts

/-- The tokens between the combinators of a chain, which may have a space in front. -/
def chainGroups (front : List Token) : List Compound → List (List Token)
  | [] => []
  | [c] => [front ++ c.toTokens]
  | c :: cs => (front ++ c.toTokens ++ [.space]) :: chainGroups [.space] cs

/-- A token that stands in a compound selector. -/
def Token.isInner : Token → Bool
  | .space => false
  | .delim c => c ≠ '>'
  | _ => true

theorem inner_simple (simple : Simple) : simple.toTokens.all Token.isInner = true := by
  cases simple with
  | id name => rfl
  | cls name => rfl
  | attr name relation value => cases relation <;> rfl
  | nthOfType index => rfl

theorem inner_of_mem_toTokens {c : Compound} {t : Token} (h : t ∈ c.toTokens) :
    t.isInner = true := by
  obtain ⟨type, simples⟩ := c
  rcases List.mem_append.mp h with h | h
  · cases type with
    | none => cases h
    | some type =>
      obtain rfl : t = .name (nameMarks type.toList) := by simpa using h
      rfl
  · obtain ⟨simple, -, h⟩ := List.mem_flatMap.mp h
    exact List.all_eq_true.mp (inner_simple simple) t h

/-- Space around tokens of a compound selector is cut off. -/
theorem trimSpace_around {inner : List Token} (h : ∀ t ∈ inner, t.isInner = true)
    (front back : Nat) :
    trimSpace (List.replicate front .space ++ inner ++ List.replicate back .space) = inner := by
  have hdrop : ∀ n (ts : List Token), (List.replicate n Token.space ++ ts).dropWhile (· = .space) =
      ts.dropWhile (· = .space) := by
    intro n ts
    induction n with
    | zero => rfl
    | succ n ih =>
      rw [List.replicate_succ, List.cons_append, List.dropWhile_cons_of_pos (by simp)]
      exact ih
  have hkeep : ∀ ts back : List Token, (∀ t ∈ ts, t.isInner = true) → ts ≠ [] →
      (ts ++ back).dropWhile (· = .space) = ts ++ back := by
    intro ts back hts hne
    cases ts with
    | nil => exact absurd rfl hne
    | cons t ts =>
      have ht : t ≠ .space := by
        rintro rfl
        exact absurd (hts _ List.mem_cons_self) (by decide)
      rw [List.cons_append, List.dropWhile_cons_of_neg (by simpa using ht)]
  rw [trimSpace, List.append_assoc, hdrop]
  by_cases hne : inner = []
  · subst hne
    have hback := hdrop back []
    rw [List.append_nil] at hback
    rw [List.nil_append, hback]
    rfl
  · have hne' : inner.reverse ≠ [] := by simpa using hne
    have hinner := hkeep inner.reverse [] (fun t ht => h t (List.mem_reverse.mp ht)) hne'
    rw [List.append_nil] at hinner
    rw [hkeep inner _ h hne, List.reverse_append, List.reverse_replicate, hdrop, hinner,
      List.reverse_reverse]

/-- The groups between the combinators of a chain of tokens. -/
theorem splitOn_chain {cs : List Compound} (hne : cs ≠ []) (hwf : ∀ c ∈ cs, c.WellFormed)
    {front : List Token} (hfront : .delim '>' ∉ front) :
    (front ++ tokens .plain (resolve .plain (joinChild (cs.map Compound.print)))).splitOn
      (.delim '>') = chainGroups front cs := by
  induction cs generalizing front with
  | nil => exact absurd rfl hne
  | cons c cs ih =>
    have hc : .delim '>' ∉ front ++ c.toTokens := by
      rw [List.mem_append, not_or]
      exact ⟨hfront, fun h => absurd (inner_of_mem_toTokens h) (by decide)⟩
    cases cs with
    | nil =>
      have hresolve := resolve_compound c []
      have htokens := tokens_compound (hwf c List.mem_cons_self) endsName_nil
      simp only [List.append_nil, resolve] at hresolve htokens
      show (front ++ tokens .plain (resolve .plain c.print)).splitOn (.delim '>') = _
      rw [hresolve, htokens]
      simp only [tokens, TokenMode.finish, List.append_nil]
      rw [List.splitOn_eq_singleton hc]
      rfl
    | cons c' cs =>
      have hspace : isNameChar ' ' = false := by decide
      have hjoined : tokens .plain (resolve .plain (joinChild ((c :: c' :: cs).map Compound.print)))
          = c.toTokens ++ .space :: .delim '>' :: .space ::
            tokens .plain (resolve .plain (joinChild ((c' :: cs).map Compound.print))) := by
        show tokens .plain (resolve .plain (c.print ++ ' ' :: '>' :: ' ' ::
          joinChild ((c' :: cs).map Compound.print))) = _
        rw [resolve_compound, resolve_cons (by decide), resolve_cons (by decide),
          resolve_cons (by decide),
          tokens_compound (hwf c List.mem_cons_self) (endsName_cons (by decide))]
        rfl
      have hnot : .delim '>' ∉ front ++ c.toTokens ++ [.space] := by
        rw [List.mem_append, not_or]
        exact ⟨hc, by simp⟩
      have hsplit : front ++ (c.toTokens ++ .space :: .delim '>' :: .space ::
            tokens .plain (resolve .plain (joinChild ((c' :: cs).map Compound.print)))) =
          (front ++ c.toTokens ++ [.space]) ++ .delim '>' :: ([.space] ++
            tokens .plain (resolve .plain (joinChild ((c' :: cs).map Compound.print)))) := by
        simp
      rw [hjoined, hsplit, List.splitOn_append_cons_self_of_not_mem hnot,
        ih (by simp) (fun d hd => hwf d (List.mem_cons_of_mem _ hd)) (by simp)]
      rfl

theorem parse_groups {cs : List Compound} (hwf : ∀ c ∈ cs, c.WellFormed) (front : Nat) :
    ((chainGroups (List.replicate front .space) cs).mapM fun group =>
      parseCompound (trimSpace group)) =
      if cs.any Compound.isEmpty then none else some (cs.map Compound.read) := by
  induction cs generalizing front with
  | nil => rfl
  | cons c cs ih =>
    have hc := parseCompound_toTokens (hwf c List.mem_cons_self)
    have hinner : ∀ t ∈ c.toTokens, t.isInner = true := fun t => inner_of_mem_toTokens
    cases cs with
    | nil =>
      have htrim := trimSpace_around hinner front 0
      rw [List.replicate_zero, List.append_nil] at htrim
      rw [chainGroups, List.mapM_cons, htrim, hc]
      cases hempty : c.isEmpty <;> simp [hempty]
    | cons c' cs =>
      have htrim := trimSpace_around hinner front 1
      have hrest := ih (fun d hd => hwf d (List.mem_cons_of_mem _ hd)) 1
      rw [List.replicate_one] at htrim hrest
      have hany : (c :: c' :: cs).any Compound.isEmpty =
          (c.isEmpty || (c' :: cs).any Compound.isEmpty) := rfl
      rw [chainGroups, List.mapM_cons, htrim, hc, hrest, hany]
      · generalize (c' :: cs).any Compound.isEmpty = others
        cases c.isEmpty <;> cases others <;> rfl
      · simp

/-- A chain of compound selectors is parsed to itself, unless one of them prints nothing. -/
theorem parse_chain {cs : List Compound} (hne : cs ≠ []) (hwf : ∀ c ∈ cs, c.WellFormed) :
    parse (String.ofList (joinChild (cs.map Compound.print))) =
      if cs.any Compound.isEmpty then none else some (cs.map Compound.read) := by
  have hsplit := splitOn_chain hne hwf (List.not_mem_nil)
  rw [List.nil_append] at hsplit
  rw [parse, String.toList_ofList, hsplit]
  exact parse_groups hwf 0

end Chains

example : parse "#a\\31  > li.b[href*=\"x\\\"\"]:nth-of-type(2)" =
    some [⟨none, [.id "a1"]⟩,
      ⟨some "li", [.cls "b", .attr "href" .contains "x\"", .nthOfType 2]⟩] := by
  decide +kernel

end Css
