import ChromiumAdblock.Base.Utf8
import Mathlib.Algebra.Order.Ring.Rat

/-! Strings and numbers of JavaScript as far as the scripts use them.  Strings are text without lone
surrogates; numbers are exact, not rounded. -/

namespace ChromiumAdblock

namespace JsText

/-- `WhiteSpace` or `LineTerminator`. -/
def isWhiteSpace (c : Char) : Bool :=
  [9, 10, 11, 12, 13, 32, 0xA0, 0x1680, 0x2028, 0x2029, 0x202F, 0x205F, 0x3000, 0xFEFF].contains
    c.toNat || (0x2000 ≤ c.toNat && c.toNat ≤ 0x200A)

def trimStart (text : List Char) : List Char := text.dropWhile isWhiteSpace

def trim (text : List Char) : List Char := (trimStart (trimStart text).reverse).reverse

/-- The number of UTF-16 code units. -/
def length (text : List Char) : Nat :=
  text.foldl (fun units c => units + if c.toNat < 0x10000 then 1 else 2) 0

def includes (text needle : List Char) : Bool :=
  text.tails.any fun tail => needle.isPrefixOf tail

/-- `indexOf`: how many characters stand before the first occurrence. -/
def indexOf (needle : List Char) : List Char → Option Nat
  | [] => if needle.isEmpty then some 0 else none
  | c :: rest =>
    if needle.isPrefixOf (c :: rest) then some 0 else (indexOf needle rest).map (· + 1)

/-- `slice` with both bounds. -/
def slice (text : List Char) (start stop : Nat) : List Char := (text.take stop).drop start

def hexDigit (n : Nat) : Char := if n < 10 then Char.ofNat (48 + n) else Char.ofNat (55 + n)

/-- `encodeURIComponent` of a character that is not ASCII. -/
def encodeURIComponent (c : Char) : List Char :=
  (utf8 (String.singleton c)).flatMap fun byte =>
    ['%', hexDigit (byte.toNat / 16), hexDigit (byte.toNat % 16)]

/-- `replace(/\P{ASCII}/gu, c => encodeURIComponent(c))`. -/
def encodeNonAscii (text : List Char) : List Char :=
  text.flatMap fun c => if c.toNat < 128 then [c] else encodeURIComponent c

end JsText

inductive JsNumber
  | nan
  | infinity (isNegative : Bool)
  | finite (value : ℚ)
deriving DecidableEq

namespace JsNumber

def digitValue (c : Char) : Nat :=
  if '0' ≤ c ∧ c ≤ '9' then c.toNat - 48
  else if 'a' ≤ c ∧ c ≤ 'z' then c.toNat - 87
  else if 'A' ≤ c ∧ c ≤ 'Z' then c.toNat - 55
  else 36

/-- The number that digits of a base write, if there are any and all are digits. -/
def ofDigits (base : Nat) (digits : List Char) : Option Nat :=
  if digits.isEmpty then none
  else digits.foldlM (fun n c =>
    if digitValue c < base then some (n * base + digitValue c) else none) 0

/-- A sign, and what comes after it. -/
def sign : List Char → Bool × List Char
  | '-' :: rest => (true, rest)
  | '+' :: rest => (false, rest)
  | rest => (false, rest)

def scale (n : Nat) (exponent : Int) : ℚ :=
  if exponent < 0 then (n : ℚ) / 10 ^ exponent.natAbs else (n : ℚ) * 10 ^ exponent.natAbs

/-- `StrUnsignedDecimalLiteral` without `Infinity`. -/
def ofDecimal (text : List Char) : Option ℚ := do
  let mantissa := text.takeWhile fun c => c ≠ 'e' && c ≠ 'E'
  let exponent ← match text.drop mantissa.length with
    | [] => some 0
    | _ :: rest => (ofDigits 10 (sign rest).2).map fun n : Nat =>
      if (sign rest).1 then -(n : Int) else n
  let whole := mantissa.takeWhile (· ≠ '.')
  let fraction := mantissa.drop (whole.length + 1)
  let digits ← ofDigits 10 (whole ++ fraction)
  return scale digits (exponent - fraction.length)

/-- `StringToNumber`. -/
def ofString (text : String) : JsNumber :=
  match JsText.trim text.toList with
  | [] => .finite 0
  | '0' :: 'x' :: digits | '0' :: 'X' :: digits => ofNat? (ofDigits 16 digits)
  | '0' :: 'o' :: digits | '0' :: 'O' :: digits => ofNat? (ofDigits 8 digits)
  | '0' :: 'b' :: digits | '0' :: 'B' :: digits => ofNat? (ofDigits 2 digits)
  | literal =>
    let (isNegative, unsigned) := sign literal
    if unsigned = "Infinity".toList then .infinity isNegative
    else
      match ofDecimal unsigned with
      | none => .nan
      | some value => .finite (if isNegative then -value else value)
where
  ofNat? : Option Nat → JsNumber
    | none => .nan
    | some n => .finite n

/-- The integer that a number is. -/
def toInteger : JsNumber → Option Int
  | .finite value => if value.den = 1 then some value.num else none
  | .nan | .infinity _ => none

/-- `n >= number`. -/
def isAtMost (n : Nat) : JsNumber → Bool
  | .nan => false
  | .infinity isNegative => isNegative
  | .finite value => value ≤ n

end JsNumber

example : JsNumber.ofString " 12.5e1 " = .finite 125 := by decide +kernel

end ChromiumAdblock
