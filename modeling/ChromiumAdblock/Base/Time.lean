import ChromiumAdblock.Base.Value

/-! `base::Time` and `base::TimeDelta`, and the strings that `base::TimeToValue` and
`base::ValueToTime` keep a time in. -/

namespace ChromiumAdblock

def int64Min : Int := -9223372036854775808
def int64Max : Int := 9223372036854775807

/-- A `base::Time`: microseconds in 64 bits.  The null time is zero. -/
structure Time where
  us : Int
  lower : int64Min ≤ us
  upper : us ≤ int64Max
deriving DecidableEq, Repr

namespace Time

/-- `base::Time()`. -/
def null : Time := ⟨0, by decide, by decide⟩

def isNull (t : Time) : Bool := t.us == 0

/-- The integer in 64 bits that is closest to `n`. -/
def saturate (n : Int) : Int := max int64Min (min n int64Max)

/-- The microseconds of the `TimeDelta` between two times, which saturates. -/
def since (now earlier : Time) : Int := saturate (now.us - earlier.us)

/-- The microseconds of `base::Hours`. -/
def hours (n : Nat) : Int := saturate (n * 3600000000)

end Time

/-- `base::NumberToString` of a signed 64-bit integer. -/
def numberToString (n : Int) : String :=
  String.ofList (if n < 0 then '-' :: Nat.toDigits 10 n.natAbs else Nat.toDigits 10 n.natAbs)

/-- The number that the digits after a sign say, when there are digits only and it fits. -/
def digitsToInt64 (sign : Int) (digits : List Char) : Option Int :=
  let n := sign * Nat.ofDigitChars 10 digits 0
  if digits ≠ [] ∧ digits.all Char.isDigit = true ∧ int64Min ≤ n ∧ n ≤ int64Max then some n
  else none

/-- `base::StringToInt64`. -/
def stringToInt64 (s : String) : Option Int :=
  match s.toList with
  | '-' :: digits => digitsToInt64 (-1) digits
  | '+' :: digits => digitsToInt64 1 digits
  | digits => digitsToInt64 1 digits

/-- `base::TimeToValue`. -/
def timeToValue (t : Time) : Value := .string (numberToString t.us)

/-- `base::ValueToTime`. -/
def valueToTime (value : Value) : Option Time :=
  match value with
  | .string s =>
    match stringToInt64 s with
    | some us => if h : int64Min ≤ us ∧ us ≤ int64Max then some ⟨us, h.1, h.2⟩ else none
    | none => none
  | _ => none

theorem digitsToInt64_toDigits {sign : Int} {n : Nat} (lower : int64Min ≤ sign * n)
    (upper : sign * n ≤ int64Max) : digitsToInt64 sign (Nat.toDigits 10 n) = some (sign * n) := by
  have hdigits : (Nat.toDigits 10 n).all Char.isDigit = true := by
    rw [List.all_eq_true]
    intro c hc
    exact Nat.isDigit_of_mem_toDigits (by decide) (by decide) hc
  rw [digitsToInt64, Nat.ofDigitChars_ten_toDigits]
  exact if_pos ⟨Nat.toDigits_ne_nil, hdigits, lower, upper⟩

theorem toDigits_head_ne {n : Nat} {c : Char} {digits : List Char}
    (h : Nat.toDigits 10 n = c :: digits) : c ≠ '-' ∧ c ≠ '+' := by
  have hc : c.isDigit = true :=
    Nat.isDigit_of_mem_toDigits (b := 10) (n := n) (by decide) (by decide) (by simp [h])
  constructor
  · rintro rfl
    contradiction
  · rintro rfl
    contradiction

theorem stringToInt64_numberToString {n : Int} (lower : int64Min ≤ n) (upper : n ≤ int64Max) :
    stringToInt64 (numberToString n) = some n := by
  rw [stringToInt64, numberToString, String.toList_ofList]
  by_cases h : n < 0
  · have hn : -1 * (n.natAbs : Int) = n := by omega
    rw [if_pos h]
    show digitsToInt64 (-1) (Nat.toDigits 10 n.natAbs) = some n
    rw [digitsToInt64_toDigits (by omega) (by omega), hn]
  · have hn : 1 * (n.natAbs : Int) = n := by omega
    rw [if_neg h]
    have hdigits : digitsToInt64 1 (Nat.toDigits 10 n.natAbs) = some n := by
      rw [digitsToInt64_toDigits (by omega) (by omega), hn]
    -- Neither of the signs is the first digit.
    split
    · rename_i digits hhead
      exact absurd rfl (toDigits_head_ne hhead).1
    · rename_i digits hhead
      exact absurd rfl (toDigits_head_ne hhead).2
    · exact hdigits

@[simp] theorem valueToTime_timeToValue (t : Time) : valueToTime (timeToValue t) = some t := by
  obtain ⟨us, lower, upper⟩ := t
  simp only [valueToTime, timeToValue, stringToInt64_numberToString lower upper]
  exact dif_pos ⟨lower, upper⟩

end ChromiumAdblock
