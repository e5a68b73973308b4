import ChromiumAdblock.Base.Time

/-! The record of a subscription, the dictionary that preferences keep it in, and how
`base::JSONValueConverter` reads it back. -/

namespace ChromiumAdblock

/-- A field that `base::JSONValueConverter` knows: its name, and what a value of it makes of the
record. -/
structure FieldConverter (σ : Type) where
  fieldPath : String
  convertField : Value → σ → Option σ

/-- `Convert`: the registered fields that the dictionary has are read in the order they were
registered in, up to the first one that fails.  The names have no dots. -/
def convert {σ : Type} (dict : DictValue) : List (FieldConverter σ) → σ → σ
  | [], output => output
  | field :: fields, output =>
    match dict.find field.fieldPath with
    | none => convert dict fields output
    | some value =>
      match field.convertField value output with
      | some output => convert dict fields output
      | none => output

def kSubscriptionDefaultExpiresHours : UInt16 := 7 * 24
def kSubscriptionMaxExpiresHours : Int := 14 * 24

/-- `SubscriptionInfo`.  The source leaves `enabled` unset, and sets it before every use. -/
structure SubscriptionInfo where
  subscriptionUrl : String := ""
  lastUpdateAttempt : Time := .null
  lastSuccessfulUpdateAttempt : Time := .null
  enabled : Bool := false
  homepage : Option String := none
  title : Option String := none
  expires : UInt16 := kSubscriptionDefaultExpiresHours
deriving DecidableEq, Repr

def skipGURLField (_value : Value) (info : SubscriptionInfo) : Option SubscriptionInfo := some info

def parseTimeValue (value : Option Value) : Option Time := value.bind valueToTime

def parseOptionalStringField : Option Value → Option (Option String)
  | none => some none
  | some (.string s) => some (some s)
  | some _ => none

def parseExpiresWithFallback : Option Value → Option UInt16
  | none => some kSubscriptionDefaultExpiresHours
  | some (.int i) =>
    if i < 0 ∨ kSubscriptionMaxExpiresHours < i then none else some (.ofNat i.toNat)
  | some _ => none

/-- `RegisterJSONConverter`. -/
def subscriptionFields : List (FieldConverter SubscriptionInfo) :=
  [⟨"subscription_url", skipGURLField⟩,
    ⟨"last_update_attempt", fun value info =>
      (parseTimeValue (some value)).map fun time => { info with lastUpdateAttempt := time }⟩,
    ⟨"last_successful_update_attempt", fun value info =>
      (parseTimeValue (some value)).map fun time =>
        { info with lastSuccessfulUpdateAttempt := time }⟩,
    ⟨"enabled", fun value info =>
      value.getIfBool.map fun enabled => { info with enabled := enabled }⟩,
    ⟨"homepage", fun value info =>
      (parseOptionalStringField (some value)).map fun homepage =>
        { info with homepage := homepage }⟩,
    ⟨"title", fun value info =>
      (parseOptionalStringField (some value)).map fun title => { info with title := title }⟩,
    ⟨"expires", fun value info =>
      (parseExpiresWithFallback (some value)).map fun expires => { info with expires := expires }⟩]

def buildInfoFromDict (subUrl : String) (dict : DictValue) : SubscriptionInfo :=
  { convert dict subscriptionFields {} with subscriptionUrl := subUrl }

/-- `Set` for a field that is there only sometimes. -/
def setOptionalString (dict : DictValue) (key : String) : Option String → DictValue
  | some s => dict.set key (.string s)
  | none => dict

/-- The dictionary that `UpdateSubscriptionPrefs` keeps a record in. -/
def subscriptionDict (info : SubscriptionInfo) : DictValue :=
  let dict : DictValue := []
  let dict := dict.set "enabled" (.bool info.enabled)
  let dict := dict.set "last_update_attempt" (timeToValue info.lastUpdateAttempt)
  let dict := dict.set "last_successful_update_attempt"
    (timeToValue info.lastSuccessfulUpdateAttempt)
  let dict := setOptionalString dict "homepage" info.homepage
  let dict := setOptionalString dict "title" info.title
  dict.set "expires" (.int info.expires.toNat)

/-- `adblock::FilterListMetadata`. -/
structure FilterListMetadata where
  homepage : Option String := none
  title : Option String := none
  expiresHours : Option UInt16 := none
deriving DecidableEq, Repr

theorem find_setOptionalString_self (dict : DictValue) (key : String) (s : Option String)
    (h : dict.find key = none) :
    (setOptionalString dict key s).find key = s.map Value.string := by
  cases s with
  | none => exact h
  | some s => exact DictValue.find_set_self dict key (.string s)

theorem find_setOptionalString_ne (dict : DictValue) {key other : String} (s : Option String)
    (h : other ≠ key) : (setOptionalString dict key s).find other = dict.find other := by
  cases s with
  | none => rfl
  | some s => exact DictValue.find_set_ne dict (.string s) h

section Fields

variable (info : SubscriptionInfo)

theorem subscriptionDict_url : (subscriptionDict info).find "subscription_url" = none := by
  simp only [subscriptionDict]
  rw [DictValue.find_set_ne _ _ (by decide), find_setOptionalString_ne _ _ (by decide),
    find_setOptionalString_ne _ _ (by decide), DictValue.find_set_ne _ _ (by decide),
    DictValue.find_set_ne _ _ (by decide), DictValue.find_set_ne _ _ (by decide)]
  rfl

theorem subscriptionDict_lastUpdateAttempt :
    (subscriptionDict info).find "last_update_attempt" =
      some (timeToValue info.lastUpdateAttempt) := by
  simp only [subscriptionDict]
  rw [DictValue.find_set_ne _ _ (by decide), find_setOptionalString_ne _ _ (by decide),
    find_setOptionalString_ne _ _ (by decide), DictValue.find_set_ne _ _ (by decide),
    DictValue.find_set_self]

theorem subscriptionDict_lastSuccessfulUpdateAttempt :
    (subscriptionDict info).find "last_successful_update_attempt" =
      some (timeToValue info.lastSuccessfulUpdateAttempt) := by
  simp only [subscriptionDict]
  rw [DictValue.find_set_ne _ _ (by decide), find_setOptionalString_ne _ _ (by decide),
    find_setOptionalString_ne _ _ (by decide), DictValue.find_set_self]

theorem subscriptionDict_enabled :
    (subscriptionDict info).find "enabled" = some (.bool info.enabled) := by
  simp only [subscriptionDict]
  rw [DictValue.find_set_ne _ _ (by decide), find_setOptionalString_ne _ _ (by decide),
    find_setOptionalString_ne _ _ (by decide), DictValue.find_set_ne _ _ (by decide),
    DictValue.find_set_ne _ _ (by decide), DictValue.find_set_self]

theorem subscriptionDict_homepage :
    (subscriptionDict info).find "homepage" = info.homepage.map Value.string := by
  simp only [subscriptionDict]
  rw [DictValue.find_set_ne _ _ (by decide), find_setOptionalString_ne _ _ (by decide),
    find_setOptionalString_self]
  rw [DictValue.find_set_ne _ _ (by decide), DictValue.find_set_ne _ _ (by decide),
    DictValue.find_set_ne _ _ (by decide)]
  rfl

theorem subscriptionDict_title :
    (subscriptionDict info).find "title" = info.title.map Value.string := by
  simp only [subscriptionDict]
  rw [DictValue.find_set_ne _ _ (by decide), find_setOptionalString_self]
  rw [find_setOptionalString_ne _ _ (by decide), DictValue.find_set_ne _ _ (by decide),
    DictValue.find_set_ne _ _ (by decide), DictValue.find_set_ne _ _ (by decide)]
  rfl

theorem subscriptionDict_expires :
    (subscriptionDict info).find "expires" = some (.int info.expires.toNat) := by
  simp only [subscriptionDict]
  rw [DictValue.find_set_self]

end Fields

/-- What is left of a number of hours in a dictionary: too large a number is not read back. -/
def readableExpires (expires : UInt16) : UInt16 :=
  if kSubscriptionMaxExpiresHours < expires.toNat then kSubscriptionDefaultExpiresHours else expires

theorem parseExpiresWithFallback_int (expires : UInt16) :
    (parseExpiresWithFallback (some (.int expires.toNat))).getD kSubscriptionDefaultExpiresHours =
      readableExpires expires := by
  have hnonneg : ¬((expires.toNat : Int) < 0) := by omega
  simp only [parseExpiresWithFallback, readableExpires, hnonneg, false_or]
  split
  · rfl
  · simp

/-- A record read back from its dictionary is the record, but for its URL, which is given anew, and
a number of hours that is too large. -/
theorem buildInfoFromDict_subscriptionDict (url : String) (info : SubscriptionInfo) :
    buildInfoFromDict url (subscriptionDict info) =
      { info with
        subscriptionUrl := url
        expires := readableExpires info.expires } := by
  have hexpires := parseExpiresWithFallback_int info.expires
  obtain ⟨infoUrl, last, success, enabled, homepage, title, expires⟩ := info
  simp only [buildInfoFromDict, subscriptionFields, convert, subscriptionDict_url,
    subscriptionDict_lastUpdateAttempt, subscriptionDict_lastSuccessfulUpdateAttempt,
    subscriptionDict_enabled, subscriptionDict_homepage, subscriptionDict_title,
    subscriptionDict_expires, parseTimeValue, Option.bind_some, valueToTime_timeToValue,
    Option.map_some, Value.getIfBool]
  -- The two optional fields are there or not, and the last field fails or not.
  cases homepage <;> cases title <;>
    cases hparse : parseExpiresWithFallback (some (.int expires.toNat)) <;>
    rw [hparse] at hexpires <;>
    simp_all [parseOptionalStringField]

end ChromiumAdblock
