import Mathlib.Data.List.Pairwise
import Mathlib.Data.String.Basic

/-! Values of `base::Value`, the JSON-like values that preferences, the value store, and the
messages of a page hold, with the lookups and updates of their dictionaries. -/

namespace ChromiumAdblock

/-- A `base::Value`.  A double is known by its bits only. -/
inductive Value
  | none
  | bool (value : Bool)
  | int (value : Int)
  | double (bits : UInt64)
  | string (value : String)
  | blob (bytes : List UInt8)
  | dict (entries : List (String × Value))
  | list (items : List Value)
deriving Repr

namespace Value

mutual
/-- Equality of values as a test. -/
def same : Value → Value → Bool
  | .none, .none => true
  | .bool a, .bool b => a == b
  | .int a, .int b => a == b
  | .double a, .double b => a == b
  | .string a, .string b => a == b
  | .blob a, .blob b => a == b
  | .dict a, .dict b => sameEntries a b
  | .list a, .list b => sameItems a b
  | _, _ => false

def sameEntries : List (String × Value) → List (String × Value) → Bool
  | [], [] => true
  | (k, v) :: a, (l, w) :: b => k == l && same v w && sameEntries a b
  | _, _ => false

def sameItems : List Value → List Value → Bool
  | [], [] => true
  | v :: a, w :: b => same v w && sameItems a b
  | _, _ => false
end

mutual
theorem same_iff : ∀ a b : Value, same a b = true ↔ a = b
  | .none, b => by cases b <;> simp [same]
  | .bool _, b => by cases b <;> simp [same]
  | .int _, b => by cases b <;> simp [same]
  | .double _, b => by cases b <;> simp [same]
  | .string _, b => by cases b <;> simp [same]
  | .blob _, b => by cases b <;> simp [same]
  | .dict a, b => by cases b <;> simp [same, sameEntries_iff a]
  | .list a, b => by cases b <;> simp [same, sameItems_iff a]

theorem sameEntries_iff : ∀ a b : List (String × Value), sameEntries a b = true ↔ a = b
  | [], b => by cases b <;> simp [sameEntries]
  | (k, v) :: a, b => by cases b <;> simp [sameEntries, same_iff v, sameEntries_iff a, Prod.ext_iff]

theorem sameItems_iff : ∀ a b : List Value, sameItems a b = true ↔ a = b
  | [], b => by cases b <;> simp [sameItems]
  | v :: a, b => by cases b <;> simp [sameItems, same_iff v, sameItems_iff a]
end

instance : DecidableEq Value := fun a b => decidable_of_iff _ (same_iff a b)

def isDict : Value → Bool
  | .dict _ => true
  | _ => false

def isList : Value → Bool
  | .list _ => true
  | _ => false

def getIfString : Value → Option String
  | .string s => some s
  | _ => Option.none

def getIfDict : Value → Option (List (String × Value))
  | .dict d => some d
  | _ => Option.none

def getIfList : Value → Option (List Value)
  | .list l => some l
  | _ => Option.none

def getIfBool : Value → Option Bool
  | .bool b => some b
  | _ => Option.none

end Value

/-- A `base::DictValue`: its entries, in the order of their keys. -/
abbrev DictValue := List (String × Value)

namespace DictValue

def find (d : DictValue) (key : String) : Option Value :=
  (d.find? fun entry => entry.1 == key).map Prod.snd

def findString (d : DictValue) (key : String) : Option String := (find d key).bind Value.getIfString
def findDict (d : DictValue) (key : String) : Option DictValue := (find d key).bind Value.getIfDict
def findList (d : DictValue) (key : String) : Option (List Value) :=
  (find d key).bind Value.getIfList
def findBool (d : DictValue) (key : String) : Option Bool := (find d key).bind Value.getIfBool

/-- The parts of a path between its dots. -/
def pathParts (path : String) : List String := (path.toList.splitOn '.').map String.ofList

def findByParts (d : DictValue) : List String → Option Value
  | [] => none
  | [key] => find d key
  | key :: rest =>
    match findDict d key with
    | some inner => findByParts inner rest
    | none => none

def findByDottedPath (d : DictValue) (path : String) : Option Value :=
  findByParts d (pathParts path)

def findStringByDottedPath (d : DictValue) (path : String) : Option String :=
  (findByDottedPath d path).bind Value.getIfString

/-- `Set`: the entry of `key` is replaced, or added where the order of the keys puts it. -/
def set : DictValue → String → Value → DictValue
  | [], key, value => [(key, value)]
  | (k, v) :: rest, key, value =>
    if k = key then (key, value) :: rest
    else if key < k then (key, value) :: (k, v) :: rest
    else (k, v) :: set rest key value

def remove (d : DictValue) (key : String) : DictValue := d.filter fun entry => entry.1 ≠ key

theorem find_cons (k key : String) (v : Value) (d : DictValue) :
    find ((k, v) :: d) key = if k = key then some v else find d key := by
  by_cases h : k = key <;> simp [find, h]

@[simp] theorem find_nil (key : String) : find [] key = none := rfl

@[simp] theorem find_set_self (d : DictValue) (key : String) (value : Value) :
    find (set d key value) key = some value := by
  fun_induction set d key value with
  | case1 => simp [find_cons]
  | case2 => simp [find_cons]
  | case3 => simp [find_cons]
  | case4 k v rest key value hne hlt ih => rw [find_cons, if_neg hne, ih]

theorem find_set_ne (d : DictValue) {key other : String} (value : Value) (h : other ≠ key) :
    find (set d key value) other = find d other := by
  have hne : ¬key = other := fun e => h e.symm
  fun_induction set d key value with
  | case1 => simp [find_cons, hne]
  | case2 v rest key value => simp [find_cons, hne]
  | case3 k v rest key value hk hlt => rw [find_cons, if_neg hne]
  | case4 k v rest key value hk hlt ih => rw [find_cons, find_cons, ih h hne]

@[simp] theorem find_remove_self (d : DictValue) (key : String) :
    find (remove d key) key = none := by
  simp [find, remove, List.find?_filter]

theorem find_remove_ne (d : DictValue) {key other : String} (h : other ≠ key) :
    find (remove d key) other = find d other := by
  induction d with
  | nil => rfl
  | cons entry d ih =>
    obtain ⟨k, v⟩ := entry
    rw [find_cons]
    by_cases hk : k = key
    · have hko : ¬k = other := fun e => h (e.symm.trans hk)
      rw [if_neg hko, ← ih, remove, List.filter_cons_of_neg (by simpa using hk), remove]
    · rw [remove, List.filter_cons_of_pos (by simpa using hk), find_cons, ← ih, remove]

theorem mem_of_find {d : DictValue} {key : String} {value : Value} (h : find d key = some value) :
    (key, value) ∈ d := by
  obtain ⟨entry, hentry, rfl⟩ := Option.map_eq_some_iff.mp h
  have hkey : entry.1 = key := by simpa using List.find?_some hentry
  exact hkey ▸ List.mem_of_find?_eq_some hentry

theorem find_isSome_iff (d : DictValue) (key : String) :
    (find d key).isSome = true ↔ key ∈ d.map Prod.fst := by
  simp [find, List.find?_isSome]

/-- The keys are in order. -/
def Sorted (d : DictValue) : Prop := d.Pairwise fun a b => a.1 < b.1

theorem mem_set {d : DictValue} {key : String} {value : Value} {entry : String × Value}
    (h : entry ∈ set d key value) : entry = (key, value) ∨ entry ∈ d := by
  fun_induction set d key value with
  | case1 => exact .inl (List.mem_singleton.mp h)
  | case2 v rest key value =>
    exact (List.mem_cons.mp h).imp_right (List.mem_cons_of_mem _)
  | case3 k v rest key value hne hlt => exact List.mem_cons.mp h
  | case4 k v rest key value hne hlt ih =>
    rcases List.mem_cons.mp h with rfl | h
    · exact .inr List.mem_cons_self
    · exact (ih h).imp_right (List.mem_cons_of_mem _)

theorem Sorted.set {d : DictValue} (h : Sorted d) (key : String) (value : Value) :
    Sorted (set d key value) := by
  fun_induction DictValue.set d key value with
  | case1 => exact List.pairwise_singleton _ _
  | case2 v rest key value =>
    obtain ⟨hfirst, hrest⟩ := List.pairwise_cons.mp h
    exact List.pairwise_cons.mpr ⟨hfirst, hrest⟩
  | case3 k v rest key value hne hlt =>
    refine List.pairwise_cons.mpr ⟨?_, h⟩
    intro entry hentry
    rcases List.mem_cons.mp hentry with rfl | hentry
    · exact hlt
    · exact hlt.trans ((List.pairwise_cons.mp h).1 entry hentry)
  | case4 k v rest key value hne hlt ih =>
    obtain ⟨hfirst, hrest⟩ := List.pairwise_cons.mp h
    refine List.pairwise_cons.mpr ⟨fun entry hentry => ?_, ih hrest⟩
    rcases mem_set hentry with rfl | hentry
    · exact lt_of_le_of_ne (not_lt.mp hlt) hne
    · exact hfirst entry hentry

theorem Sorted.remove {d : DictValue} (h : Sorted d) (key : String) : Sorted (remove d key) :=
  h.filter _

theorem remove_of_lt {d : DictValue} {key : String} (h : ∀ entry ∈ d, key < entry.1) :
    remove d key = d := by
  rw [remove, List.filter_eq_self]
  intro entry hentry
  simpa using (h entry hentry).ne'

theorem find_of_lt {d : DictValue} {key : String} (h : ∀ entry ∈ d, key < entry.1) :
    find d key = none := by
  rw [find, List.find?_eq_none.mpr]
  · rfl
  · intro entry hentry
    simpa using (h entry hentry).ne'

/-- Where `set` puts an entry, and what was there. -/
theorem Sorted.set_split {d : DictValue} (h : Sorted d) (key : String) (value : Value) :
    ∃ before after, DictValue.set d key value = before ++ (key, value) :: after ∧
      DictValue.remove d key = before ++ after ∧
      (find d key = none ∧ d = before ++ after ∨
        ∃ old, find d key = some old ∧ d = before ++ (key, old) :: after) := by
  fun_induction DictValue.set d key value with
  | case1 key value => exact ⟨[], [], rfl, rfl, .inl ⟨rfl, rfl⟩⟩
  | case2 v rest key value =>
    have hrest := (List.pairwise_cons.mp h).1
    refine ⟨[], rest, rfl, ?_, .inr ⟨v, by simp [find_cons], rfl⟩⟩
    rw [DictValue.remove, List.filter_cons_of_neg (by simp)]
    exact remove_of_lt hrest
  | case3 k v rest key value hne hlt =>
    have hall : ∀ entry ∈ (k, v) :: rest, key < entry.1 := by
      intro entry hentry
      rcases List.mem_cons.mp hentry with rfl | hentry
      · exact hlt
      · exact hlt.trans ((List.pairwise_cons.mp h).1 entry hentry)
    exact ⟨[], (k, v) :: rest, rfl, remove_of_lt hall, .inl ⟨find_of_lt hall, rfl⟩⟩
  | case4 k v rest key value hne hlt ih =>
    obtain ⟨before, after, hset, hremove, hold⟩ := ih (List.pairwise_cons.mp h).2
    have hkept : DictValue.remove ((k, v) :: rest) key = (k, v) :: DictValue.remove rest key :=
      List.filter_cons_of_pos (by simpa using hne)
    refine ⟨(k, v) :: before, after, by rw [hset]; rfl, by rw [hkept, hremove]; rfl, ?_⟩
    rw [find_cons, if_neg hne]
    exact hold.imp (fun ⟨hnone, hd⟩ => ⟨hnone, congrArg _ hd⟩)
      fun ⟨old, hsome, hd⟩ => ⟨old, hsome, congrArg _ hd⟩

end DictValue

end ChromiumAdblock
