import LintPreview.Number.Shortest

/-!
JSON values.

* `Json`: a JSON value; the entries of an object stay in the order of their first appearance.
* `Json.get?`: the value under a key.
* `Json.isTruthy`: whether a value counts as given: not null, false, zero or empty.
* `putEntry`: a key written twice keeps its first place and its last value.
-/

namespace LintPreview

/-- A JSON value. -/
inductive Json where
  | null
  | bool (b : Bool)
  | int (i : Int)
  | float (x : Binary64)
  | text (s : Text)
  | list (items : List Json)
  | object (entries : List (Text × Json))
deriving Repr, Inhabited

/-! ### Equality -/

namespace Json

mutual

/-- Whether two values agree. -/
def agrees : Json → Json → Bool
  | .null, .null => true
  | .bool a, .bool b => a == b
  | .int i, .int j => i == j
  | .float x, .float y => x == y
  | .text s, .text t => s == t
  | .list vs, .list ws => agreeItems vs ws
  | .object es, .object fs => agreeEntries es fs
  | _, _ => false

/-- Whether items agree one by one. -/
def agreeItems : List Json → List Json → Bool
  | [], [] => true
  | v :: vs, w :: ws => agrees v w && agreeItems vs ws
  | _, _ => false

/-- Whether entries agree one by one. -/
def agreeEntries : List (Text × Json) → List (Text × Json) → Bool
  | [], [] => true
  | (k, v) :: es, (k', v') :: fs => k == k' && agrees v v' && agreeEntries es fs
  | _, _ => false

end

mutual

theorem agrees_iff : ∀ v w : Json, agrees v w = true ↔ v = w
  | .null, w => by cases w <;> simp [agrees]
  | .bool _, w => by cases w <;> simp [agrees]
  | .int _, w => by cases w <;> simp [agrees]
  | .float _, w => by cases w <;> simp [agrees]
  | .text _, w => by cases w <;> simp [agrees]
  | .list vs, w => by cases w <;> simp [agrees, agreeItems_iff vs]
  | .object es, w => by cases w <;> simp [agrees, agreeEntries_iff es]

theorem agreeItems_iff : ∀ vs ws : List Json, agreeItems vs ws = true ↔ vs = ws
  | [], ws => by cases ws <;> simp [agreeItems]
  | v :: vs, ws => by cases ws <;> simp [agreeItems, agrees_iff v, agreeItems_iff vs]

theorem agreeEntries_iff : ∀ es fs : List (Text × Json), agreeEntries es fs = true ↔ es = fs
  | [], fs => by cases fs <;> simp [agreeEntries]
  | (k, v) :: es, fs => by
    cases fs <;> simp [agreeEntries, agrees_iff v, agreeEntries_iff es, Prod.ext_iff, and_assoc]

end

instance : DecidableEq Json := fun v w => decidable_of_iff (v.agrees w = true) (agrees_iff v w)

end Json

/-! ### Entries -/

/-- The value under a key of an association list. -/
def valueUnder? {α : Type} (key : Text) : List (Text × α) → Option α
  | [] => none
  | (k, v) :: rest => if k = key then some v else valueUnder? key rest

/-- A value put under a key: in place if the key is there, else at the end. -/
def putEntry {α : Type} (key : Text) (value : α) : List (Text × α) → List (Text × α)
  | [] => [(key, value)]
  | (k, v) :: rest => if k = key then (k, value) :: rest else (k, v) :: putEntry key value rest

/-- Entries in order, each put over the ones before. -/
def collectEntries {α : Type} (entries : List (Text × α)) : List (Text × α) :=
  entries.foldl (fun acc e => putEntry e.1 e.2 acc) []

@[simp] theorem valueUnder?_putEntry_self {α : Type} (key : Text) (v : α) (es : List (Text × α)) :
    valueUnder? key (putEntry key v es) = some v := by
  induction es with
  | nil => simp [putEntry, valueUnder?]
  | cons e rest ih => by_cases h : e.1 = key <;> simp [putEntry, valueUnder?, h, ih]

theorem valueUnder?_putEntry_of_ne {α : Type} {key k : Text} (v : α) (es : List (Text × α)) (h : k ≠ key) :
    valueUnder? k (putEntry key v es) = valueUnder? k es := by
  induction es with
  | nil => simp [putEntry, valueUnder?, h.symm]
  | cons e rest ih =>
    by_cases he : e.1 = key
    · have : ¬ key = k := fun hk => h hk.symm
      simp [putEntry, valueUnder?, he, this]
    · by_cases hk : e.1 = k
      · have : ¬ k = key := h
        simp [putEntry, valueUnder?, hk, this]
      · simp [putEntry, valueUnder?, he, hk, ih]

namespace Json

/-- The value under a key of an object. -/
def get? (key : Text) : Json → Option Json
  | .object entries => valueUnder? key entries
  | _ => none

/-- Whether a value counts as given. -/
def isTruthy : Json → Bool
  | .null => false
  | .bool b => b
  | .int i => i != 0
  | .float x => !x.isZero
  | .text s => !s.isEmpty
  | .list items => !items.isEmpty
  | .object entries => !entries.isEmpty

/-- The name of a value's kind. -/
def kindName : Json → Text
  | .null => "NoneType"
  | .bool _ => "bool"
  | .int _ => "int"
  | .float _ => "float"
  | .text _ => "str"
  | .list _ => "list"
  | .object _ => "dict"

/-- Whether the value is a list or an object. -/
def isCollection : Json → Bool
  | .list _ => true
  | .object _ => true
  | _ => false

/-- The text, if the value is one. -/
def asText? : Json → Option Text
  | .text s => some s
  | _ => none

theorem asText?_eq_some_iff {v : Json} {s : Text} : v.asText? = some s ↔ v = .text s := by
  cases v <;> simp [asText?]

/-- The value under a key, `null` if there is none. -/
def field (key : Text) (v : Json) : Json := (v.get? key).getD .null

/-- How deep lists and objects are nested, where empty ones do not count. -/
def filledDepth : Json → Nat
  | .list (v :: rest) => 1 + listDepth (v :: rest)
  | .object (e :: rest) => 1 + entriesDepth (e :: rest)
  | _ => 0
where
  /-- The greatest depth in a list. -/
  listDepth : List Json → Nat
    | [] => 0
    | v :: rest => max v.filledDepth (listDepth rest)
  /-- The greatest depth in the entries of an object. -/
  entriesDepth : List (Text × Json) → Nat
    | [] => 0
    | (_, v) :: rest => max v.filledDepth (entriesDepth rest)

/-- Whether no text and no key in the value holds a lone half. -/
def isWhole : Json → Bool
  | .text s => s.isWhole
  | .list items => allItems items
  | .object entries => allEntries entries
  | _ => true
where
  /-- Whether this holds for every item. -/
  allItems : List Json → Bool
    | [] => true
    | v :: rest => v.isWhole && allItems rest
  /-- Whether this holds for every entry. -/
  allEntries : List (Text × Json) → Bool
    | [] => true
    | (k, v) :: rest => k.isWhole && v.isWhole && allEntries rest

/-- Whether every whole number in the value is as it should be. -/
def allInts (fits : Int → Bool) : Json → Bool
  | .int i => fits i
  | .list items => allItems items
  | .object entries => allEntries entries
  | _ => true
where
  /-- Whether this holds for every item. -/
  allItems : List Json → Bool
    | [] => true
    | v :: rest => v.allInts fits && allItems rest
  /-- Whether this holds for every entry. -/
  allEntries : List (Text × Json) → Bool
    | [] => true
    | (_, v) :: rest => v.allInts fits && allEntries rest

/-- Whether every number in the value is finite. -/
def isFinite : Json → Bool
  | .float x => x.isFinite
  | .list items => allItems items
  | .object entries => allEntries entries
  | _ => true
where
  /-- Whether this holds for every item. -/
  allItems : List Json → Bool
    | [] => true
    | v :: rest => v.isFinite && allItems rest
  /-- Whether this holds for every entry. -/
  allEntries : List (Text × Json) → Bool
    | [] => true
    | (_, v) :: rest => v.isFinite && allEntries rest

/-- The value as its text reads: a number that is not finite becomes `null`. -/
def asWritten : Json → Json
  | .float x => if x.isFinite then .float x else .null
  | .list items => .list (writtenItems items)
  | .object entries => .object (writtenEntries entries)
  | v => v
where
  /-- The items as their texts read. -/
  writtenItems : List Json → List Json
    | [] => []
    | v :: rest => v.asWritten :: writtenItems rest
  /-- The entries as their texts read. -/
  writtenEntries : List (Text × Json) → List (Text × Json)
    | [] => []
    | (k, v) :: rest => (k, v.asWritten) :: writtenEntries rest

end Json

end LintPreview
