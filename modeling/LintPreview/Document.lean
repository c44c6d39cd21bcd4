import LintPreview.Json.Value
import LintPreview.Moment
import LintPreview.Text.Quoted

/-!
Documents: the values that a configuration file holds.

* `Document`: a value. Collections and moments carry the label of the place that defined them, so that a value
  repeated by an alias is known to be one and the same.
* `Document.get?`, `Document.put`, `Document.erase`: the entries of a mapping, in the order of their first appearance.
* `Document.ofJson`: a JSON value as a document in which no two places share a value.
* `Document.display`: a value as a text.
-/

namespace LintPreview

/-- A value of a configuration. A collection that contains itself is cut short by `enclosing`, which carries the
label of an enclosing collection. -/
inductive Document where
  | null
  | bool (b : Bool)
  | int (i : Int)
  | float (x : Binary64)
  | text (s : Text)
  | bytes (bs : List UInt8)
  | moment (label : Nat) (m : Moment)
  | list (label : Nat) (items : List Document)
  | map (label : Nat) (entries : List (Document × Document))
  | set (label : Nat) (items : List Document)
  | enclosing (label : Nat)
deriving Repr, Inhabited

namespace Document

/-! ### Equality -/

mutual

/-- Whether two values agree in everything, labels included. -/
def agrees : Document → Document → Bool
  | .null, .null => true
  | .bool a, .bool b => a == b
  | .int i, .int j => i == j
  | .float x, .float y => x == y
  | .text s, .text t => s == t
  | .bytes s, .bytes t => s == t
  | .moment l m, .moment k n => l == k && m == n
  | .list l ds, .list k es => l == k && agreeItems ds es
  | .map l ds, .map k es => l == k && agreeEntries ds es
  | .set l ds, .set k es => l == k && agreeItems ds es
  | .enclosing l, .enclosing k => l == k
  | _, _ => false

/-- Whether items agree one by one. -/
def agreeItems : List Document → List Document → Bool
  | [], [] => true
  | d :: ds, e :: es => agrees d e && agreeItems ds es
  | _, _ => false

/-- Whether entries agree one by one. -/
def agreeEntries : List (Document × Document) → List (Document × Document) → Bool
  | [], [] => true
  | (k, v) :: ds, (k', v') :: es => agrees k k' && agrees v v' && agreeEntries ds es
  | _, _ => false

end

mutual

theorem agrees_iff : ∀ a b : Document, agrees a b = true ↔ a = b
  | .null, b => by cases b <;> simp [agrees]
  | .bool _, b => by cases b <;> simp [agrees]
  | .int _, b => by cases b <;> simp [agrees]
  | .float _, b => by cases b <;> simp [agrees]
  | .text _, b => by cases b <;> simp [agrees]
  | .bytes _, b => by cases b <;> simp [agrees]
  | .moment .., b => by cases b <;> simp [agrees]
  | .list _ ds, b => by cases b <;> simp [agrees, agreeItems_iff ds]
  | .map _ ds, b => by cases b <;> simp [agrees, agreeEntries_iff ds]
  | .set _ ds, b => by cases b <;> simp [agrees, agreeItems_iff ds]
  | .enclosing _, b => by cases b <;> simp [agrees]

theorem agreeItems_iff : ∀ ds es : List Document, agreeItems ds es = true ↔ ds = es
  | [], es => by cases es <;> simp [agreeItems]
  | d :: ds, es => by cases es <;> simp [agreeItems, agrees_iff d, agreeItems_iff ds]

theorem agreeEntries_iff : ∀ ds es : List (Document × Document), agreeEntries ds es = true ↔ ds = es
  | [], es => by cases es <;> simp [agreeEntries]
  | (k, v) :: ds, es => by
    cases es <;> simp [agreeEntries, agrees_iff k, agrees_iff v, agreeEntries_iff ds, Prod.ext_iff, and_assoc]

end

instance : DecidableEq Document := fun a b => decidable_of_iff (a.agrees b = true) (agrees_iff a b)

/-! ### Keys -/

/-- The number that a value counts as when it is a key. -/
def keyNumber? : Document → Option Int
  | .bool b => some (if b then 1 else 0)
  | .int i => some i
  | .float x => x.toInt?
  | _ => none

/-- Whether two keys are equal. Equal numbers of different kinds are equal keys. -/
def sameKey (a b : Document) : Bool :=
  match a.keyNumber?, b.keyNumber? with
  | some i, some j => i == j
  | _, _ =>
    match a, b with
    | .null, .null => true
    | .float x, .float y => x == y
    | .text s, .text t => s == t
    | .bytes s, .bytes t => s == t
    | .moment _ m, .moment _ n => m.same n
    | _, _ => false

/-- A value put under a key: in place if the key is there, else at the end. -/
def putKey (key value : Document) : List (Document × Document) → List (Document × Document)
  | [] => [(key, value)]
  | (k, v) :: rest => if k.sameKey key then (k, value) :: rest else (k, v) :: putKey key value rest

/-- The value under a text key. -/
def getKey? (key : Text) : List (Document × Document) → Option Document
  | [] => none
  | (k, v) :: rest => if k.sameKey (.text key) then some v else getKey? key rest

/-- The entries without a text key. -/
def eraseKey (key : Text) (entries : List (Document × Document)) : List (Document × Document) :=
  entries.filter fun e => !e.1.sameKey (.text key)

/-! ### Mappings -/

/-- The entries of a mapping. -/
def entries : Document → List (Document × Document)
  | .map _ es => es
  | _ => []

/-- The value under a text key of a mapping. -/
def get? (d : Document) (key : Text) : Option Document := getKey? key d.entries

/-- Whether a mapping has a text key. -/
def has (d : Document) (key : Text) : Bool := (d.get? key).isSome

/-- A mapping with a value under a text key. -/
def put (d : Document) (key : Text) (value : Document) : Document :=
  match d with
  | .map l es => .map l (putKey (.text key) value es)
  | d => d

/-- A mapping without a text key. -/
def erase (d : Document) (key : Text) : Document :=
  match d with
  | .map l es => .map l (eraseKey key es)
  | d => d

/-- The text, if the value is one. -/
def asText? : Document → Option Text
  | .text s => some s
  | _ => none

/-- Whether the value is a text. -/
def isText : Document → Bool
  | .text _ => true
  | _ => false

/-- The name of a value's kind. -/
def kindName : Document → Text
  | .null => "NoneType"
  | .bool _ => "bool"
  | .int _ => "int"
  | .float _ => "float"
  | .text _ => "str"
  | .bytes _ => "bytes"
  | .moment _ (.day _) => "date"
  | .moment _ (.time ..) => "datetime"
  | .list .. => "list"
  | .map .. => "dict"
  | .set .. => "set"
  | .enclosing _ => "dict"

/-! ### Values as texts -/

/-- Texts with commas between them. -/
def commaJoin (parts : List Text) : Text := Text.intercalate ", " parts

mutual

/-- A value inside a collection, as a text. -/
def inner : Document → Text
  | .null => "None"
  | .bool b => if b then "True" else "False"
  | .int i => Text.ofInt i
  | .float x => x.toText
  | .text s => Text.quoted s
  | .bytes bs => Text.quotedBytes bs
  | .moment _ m => m.text " "
  | .list _ items => "[" ++ commaJoin (innerItems items) ++ "]"
  | .map _ entries => "\x7b" ++ commaJoin (innerEntries entries) ++ "\x7d"
  | .set _ items => "\x7b" ++ commaJoin (innerItems items) ++ "\x7d"
  | .enclosing _ => "[...]"

/-- Items as texts. -/
def innerItems : List Document → List Text
  | [] => []
  | d :: rest => d.inner :: innerItems rest

/-- Entries as texts. -/
def innerEntries : List (Document × Document) → List Text
  | [] => []
  | (k, v) :: rest => (k.inner ++ ": " ++ v.inner) :: innerEntries rest

end

/-- A value as a text: a text is itself. -/
def display : Document → Text
  | .text s => s
  | d => d.inner

/-! ### JSON values and cycles -/

mutual

/-- A JSON value as a document; labels count up from `next`, and the first unused one is returned. -/
def ofJsonFrom (next : Nat) : Json → Document × Nat
  | .null => (.null, next)
  | .bool b => (.bool b, next)
  | .int i => (.int i, next)
  | .float x => (.float x, next)
  | .text s => (.text s, next)
  | .list items =>
    let (ds, n) := ofJsonItems (next + 1) items
    (.list next ds, n)
  | .object es =>
    let (ds, n) := ofJsonEntries (next + 1) es
    (.map next ds, n)

/-- Items as documents. -/
def ofJsonItems (next : Nat) : List Json → List Document × Nat
  | [] => ([], next)
  | v :: rest =>
    let (d, n) := ofJsonFrom next v
    let (ds, n) := ofJsonItems n rest
    (d :: ds, n)

/-- Entries as documents. -/
def ofJsonEntries (next : Nat) : List (Text × Json) → List (Document × Document) × Nat
  | [] => ([], next)
  | (k, v) :: rest =>
    let (d, n) := ofJsonFrom next v
    let (ds, n) := ofJsonEntries n rest
    ((.text k, d) :: ds, n)

end

/-- A JSON value as a document in which no two places share a value. -/
def ofJson (v : Json) : Document := (ofJsonFrom 0 v).1

mutual

/-- Whether a value contains itself. -/
def isCyclic : Document → Bool
  | .enclosing _ => true
  | .list _ items => anyCyclic items
  | .map _ entries => anyCyclicEntry entries
  | _ => false

/-- Whether an item contains itself. -/
def anyCyclic : List Document → Bool
  | [] => false
  | d :: rest => d.isCyclic || anyCyclic rest

/-- Whether an entry contains itself. -/
def anyCyclicEntry : List (Document × Document) → Bool
  | [] => false
  | (k, v) :: rest => k.isCyclic || v.isCyclic || anyCyclicEntry rest

end

end Document

end LintPreview
