import CodeGraph.Document.Moment
import CodeGraph.Number.Basic
import CodeGraph.Text.Quoted

/-!
# Document values

The values that JSON and TOML documents hold. An object keeps its entries in order; its keys are
texts when it was read from a file, and may be other scalars when it was made of a list of pairs.

Main definitions:

- `Value.isEmptyLike`: the values that count as absent where a document may leave something out;
- `Value.same`: equality by value, which looks through the forms of numbers and the order of
  entries;
- `Value.display`, `Value.quotedForm`: the text of a value by itself, and inside another value.

Main statement:

- `Value.same_refl`: every value equals itself.
-/
namespace CodeGraph

/-- The key of an object entry. -/
inductive Key where
  | null
  | bool (b : Bool)
  | number (n : Number)
  | text (s : String)
  deriving DecidableEq, Repr

/-- A value of a document. -/
inductive Value where
  | null
  | bool (b : Bool)
  | number (n : Number)
  | text (s : String)
  | moment (m : Moment)
  | list (items : List Value)
  | object (entries : List (Key × Value))
  deriving Repr

instance : Inhabited Value := ⟨.null⟩

/-- The kinds of values. -/
inductive Kind where
  | null
  | bool
  | int
  | float
  | text
  | date
  | time
  | dateTime
  | list
  | object
  deriving DecidableEq, Repr

/-- The name of a kind in messages. -/
def Kind.name : Kind → String
  | .null => "NoneType"
  | .bool => "bool"
  | .int => "int"
  | .float => "float"
  | .text => "str"
  | .date => "datetime.date"
  | .time => "datetime.time"
  | .dateTime => "datetime.datetime"
  | .list => "list"
  | .object => "dict"

namespace Value

/-- A whole number. -/
abbrev int (n : Int) : Value := .number (.int n)

/-- An object whose keys are texts. -/
def record (entries : List (String × Value)) : Value :=
  .object (entries.map fun e => (.text e.1, e.2))

/-- A list of texts. -/
def texts (ss : List String) : Value := .list (ss.map .text)

/-- The kind of a value. -/
def kind : Value → Kind
  | .null => .null
  | .bool _ => .bool
  | .number (.int _) => .int
  | .number (.float _) => .float
  | .text _ => .text
  | .moment (.date _) => .date
  | .moment (.time _) => .time
  | .moment (.dateTime ..) => .dateTime
  | .list _ => .list
  | .object _ => .object

/-- Whether a value counts as absent: null, false, zero, and everything empty. -/
def isEmptyLike : Value → Bool
  | .null => true
  | .bool b => !b
  | .number n => n.isZero
  | .text s => s.isEmpty
  | .moment _ => false
  | .list items => items.isEmpty
  | .object entries => entries.isEmpty

/-- The number a value stands for; truth values stand for one and zero. -/
def number? : Value → Option Number
  | .bool b => some (.int (if b then 1 else 0))
  | .number n => some n
  | _ => none

end Value

namespace Key

/-- A key as a value. -/
def toValue : Key → Value
  | .null => .null
  | .bool b => .bool b
  | .number n => .number n
  | .text s => .text s

/-- The number a key stands for. -/
def number? (k : Key) : Option Number := k.toValue.number?

/-- Whether two keys are one key: numbers and truth values by value, texts by their characters. -/
def same (a b : Key) : Bool :=
  match a.number?, b.number? with
  | some m, some n => m.same n
  | none, none => a == b
  | _, _ => false

theorem same_refl (k : Key) : k.same k = true := by
  cases k <;> simp [same, number?, toValue, Value.number?, Number.same_refl]

/-- The text of a key inside an object. -/
def quotedForm : Key → String
  | .null => "None"
  | .bool b => if b then "True" else "False"
  | .number n => n.text
  | .text s => Text.quoted s

end Key

namespace Value

/-- The value of the first entry with a key. -/
def lookup? (k : Key) : List (Key × Value) → Option Value
  | [] => none
  | (j, v) :: es => if k.same j then some v else lookup? k es

/-- Write an entry: over the entry with the same key, or at the end. -/
def setEntry (k : Key) (v : Value) : List (Key × Value) → List (Key × Value)
  | [] => [(k, v)]
  | (j, w) :: es => if k.same j then (j, v) :: es else (j, w) :: setEntry k v es

/-- The value of an object under a text. -/
def field? (name : String) : Value → Option Value
  | .object entries => lookup? (.text name) entries
  | _ => none

mutual

/-- Whether two values are equal: numbers by value, lists in order, objects as sets of entries. -/
def same : Value → Value → Bool
  | .list as, .list bs => sameItems as bs
  | .object as, .object bs => as.length == bs.length && sameEntries as bs
  | .null, .null => true
  | .text s, .text t => s == t
  | .moment m, .moment n => m == n
  | .bool a, b => (Value.bool a).number?.any fun m => b.number?.any m.same
  | .number a, b => b.number?.any a.same
  | _, _ => false

/-- Whether two lists are equal member by member. -/
def sameItems : List Value → List Value → Bool
  | [], [] => true
  | a :: as, b :: bs => same a b && sameItems as bs
  | _, _ => false

/-- Whether all entries of a list have an equal partner in another. -/
def sameEntries : List (Key × Value) → List (Key × Value) → Bool
  | [], _ => true
  | (k, a) :: as, bs => bs.any (fun e => k.same e.1 && same a e.2) && sameEntries as bs

end

mutual

/-- The text of a value inside a list or an object. -/
def quotedForm : Value → String
  | .null => "None"
  | .bool b => if b then "True" else "False"
  | .number n => n.text
  | .text s => Text.quoted s
  | .moment m => m.quotedText
  | .list items => "[" ++ String.intercalate ", " (quotedItems items) ++ "]"
  | .object entries => "\x7b" ++ String.intercalate ", " (quotedEntries entries) ++ "\x7d"

/-- The texts of list members. -/
def quotedItems : List Value → List String
  | [] => []
  | v :: vs => quotedForm v :: quotedItems vs

/-- The texts of object entries. -/
def quotedEntries : List (Key × Value) → List String
  | [] => []
  | (k, v) :: es => (k.quotedForm ++ ": " ++ quotedForm v) :: quotedEntries es

end

/-- The text of a value by itself. A text shows as it is. -/
def display : Value → String
  | .text s => s
  | .moment m => m.text
  | v => v.quotedForm

@[simp] theorem display_text (s : String) : (Value.text s).display = s := rfl

mutual

/-- Every value equals itself. -/
theorem same_refl : ∀ v : Value, v.same v = true
  | .null => by simp [same]
  | .bool b => by simp [same, number?, Number.same_refl]
  | .number n => by simp [same, number?, Number.same_refl]
  | .text s => by simp [same]
  | .moment m => by simp [same]
  | .list items => by simp [same, sameItems_refl items]
  | .object entries => by simp [same, sameEntries_of_subset entries entries fun _ he => he]

theorem sameItems_refl : ∀ items : List Value, sameItems items items = true
  | [] => by simp [sameItems]
  | v :: vs => by simp [sameItems, same_refl v, sameItems_refl vs]

theorem sameEntries_of_subset : ∀ as bs : List (Key × Value), as ⊆ bs → sameEntries as bs = true
  | [], _, _ => by simp [sameEntries]
  | (k, v) :: es, bs, h => by
    have here : bs.any (fun e => k.same e.1 && same v e.2) = true :=
      List.any_eq_true.2 ⟨(k, v), h (by simp), by simp [k.same_refl, same_refl v]⟩
    have rest : sameEntries es bs = true := sameEntries_of_subset es bs fun e he => h (by simp [he])
    simp [sameEntries, here, rest]

end

end Value

end CodeGraph
