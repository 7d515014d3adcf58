import CodeGraph.Document.Value

/-!
# Faults of documents

A document that reads well may still not have the shape that its reader asks for. A `Fault` says
what was asked of which kind of value. Faults fall into five categories; the first three mean that
the document is malformed, the fourth that a value of the right kind is out of bounds, and the last
that values are nested too deeply.
-/
namespace CodeGraph

/-- The five categories of faults. -/
inductive Fault.Category where
  | missingKey
  | wrongKind
  | noMember
  | badValue
  | tooDeep
  deriving DecidableEq, Repr

/-- What is wrong with a value of a document. -/
inductive Fault where
  /-- An object lacks a key that it must have. -/
  | missingKey (key : String)
  /-- A value without parts was asked for the part under a key. -/
  | noParts (kind : Kind)
  /-- A list was asked for the part under a key. -/
  | listByKey
  /-- A text was asked for the part under a key. -/
  | textByKey
  /-- A value was asked for what only values of another kind offer. -/
  | noMember (kind : Kind) (member : String)
  /-- A value without members was asked for its members. -/
  | noMembers (kind : Kind)
  /-- A value that may change was used as a key. -/
  | notAKey (kind : Kind)
  /-- Values of two kinds have no order. -/
  | noOrder (relation : String) (left right : Kind)
  /-- The end of a slice is not a whole number. -/
  | sliceEnd
  /-- A member of a list of pairs has no members itself. -/
  | notAPair (index : Nat)
  /-- A member of a list of pairs has some other number of members. -/
  | pairLength (index length : Nat)
  /-- A whole number has more digits than are converted. -/
  | tooManyDigits (count : Nat)
  /-- A whole number is too long to be shown. -/
  | tooLongToShow
  /-- A path holds the character that ends a path. -/
  | nullInPath
  /-- Values are nested too deeply, as was seen in the middle of something. -/
  | tooDeep (task : String)
  deriving DecidableEq, Repr

/-- The longest run of digits that is converted to a whole number, or a whole number to. -/
def maxDigits : Nat := 4300

namespace Fault

/-- The category of a fault. -/
def category : Fault → Fault.Category
  | .missingKey _ => .missingKey
  | .noMember .. => .noMember
  | .pairLength .. => .badValue
  | .tooManyDigits _ => .badValue
  | .tooLongToShow => .badValue
  | .nullInPath => .badValue
  | .tooDeep _ => .tooDeep
  | _ => .wrongKind

/-- The name that messages give to a category. -/
def Category.name : Fault.Category → String
  | .missingKey => "KeyError"
  | .wrongKind => "TypeError"
  | .noMember => "AttributeError"
  | .badValue => "ValueError"
  | .tooDeep => "RecursionError"

/-- What a fault says, before quoting. -/
def detail : Fault → String
  | .missingKey key => key
  | .noParts k => "'" ++ k.name ++ "' object is not subscriptable"
  | .listByKey => "list indices must be integers or slices, not str"
  | .textByKey => "string indices must be integers, not 'str'"
  | .noMember k member => "'" ++ k.name ++ "' object has no attribute '" ++ member ++ "'"
  | .noMembers k => "'" ++ k.name ++ "' object is not iterable"
  | .notAKey k => "unhashable type: '" ++ k.name ++ "'"
  | .noOrder relation l r =>
    "'" ++ relation ++ "' not supported between instances of '" ++ l.name ++ "' and '" ++
      r.name ++ "'"
  | .sliceEnd => "slice indices must be integers or None or have an __index__ method"
  | .notAPair i =>
    "cannot convert dictionary update sequence element #" ++ toString i ++ " to a sequence"
  | .pairLength i n =>
    "dictionary update sequence element #" ++ toString i ++ " has length " ++ toString n ++
      "; 2 is required"
  | .tooManyDigits n =>
    "Exceeds the limit (" ++ toString maxDigits ++
      " digits) for integer string conversion: value has " ++ toString n ++
      " digits; use sys.set_int_max_str_digits() to increase the limit"
  | .tooLongToShow =>
    "Exceeds the limit (" ++ toString maxDigits ++
      " digits) for integer string conversion; use sys.set_int_max_str_digits() to increase " ++
      "the limit"
  | .nullInPath => "embedded null byte"
  | .tooDeep task => "maximum recursion depth exceeded" ++ task

/-- The message of a fault. A missing key is shown in quotes. -/
def message : Fault → String
  | .missingKey key => Text.quoted key
  | f => f.detail

/-- A fault with the name of its category, as it stands in other messages. -/
def labelled (f : Fault) : String :=
  f.category.name ++ "(" ++ Text.quoted f.detail ++ ")"

/-- Whether a fault means that the document is malformed. -/
def isShape (f : Fault) : Bool :=
  match f.category with
  | .badValue | .tooDeep => false
  | _ => true

end Fault

end CodeGraph
