import CodeGraph.Document.Fault

/-!
# Reading values

How a reader takes the values of a document apart. Each function says what it asks for and fails
with the fault that fits the kind of value it met.

Main definitions:

- `Value.item`, `Value.get`, `Value.getD`, `Value.elements`: the parts of a value;
- `Value.shown`: the text of a value that may hold whole numbers of any length.

Main statements:

- `item_record`, `get_record`, `getD_record`: a record answers for every key it has.
-/
namespace CodeGraph.Value

/-- The part of a value under a key, which must be there. -/
def item (key : String) : Value → Except Fault Value
  | .object entries =>
    match lookup? (.text key) entries with
    | some v => .ok v
    | none => .error (.missingKey key)
  | .list _ => .error .listByKey
  | .text _ => .error .textByKey
  | v => .error (.noParts v.kind)

/-- The part of an object under a key, or null. -/
def get (key : String) : Value → Except Fault Value
  | .object entries => .ok ((lookup? (.text key) entries).getD .null)
  | v => .error (.noMember v.kind "get")

/-- The part of an object under a key, or a default for a key that is not there. -/
def getD (v : Value) (key : String) (default : Value) : Except Fault Value :=
  match v with
  | .object entries => .ok ((lookup? (.text key) entries).getD default)
  | _ => .error (.noMember v.kind "get")

/-- The entries of an object. -/
def entries : Value → Except Fault (List (Key × Value))
  | .object es => .ok es
  | v => .error (.noMember v.kind "items")

/-- The values of an object. -/
def fields : Value → Except Fault (List Value)
  | .object es => .ok (es.map Prod.snd)
  | v => .error (.noMember v.kind "values")

/-- The members of a value: of a list its items, of a text its characters, of an object its
keys. -/
def elements : Value → Except Fault (List Value)
  | .list items => .ok items
  | .text s => .ok (s.toList.map fun c => .text (String.ofList [c]))
  | .object es => .ok (es.map fun e => e.1.toValue)
  | v => .error (.noMembers v.kind)

/-- A value as a key. -/
def toKey : Value → Except Fault Key
  | .null => .ok .null
  | .bool b => .ok (.bool b)
  | .number n => .ok (.number n)
  | .text s => .ok (.text s)
  | v => .error (.notAKey v.kind)

/-- The entries that a list of pairs stands for, with the index of its first pair and the entries
before it. -/
def pairsFrom (index : Nat) (done : List (Key × Value)) :
    List Value → Except Fault (List (Key × Value))
  | [] => .ok done
  | v :: vs =>
    match v.elements with
    | .error _ => .error (.notAPair index)
    | .ok [a, b] =>
      match a.toKey with
      | .error f => .error f
      | .ok k => pairsFrom (index + 1) (setEntry k b done) vs
    | .ok parts => .error (.pairLength index parts.length)

/-- The entries of an object, or those that a list of pairs stands for. -/
def mapping : Value → Except Fault (List (Key × Value))
  | .object es => .ok es
  | v => v.elements.bind (pairsFrom 0 [])

/-- A value, or another one in its place when it counts as absent. -/
def orElse (v default : Value) : Value := if v.isEmptyLike then default else v

/-- Whether a number is a whole number with more digits than are shown. -/
def isLongNumber : Number → Bool
  | .int n => Nat.pow 10 maxDigits ≤ n.natAbs
  | .float _ => false

mutual

/-- Whether a number in a value has more digits than are shown. -/
def holdsLongNumber : Value → Bool
  | .number n => isLongNumber n
  | .list items => anyHoldsLongNumber items
  | .object entries => entryHoldsLongNumber entries
  | _ => false

/-- Whether a number in a list member has more digits than are shown. -/
def anyHoldsLongNumber : List Value → Bool
  | [] => false
  | v :: vs => holdsLongNumber v || anyHoldsLongNumber vs

/-- Whether a number in an object entry has more digits than are shown. -/
def entryHoldsLongNumber : List (Key × Value) → Bool
  | [] => false
  | (k, v) :: es =>
    k.number?.any isLongNumber || holdsLongNumber v || entryHoldsLongNumber es

end

/-- The text of a value by itself, unless a number in it is too long to be shown. -/
def shown (v : Value) : Except Fault String :=
  if v.holdsLongNumber then .error .tooLongToShow else .ok v.display

theorem lookup?_map_text (name : String) (es : List (String × Value)) :
    lookup? (.text name) (es.map fun e => (Key.text e.1, e.2)) =
      (es.find? fun e => name == e.1).map Prod.snd := by
  induction es with
  | nil => rfl
  | cons e es ih =>
    have hs : Key.same (.text name) (.text e.1) = (name == e.1) := by
      simp [Key.same, Key.number?, Key.toValue, Value.number?, BEq.beq]
    simp only [List.map_cons, lookup?, hs, List.find?_cons, ih]
    cases name == e.1 <;> rfl

/-- A record answers with the first entry of a name. -/
theorem item_record (name : String) (es : List (String × Value)) :
    (record es).item name =
      match es.find? (fun e => name == e.1) with
      | some e => .ok e.2
      | none => .error (.missingKey name) := by
  unfold record item
  simp only [lookup?_map_text]
  cases es.find? (fun e => name == e.1) <;> rfl

/-- The same for a part that may be missing, and goes by a default then. -/
theorem getD_record (name : String) (es : List (String × Value)) (default : Value) :
    (record es).getD name default =
      .ok (((es.find? fun e => name == e.1).map Prod.snd).getD default) := by
  rw [← lookup?_map_text]
  rfl

theorem get_record (name : String) (es : List (String × Value)) :
    (record es).get name = .ok (((es.find? fun e => name == e.1).map Prod.snd).getD .null) := by
  rw [← lookup?_map_text]
  rfl

end CodeGraph.Value
