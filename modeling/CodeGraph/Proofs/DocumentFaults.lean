import CodeGraph.Facts.Basic
import CodeGraph.Json.Reader
import CodeGraph.Proofs.Results

/-!
# Faults of documents and records

Which faults the readers of values can meet. A JSON document that keeps to the grammar is at fault
only for a number with too many digits or for values that are nested too deeply. A record that does
not have the shape that its reader asks for is malformed, with a single exception: metadata may be
given as a list of pairs, and a member of this list that has members, but not two, is a bad value
and no bad shape.

Main statements:

- `Json.isLimit_of_read`: the faults of a JSON document;
- `Manifest.failsOnly_ofValue`, `Facts.failsOnly_ofValue`: the faults of the records.
-/
namespace CodeGraph

/-! ## Documents -/

/-- A value goes beyond a limit of its reader. -/
def Fault.IsLimit (f : Fault) : Prop :=
  (∃ n, maxDigits < n ∧ f = .tooManyDigits n) ∨ ∃ task, f = .tooDeep task

namespace Json

/-- A reader stops at a problem of the grammar or at a limit. -/
def Stop.Bounded : Stop → Prop
  | .problem .. => True
  | .badValue f => f.IsLimit

theorem failsOnly_textTail (start : List Char) (done : List Nat) (cs : List Char) :
    FailsOnly Stop.Bounded (textTail start done cs) := by
  fun_induction textTail start done cs
  all_goals first
    | assumption
    | exact .ok _
    | exact .error trivial

theorem failsOnly_unsignedNumber (start : List Char) (negative : Bool) (cs : List Char) :
    FailsOnly Stop.Bounded (unsignedNumber start negative cs) := by
  fun_cases unsignedNumber start negative cs
  · exact .error trivial
  · next long => exact .error (.inl ⟨_, long, rfl⟩)
  · exact .ok _
  · exact .ok _

theorem failsOnly_scalar (cs : List Char) : FailsOnly Stop.Bounded (scalar cs) := by
  fun_cases scalar cs
  · exact .ok _
  · exact failsOnly_unsignedNumber _ _ _
  · exact failsOnly_unsignedNumber _ _ _

/-- The grammar, by induction on the bound for the depth: each rule calls the others below it. -/
theorem failsOnly_value (depth : Nat) :
    (∀ room cs, FailsOnly Stop.Bounded (value depth room cs)) ∧
      (∀ room done cs, FailsOnly Stop.Bounded (items depth room done cs)) ∧
      ∀ room done cs, FailsOnly Stop.Bounded (members depth room done cs) := by
  induction depth with
  | zero =>
    exact ⟨fun _ _ => .error trivial, fun _ _ _ => .error trivial, fun _ _ _ => .error trivial⟩
  | succ depth ih =>
    obtain ⟨ofValue, ofItems, ofMembers⟩ := ih
    have deep (shape : String) : Stop.Bounded (tooDeep shape) := .inr ⟨_, rfl⟩
    refine ⟨fun room cs => ?_, fun room done cs => ?_, fun room done cs => ?_⟩
    · unfold value
      split
      · next ds =>
        cases tail : textTail ('"' :: ds) [] ds with
        | error e => exact .error (failsOnly_textTail _ _ _ e tail)
        | ok r => exact .ok _
      · split
        · exact .error (deep "array")
        · split
          · exact .ok _
          · exact ofItems _ _ _
      · split
        · exact .error (deep "object")
        · split
          · exact .ok _
          · exact ofMembers _ _ _
      · exact failsOnly_scalar cs
    · unfold items
      split
      · next e failed => exact .error (ofValue _ _ e failed)
      · split
        · exact .ok _
        · exact ofItems _ _ _
        · exact .error trivial
    · unfold members
      split
      · split
        · next e failed => exact .error (failsOnly_textTail _ _ _ e failed)
        · split
          · split
            · next e failed => exact .error (ofValue _ _ e failed)
            · dsimp only
              split
              · exact .ok _
              · exact ofMembers _ _ _
              · exact .error trivial
          · exact .error trivial
      · exact .error trivial

/-- A document that keeps to the grammar is at fault only for what goes beyond a limit. -/
theorem isLimit_of_read {cs : List Char} {f : Fault} (h : read cs = .error (.badValue f)) :
    f.IsLimit := by
  have stops : FailsOnly Stop.Bounded (readStopping cs) := by
    unfold readStopping
    split
    · exact .error trivial
    · split
      · next e failed => exact .error ((failsOnly_value _).1 _ _ e failed)
      · split
        · exact .ok _
        · exact .error trivial
  rw [read] at h
  cases stopped : readStopping cs with
  | ok v =>
    rw [stopped] at h
    cases h
  | error e =>
    rw [stopped] at h
    cases e with
    | problem p rest => cases h
    | badValue f' =>
      cases h
      exact stops _ stopped

end Json

/-! ## Values -/

/-- A fault says that a document is malformed. -/
def Fault.Malformed (f : Fault) : Prop := f.isShape = true

namespace Value

theorem failsOnly_item (key : String) (v : Value) : FailsOnly Fault.Malformed (v.item key) := by
  unfold item
  split
  · split
    · exact .ok _
    · exact .error rfl
  · exact .error rfl
  · exact .error rfl
  · exact .error rfl

theorem failsOnly_get (key : String) (v : Value) : FailsOnly Fault.Malformed (v.get key) := by
  unfold get
  split
  · exact .ok _
  · exact .error rfl

theorem failsOnly_elements (v : Value) : FailsOnly Fault.Malformed v.elements := by
  unfold elements
  split
  · exact .ok _
  · exact .ok _
  · exact .ok _
  · exact .error rfl

theorem failsOnly_toKey (v : Value) : FailsOnly Fault.Malformed v.toKey := by
  unfold toKey
  split
  · exact .ok _
  · exact .ok _
  · exact .ok _
  · exact .ok _
  · exact .error rfl

/-- The member at an index of what should be pairs has some other number of members. -/
def UnpairedAt (members : List Value) (index : Nat) (f : Fault) : Prop :=
  ∃ k m parts, members[k]? = some m ∧ m.elements = .ok parts ∧ parts.length ≠ 2 ∧
    f = .pairLength (index + k) parts.length

theorem UnpairedAt.cons {members : List Value} {index : Nat} {f : Fault}
    (h : UnpairedAt members (index + 1) f) (v : Value) : UnpairedAt (v :: members) index f := by
  obtain ⟨k, m, parts, listed, unfolded, odd, rfl⟩ := h
  refine ⟨k + 1, m, parts, ?_, unfolded, odd, ?_⟩
  · rw [List.getElem?_cons_succ]
    exact listed
  · rw [Nat.add_right_comm, Nat.add_assoc]

/-- What should be pairs is malformed, or has a member that is no pair. -/
theorem failsOnly_pairsFrom (index : Nat) (done : List (Key × Value)) (vs : List Value) :
    FailsOnly (fun f => f.Malformed ∨ UnpairedAt vs index f) (pairsFrom index done vs) := by
  induction vs generalizing index done with
  | nil => exact .ok done
  | cons v vs ih =>
    unfold pairsFrom
    split
    · exact .error (.inl rfl)
    · next a b pair =>
      split
      · next f noKey => exact .error (.inl (failsOnly_toKey a f noKey))
      · exact (ih _ _).mono fun f => Or.imp_right (·.cons v)
    · next parts odd unfolded =>
      refine .error (.inr ⟨0, v, parts, rfl, unfolded, fun pair => ?_, rfl⟩)
      obtain ⟨a, b, rfl⟩ := List.length_eq_two.1 pair
      exact odd a b rfl

end Value

/-! ## Records -/

/-- A value that should be metadata has a member that is no pair. -/
def Metadata.Unpaired (v : Value) (f : Fault) : Prop :=
  ∃ members, v.elements = .ok members ∧ Value.UnpairedAt members 0 f

theorem Metadata.failsOnly_ofValue (v : Value) :
    FailsOnly (fun f => f.Malformed ∨ Metadata.Unpaired v f) (Metadata.ofValue v) := by
  unfold Metadata.ofValue
  split
  · exact .ok _
  · unfold Value.mapping
    split
    · exact .ok _
    · refine .bind (fun f failed => .inl (v.failsOnly_elements f failed)) fun members unfolded => ?_
      exact (Value.failsOnly_pairsFrom 0 [] members).mono fun f =>
        Or.imp_right fun odd => ⟨members, unfolded, odd⟩

/-- A record has metadata with a member that is no pair. -/
def Value.HasUnpaired (v : Value) (f : Fault) : Prop :=
  ∃ metadata, v.get "metadata" = .ok metadata ∧ Metadata.Unpaired metadata f

theorem Node.failsOnly_ofValue (v : Value) :
    FailsOnly (fun f => f.Malformed ∨ v.HasUnpaired f) (Node.ofValue v) := by
  refine .bind ((v.failsOnly_item "id").mono fun _ => .inl) fun _ _ => ?_
  refine .bind ((v.failsOnly_item "type").mono fun _ => .inl) fun _ _ => ?_
  refine .bind ((v.failsOnly_get "name").mono fun _ => .inl) fun _ _ => ?_
  refine .bind ((v.failsOnly_get "metadata").mono fun _ => .inl) fun metadata got => ?_
  refine .bind ((Metadata.failsOnly_ofValue metadata).mono fun f =>
    Or.imp_right fun odd => ⟨metadata, got, odd⟩) fun _ _ => ?_
  exact .ok _

theorem Edge.failsOnly_ofValue (v : Value) :
    FailsOnly (fun f => f.Malformed ∨ v.HasUnpaired f) (Edge.ofValue v) := by
  refine .bind ((v.failsOnly_item "source").mono fun _ => .inl) fun _ _ => ?_
  refine .bind ((v.failsOnly_item "target").mono fun _ => .inl) fun _ _ => ?_
  refine .bind ((v.failsOnly_item "type").mono fun _ => .inl) fun _ _ => ?_
  refine .bind ((v.failsOnly_get "metadata").mono fun _ => .inl) fun metadata got => ?_
  refine .bind ((Metadata.failsOnly_ofValue metadata).mono fun f =>
    Or.imp_right fun odd => ⟨metadata, got, odd⟩) fun _ _ => ?_
  exact .ok _

theorem Dependency.failsOnly_ofValue (v : Value) :
    FailsOnly Fault.Malformed (Dependency.ofValue v) := by
  unfold Dependency.ofValue
  split
  · exact .ok _
  · refine .bind (Value.failsOnly_get "version" _) fun _ _ => ?_
    refine .bind (Value.failsOnly_item "name" _) fun _ _ => ?_
    exact .ok _

theorem Manifest.failsOnly_dependenciesOf (v : Value) :
    FailsOnly Fault.Malformed (Manifest.dependenciesOf v) :=
  .bind (Value.failsOnly_elements _) fun _ _ => .mapM fun d _ => Dependency.failsOnly_ofValue d

/-- A manifest that cannot be taken from a value is malformed. -/
theorem Manifest.failsOnly_ofValue (v : Value) :
    FailsOnly Fault.Malformed (Manifest.ofValue v) := by
  refine .bind (v.failsOnly_item "name") fun _ _ => ?_
  refine .bind (v.failsOnly_get "dependencies") fun needed _ => ?_
  refine .bind (failsOnly_dependenciesOf needed) fun _ _ => ?_
  refine .bind (v.failsOnly_get "dev_dependencies") fun dev _ => ?_
  refine .bind (failsOnly_dependenciesOf dev) fun _ _ => ?_
  refine .bind (v.failsOnly_get "language") fun _ _ => ?_
  exact .ok _

/-! ## Facts -/

/-- A value lists a record under a name. -/
def Value.Lists (v : Value) (name : String) (record : Value) : Prop :=
  ∃ listed members, v.get name = .ok listed ∧
    (listed.orElse (.list [])).elements = .ok members ∧ record ∈ members

theorem Facts.failsOnly_readList {α : Type} {reader : Value → Except Fault α}
    {odd : Value → Fault → Prop}
    (each : ∀ r, FailsOnly (fun f => f.Malformed ∨ odd r f) (reader r)) (name : String)
    (v : Value) :
    FailsOnly (fun f => f.Malformed ∨ ∃ r, v.Lists name r ∧ odd r f)
      (Facts.readList reader name v) := by
  refine .bind ((v.failsOnly_get name).mono fun _ => .inl) fun listed got => ?_
  refine .bind ((Value.failsOnly_elements _).mono fun _ => .inl) fun members unfolded => ?_
  refine .mapM fun r hr => (each r).mono fun f => Or.imp_right fun odd => ?_
  exact ⟨r, ⟨listed, members, got, unfolded, hr⟩, odd⟩

/-- A node or an edge in the value of some facts has metadata with a member that is no pair. -/
def Facts.HasUnpaired (v : Value) (f : Fault) : Prop :=
  ∃ r, (v.Lists "nodes" r ∨ v.Lists "edges" r) ∧ r.HasUnpaired f

/-- Facts that cannot be taken from a value are malformed, or have metadata that are no pairs. -/
theorem Facts.failsOnly_ofValue (v : Value) :
    FailsOnly (fun f => f.Malformed ∨ Facts.HasUnpaired v f) (Facts.ofValue v) := by
  have nodes := failsOnly_readList Node.failsOnly_ofValue "nodes" v
  have edges := failsOnly_readList Edge.failsOnly_ofValue "edges" v
  have manifests : FailsOnly (fun f => f.Malformed ∨ ∃ r, v.Lists "manifests" r ∧ False)
      (Facts.readList Manifest.ofValue "manifests" v) :=
    failsOnly_readList (fun r => (Manifest.failsOnly_ofValue r).mono fun _ => .inl) "manifests" v
  refine .bind (nodes.mono fun f => Or.imp_right fun ⟨r, listed, odd⟩ => ?_) fun _ _ => ?_
  · exact ⟨r, .inl listed, odd⟩
  refine .bind (edges.mono fun f => Or.imp_right fun ⟨r, listed, odd⟩ => ?_) fun _ _ => ?_
  · exact ⟨r, .inr listed, odd⟩
  refine .bind (manifests.mono fun f => Or.imp_right fun ⟨_, _, never⟩ => never.elim) fun _ _ => ?_
  exact .ok _

end CodeGraph
