import CodeGraph.Facts.Load
import CodeGraph.Proofs.Results
import CodeGraph.Proofs.SavedManifests

/-!
# Records that are read twice

A reader puts a record into its normal form: ids and names become texts, a node without a name goes
by its id, metadata become entries, and versions that count as absent go. What was read can be
written and read again, and is then what it was, because each part of a normal form is read as it
stands.

Main statements:

- `Value.display_eq_empty_iff`: only the empty text shows as nothing;
- `Node.ofValue_toValue`, `Edge.ofValue_toValue`: what is read of a node or an edge that was
  written;
- `Node.name_of_ofValue`, `Manifest.trimmed_of_ofValue`: what was read has a name if it has an id,
  and no empty versions;
- `rereading_exact`: whatever can be read comes back as it was read.
-/
namespace CodeGraph

/-! ## Values that show as nothing -/

theorem Double.text_ne_empty (x : Double) : x.text ≠ "" := by
  have shown (digits : List Char) (point : Int) : digitsText digits point ≠ "" := by
    unfold digitsText
    split
    · simp [String.append_eq_empty_iff]
    · split <;> simp [String.append_eq_empty_iff]
  unfold text
  split
  · decide
  · split <;> decide
  · dsimp only
    split
    · simp [String.append_eq_empty_iff]
    · simp [String.append_eq_empty_iff, shown]

theorem Number.text_ne_empty (n : Number) : n.text ≠ "" := by
  cases n with
  | int n =>
    cases n with
    | ofNat n => exact Nat.repr_ne_empty
    | negSucc n => simp [text, toString, Int.repr, String.append_eq_empty_iff]
  | float x => exact x.text_ne_empty

theorem Moment.text_ne_empty (m : Moment) : m.text ≠ "" := by
  cases m <;> simp [text, Date.text, Clock.text, String.append_eq_empty_iff]

/-- Only the empty text shows as nothing. -/
theorem Value.display_eq_empty_iff {v : Value} : v.display = "" ↔ v = .text "" := by
  cases v with
  | null => simp [display, quotedForm]
  | bool b => cases b <;> simp [display, quotedForm]
  | number n => simp [display, quotedForm, n.text_ne_empty]
  | text s => simp
  | moment m => simp [display, m.text_ne_empty]
  | list items => simp [display, quotedForm, String.append_eq_empty_iff]
  | object entries => simp [display, quotedForm, String.append_eq_empty_iff]

theorem Value.display_ne_empty_of_present {v : Value} (present : v.isEmptyLike = false) :
    v.display ≠ "" := by
  rw [Ne, display_eq_empty_iff]
  rintro rfl
  cases present

/-! ## Nodes and edges -/

/-- Entries are the metadata that they stand for. -/
theorem Metadata.ofValue_object (m : Metadata) : Metadata.ofValue (.object m) = .ok m := by
  cases m <;> rfl

namespace Node

/-- A node is read as it was written, but for a name that is empty. -/
theorem ofValue_toValue (n : Node) :
    ofValue n.toValue = .ok { n with name := if n.name = "" then n.id else n.name } := by
  have id : n.toValue.item "id" = .ok (.text n.id) := Value.item_record ..
  have type : n.toValue.item "type" = .ok (.text n.type) := Value.item_record ..
  have name : n.toValue.get "name" = .ok (.text n.name) := Value.get_record ..
  have metadata : n.toValue.get "metadata" = .ok (.object n.metadata) := Value.get_record ..
  have named : ((Value.text n.name).orElse (.text n.id)).display =
      if n.name = "" then n.id else n.name := by
    by_cases empty : n.name = "" <;> simp [Value.orElse, Value.isEmptyLike, empty]
  simp only [ofValue, id, type, name, metadata, Metadata.ofValue_object, bind, Except.bind, named]
  rfl

/-- A node that was read has a name, unless its id is empty too. -/
theorem name_of_ofValue {v : Value} {n : Node} (read : ofValue v = .ok n) (unnamed : n.name = "") :
    n.id = "" := by
  obtain ⟨id, -, read⟩ := bind_eq_ok_iff.1 read
  obtain ⟨type, -, read⟩ := bind_eq_ok_iff.1 read
  obtain ⟨name, -, read⟩ := bind_eq_ok_iff.1 read
  obtain ⟨metadata, -, read⟩ := bind_eq_ok_iff.1 read
  obtain ⟨entries, -, read⟩ := bind_eq_ok_iff.1 read
  obtain rfl := Except.ok.inj read
  cases present : name.isEmptyLike with
  | true => simpa [Value.orElse, present] using unnamed
  | false =>
    have shown : name.display = "" := by simpa [Value.orElse, present] using unnamed
    exact absurd shown (Value.display_ne_empty_of_present present)

theorem ofValue_toValue_of_read {v : Value} {n : Node} (read : ofValue v = .ok n) :
    ofValue n.toValue = .ok n := by
  rw [ofValue_toValue]
  split
  · next unnamed =>
    have both : n.id = n.name := (name_of_ofValue read unnamed).trans unnamed.symm
    exact congrArg (fun name => Except.ok { n with name := name }) both
  · rfl

end Node

/-- An edge is read as it was written. -/
theorem Edge.ofValue_toValue (e : Edge) : ofValue e.toValue = .ok e := by
  have source : e.toValue.item "source" = .ok (.text e.source) := Value.item_record ..
  have target : e.toValue.item "target" = .ok (.text e.target) := Value.item_record ..
  have type : e.toValue.item "type" = .ok (.text e.type) := Value.item_record ..
  have metadata : e.toValue.get "metadata" = .ok (.object e.metadata) := Value.get_record ..
  simp only [ofValue, source, target, type, metadata, Metadata.ofValue_object, bind, Except.bind]
  rfl

/-! ## Manifests -/

theorem Dependency.versionOf_ne_empty (v : Value) : versionOf v ≠ some "" := by
  unfold versionOf
  split
  · nofun
  · next present =>
    rw [Ne, Option.some_inj]
    exact Value.display_ne_empty_of_present (by simpa using present)

theorem Dependency.trimmed_of_ofValue {v : Value} {d : Dependency} (read : ofValue v = .ok d) :
    d.trimmed = d := by
  have constrained : d.version ≠ some "" := by
    unfold ofValue at read
    split at read
    · obtain rfl := Except.ok.inj read
      nofun
    · obtain ⟨version, -, read⟩ := bind_eq_ok_iff.1 read
      obtain ⟨name, -, read⟩ := bind_eq_ok_iff.1 read
      obtain rfl := Except.ok.inj read
      exact versionOf_ne_empty version
  rw [trimmed, if_neg constrained]

namespace Manifest

theorem trimmed_of_dependenciesOf {v : Value} {ds : List Dependency}
    (read : dependenciesOf v = .ok ds) : ds.map Dependency.trimmed = ds := by
  obtain ⟨members, -, read⟩ := bind_eq_ok_iff.1 read
  have kept : ∀ d ∈ ds, d.trimmed = id d := by
    intro d hd
    obtain ⟨v, -, found⟩ := exists_of_mem_of_mapM_eq_ok read hd
    exact Dependency.trimmed_of_ofValue found
  rw [List.map_congr_left kept, List.map_id]

/-- A manifest that was read has no empty versions. -/
theorem trimmed_of_ofValue {v : Value} {m : Manifest} (read : ofValue v = .ok m) :
    m.trimmed = m := by
  obtain ⟨name, -, read⟩ := bind_eq_ok_iff.1 read
  obtain ⟨needed, -, read⟩ := bind_eq_ok_iff.1 read
  obtain ⟨dependencies, dependencies_read, read⟩ := bind_eq_ok_iff.1 read
  obtain ⟨dev, -, read⟩ := bind_eq_ok_iff.1 read
  obtain ⟨devDependencies, dev_read, read⟩ := bind_eq_ok_iff.1 read
  obtain ⟨language, -, read⟩ := bind_eq_ok_iff.1 read
  obtain rfl := Except.ok.inj read
  simp only [trimmed, trimmed_of_dependenciesOf dependencies_read,
    trimmed_of_dependenciesOf dev_read]

theorem ofValue_toValue_of_read {v : Value} {m : Manifest} (read : ofValue v = .ok m) :
    ofValue m.toValue = .ok m := by
  rw [ofValue_toValue, trimmed_of_ofValue read]

end Manifest

/-! ## Facts -/

namespace Facts

/-- A list of records that come back one by one comes back. -/
theorem readList_of_forall {α : Type} {reader : Value → Except Fault α} {writer : α → Value}
    {name : String} {v : Value} {as : List α} (listed : v.get name = .ok (.list (as.map writer)))
    (each : ∀ a ∈ as, reader (writer a) = .ok a) : readList reader name v = .ok as := by
  have read : (as.map writer).mapM reader = .ok as := by
    rw [List.mapM_map]
    exact (mapM_eq_ok each).trans (congrArg Except.ok (List.map_id as))
  unfold readList
  rw [listed]
  -- no records are written as a list that counts as absent, and stand for none
  cases as with
  | nil => rfl
  | cons a as => exact read

theorem forall_of_readList {α : Type} {reader : Value → Except Fault α} {name : String} {v : Value}
    {as : List α} (read : readList reader name v = .ok as) {P : α → Prop}
    (each : ∀ {r a}, reader r = .ok a → P a) : ∀ a ∈ as, P a := by
  obtain ⟨listed, -, read⟩ := bind_eq_ok_iff.1 read
  obtain ⟨members, -, read⟩ := bind_eq_ok_iff.1 read
  intro a ha
  obtain ⟨r, -, found⟩ := exists_of_mem_of_mapM_eq_ok read ha
  exact each found

theorem ofValue_toValue_of_read {v : Value} {f : Facts} (read : ofValue v = .ok f) :
    ofValue f.toValue = .ok f := by
  obtain ⟨nodes, nodes_read, read⟩ := bind_eq_ok_iff.1 read
  obtain ⟨edges, edges_read, read⟩ := bind_eq_ok_iff.1 read
  obtain ⟨manifests, manifests_read, read⟩ := bind_eq_ok_iff.1 read
  obtain rfl := Except.ok.inj read
  let facts : Facts := ⟨nodes, edges, manifests⟩
  have nodes_again : readList Node.ofValue "nodes" facts.toValue = .ok nodes :=
    readList_of_forall (Value.get_record ..)
      (forall_of_readList nodes_read Node.ofValue_toValue_of_read)
  have edges_again : readList Edge.ofValue "edges" facts.toValue = .ok edges :=
    readList_of_forall (Value.get_record ..) fun e _ => e.ofValue_toValue
  have manifests_again : readList Manifest.ofValue "manifests" facts.toValue = .ok manifests :=
    readList_of_forall (Value.get_record ..)
      (forall_of_readList manifests_read Manifest.ofValue_toValue_of_read)
  rw [ofValue, nodes_again, edges_again, manifests_again]
  rfl

end Facts

/-- Whatever can be read is in a form that is written and read again without a change: nodes, edges,
manifests, and the facts that list them. -/
theorem rereading_exact :
    (∀ v n, Node.ofValue v = .ok n → Node.ofValue n.toValue = .ok n) ∧
    (∀ v e, Edge.ofValue v = .ok e → Edge.ofValue e.toValue = .ok e) ∧
    (∀ v m, Manifest.ofValue v = .ok m → Manifest.ofValue m.toValue = .ok m) ∧
    ∀ v f, Facts.read v = .ok f → Facts.read f.toValue = .ok f := by
  refine ⟨fun _ _ => Node.ofValue_toValue_of_read, fun _ e _ => e.ofValue_toValue,
    fun _ _ => Manifest.ofValue_toValue_of_read, fun v f read => ?_⟩
  have found : Facts.ofValue v = .ok f := by
    unfold Facts.read at read
    split at read
    · next found => rw [found, Except.ok.inj read]
    · cases read
  rw [Facts.read, Facts.ofValue_toValue_of_read found]

/-- A node whose id is no text and whose name counts as absent, with metadata that are listed in
pairs. -/
def looseNode : Value :=
  .record [("id", .int 0), ("type", .text "function"), ("name", .list []),
    ("metadata", .list [.text "ab", .list [.bool true, .null]])]

def looseEdge : Value :=
  .record [("source", .int 0), ("target", .null), ("type", .bool true), ("metadata", .text "")]

/-- A manifest whose dependencies are the characters of a text. -/
def looseManifest : Value :=
  .record [("name", .int 7), ("dependencies", .text "ab"),
    ("dev_dependencies", .list [.record [("name", .text ""), ("version", .int 0)]])]

def looseFacts : Value :=
  .record [("nodes", .list [looseNode]), ("edges", .list [looseEdge]),
    ("manifests", .list [looseManifest])]

theorem rereading_exact_looseFacts :
    ∃ n e m, Node.ofValue looseNode = .ok n ∧ Edge.ofValue looseEdge = .ok e ∧
      Manifest.ofValue looseManifest = .ok m ∧ Facts.read looseFacts = .ok ⟨[n], [e], [m]⟩ ∧
      Node.ofValue n.toValue = .ok n ∧ Edge.ofValue e.toValue = .ok e ∧
      Manifest.ofValue m.toValue = .ok m ∧
      Facts.read (Facts.toValue ⟨[n], [e], [m]⟩) = .ok ⟨[n], [e], [m]⟩ :=
  have ⟨nodes, edges, manifests, facts⟩ := rereading_exact
  ⟨⟨"0", "function", "0", [(.text "a", .text "b"), (.bool true, .null)]⟩, ⟨"0", "None", "True", []⟩,
    ⟨"7", [⟨"a", none⟩, ⟨"b", none⟩], [⟨"", none⟩], .null⟩, rfl, rfl, rfl, rfl,
    nodes looseNode _ rfl, edges looseEdge _ rfl, manifests looseManifest _ rfl,
    facts looseFacts _ rfl⟩

end CodeGraph
