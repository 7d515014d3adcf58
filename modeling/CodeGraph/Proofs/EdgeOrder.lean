import CodeGraph.Proofs.Building

/-!
# The order of edges

The edges of facts may come in any order. The nodes of the graph do not hang on it. Its edges can:
an import makes its target a node when its turn comes, and an edge at that node which comes earlier
does not fit yet. The order is irrelevant exactly when there is no such edge, that is, when every
edge that fits once all imports are known fits from the start.

Main definitions:

- `Facts.Agree`: two builds end alike;
- `Facts.OrderFree`: no edge waits for the import of another edge.

Main statements:

- `sift_eq_filter`: without such edges, sifting is a filter;
- `kept_last`, `countP_kept_first`: such an edge is kept in one order and dropped in another;
- `order_irrelevant_iff`: when the order of edges is irrelevant.
-/
namespace CodeGraph

/-! ## Sifting in two orders -/

namespace Facts

variable {known all base : List String} {e : Edge} {es : List Edge}

/-- Where no edge waits for another one, the edges that are kept are those that fit from the
start. -/
theorem sift_eq_filter (grown : ∀ id ∈ base, id ∈ known) (within : ∀ id ∈ known, id ∈ all)
    (brought : ∀ e ∈ es, ∀ id ∈ brings e, id ∈ all)
    (free : ∀ e ∈ es, Fits all e → Fits base e) :
    sift known es = ⟨es.filter fun e => Fits base e, es.filter fun e => ¬ Fits base e⟩ := by
  induction es generalizing known with
  | nil => rfl
  | cons e es ih =>
    have rest := ih (fun id hid => List.mem_append_left (brings e) (grown id hid))
      (fun id hid => (List.mem_append.1 hid).elim (within id) (brought e (by simp) id))
      (fun d hd => brought d (List.mem_cons_of_mem e hd))
      (fun d hd => free d (List.mem_cons_of_mem e hd))
    have fits_iff : Fits known e ↔ Fits base e :=
      ⟨fun fits => free e (by simp) (fits.mono within), fun fits => fits.mono grown⟩
    by_cases fits : Fits known e
    · rw [sift_cons_of_fits fits, rest]
      simp [fits_iff.1 fits]
    · rw [sift_cons_of_not_fits fits, rest]
      simp [mt fits_iff.2 fits]

theorem kept_append (known : List String) (es ds : List Edge) : (sift known (es ++ ds)).kept =
    (sift known es).kept ++ (sift (known ++ es.flatMap brings) ds).kept := by
  induction es generalizing known with
  | nil => simp [sift]
  | cons e es ih =>
    have rest := ih (known ++ brings e)
    rw [List.append_assoc, ← List.flatMap_cons] at rest
    by_cases fits : Fits known e
    · rw [List.cons_append, sift_cons_of_fits fits, sift_cons_of_fits fits, rest, List.cons_append]
    · rw [List.cons_append, sift_cons_of_not_fits fits, sift_cons_of_not_fits fits, rest]

/-- Edges that all fit are all kept. -/
theorem kept_of_forall_fits (h : ∀ e ∈ es, Fits known e) : (sift known es).kept = es := by
  refine kept_eq_self (List.eq_nil_iff_forall_not_mem.2 fun e he => ?_)
  exact not_fits_of_mem_dropped he (h e ((mem_sift_iff known es).2 (.inr he)))

/-- An edge that fits once all imports are known is kept with all its twins when these come last.
What a twin brings along the edge brings along itself, so the imports among the others are
enough. -/
theorem kept_last (fits : Fits (known ++ es.flatMap brings) e) :
    es.countP e.twin ≤ (sift known
      ((es.filter fun d => !e.twin d) ++ es.filter e.twin)).kept.countP e.twin := by
  have others : Fits (known ++ (es.filter fun d => !e.twin d).flatMap brings) e := by
    have known_before : ∀ id, id ∈ (known ++ es.flatMap brings) ++ brings e →
        id ∈ (known ++ (es.filter fun d => !e.twin d).flatMap brings) ++ brings e := by
      intro id hid
      simp only [List.mem_append, List.mem_flatMap] at hid ⊢
      rcases hid with (hid | ⟨d, hd, hid⟩) | hid
      · exact .inl (.inl hid)
      · by_cases twin : e.twin d = true
        · rw [brings_of_twin twin] at hid
          exact .inr hid
        · exact .inl (.inr ⟨d, List.mem_filter.2 ⟨hd, by simpa using twin⟩, hid⟩)
      · exact .inr hid
    exact ⟨known_before _ fits.1, known_before _ fits.2⟩
  have all_fit : ∀ d ∈ es.filter e.twin, Fits _ d := fun d hd =>
    others.of_twin (List.mem_filter.1 hd).2
  have twins : (es.filter e.twin).countP e.twin = es.countP e.twin := by
    simp [List.countP_filter]
  rw [kept_append, kept_of_forall_fits all_fit, List.countP_append, twins]
  exact Nat.le_add_left _ _

/-- An edge that does not fit is dropped when it comes first, so not all of its twins are kept. -/
theorem countP_kept_first (waits : ¬ Fits known e) (es : List Edge) :
    (sift known (e :: es)).kept.countP e.twin < (e :: es).countP e.twin := by
  have own : e.twin e = true := Edge.twin_iff.2 ⟨rfl, rfl, rfl⟩
  have fewer := (kept_sublist (known ++ brings e) es).countP_le (p := e.twin)
  rw [sift_cons_of_not_fits waits, List.countP_cons_of_pos own]
  exact Nat.lt_succ_of_le fewer

/-! ## Builds in two orders -/

/-- Two builds end alike: both are refused, or they make graphs that are alike. -/
def Agree : Except MissingEnd Built → Except MissingEnd Built → Prop
  | .ok b, .ok c => b.graph.Alike c.graph
  | .error _, .error _ => True
  | _, _ => False

/-- Builds that end alike are refused together. -/
theorem Agree.isOk_eq {b c : Except MissingEnd Built} (h : Agree b c) : b.isOk = c.isOk := by
  cases b with
  | ok b =>
    cases c with
    | ok c => rfl
    | error m => exact h.elim
  | error m =>
    cases c with
    | ok c => exact h.elim
    | error m => rfl

/-- No edge waits for the import of another edge: those that fit when all imports are known fit when
only the declared nodes are. -/
def OrderFree (f : Facts) : Prop :=
  ∀ e ∈ f.edges, Fits (f.nodeGraph.ids ++ f.edges.flatMap brings) e → Fits f.nodeGraph.ids e

variable {f : Facts}

/-- The nodes do not hang on the order of the edges. -/
theorem finalNode?_of_perm (h : es.Perm f.edges) :
    { f with edges := es }.finalNode? = f.finalNode? := by
  have same : ∀ id, id ∈ es.flatMap brings ↔ id ∈ f.edges.flatMap brings := fun id =>
    (h.flatMap_right brings).mem_iff
  exact congrArg (orOfIds · NodeType.dependency (f.manifests.flatMap Manifest.targets))
    (orOfIds_congr same)

/-- Two orders in which the same edges are kept make graphs that are alike. -/
theorem alike_of_kept_perm (h : es.Perm f.edges)
    (kept : ({ f with edges := es } : Facts).sifted.kept.Perm f.sifted.kept) {g k : Store}
    (hg : g.Holds f.finalNode? f.finalEdges)
    (hk : k.Holds { f with edges := es }.finalNode? { f with edges := es }.finalEdges) :
    g.Alike k := by
  rw [finalNode?_of_perm h] at hk
  exact hg.alike hk (kept.symm.append_right _)

/-- Where no edge waits for another one, the order of the edges does not matter to any of them. -/
theorem OrderFree.sifted_eq (free : f.OrderFree) (h : es.Perm f.edges) :
    ({ f with edges := es } : Facts).sifted =
      ⟨es.filter fun e => Fits f.nodeGraph.ids e, es.filter fun e => ¬ Fits f.nodeGraph.ids e⟩ := by
  refine sift_eq_filter (fun _ hid => hid) (fun _ => List.mem_append_left (f.edges.flatMap brings))
    (fun e he id hid => ?_) fun e he => free e (h.mem_iff.1 he)
  exact List.mem_append_right _ (List.mem_flatMap.2 ⟨e, h.mem_iff.1 he, hid⟩)

/-- Where no edge waits for another one, the order is irrelevant. -/
theorem OrderFree.agree (free : f.OrderFree) (h : es.Perm f.edges) (skip : Bool) :
    Agree (f.build skip) ({ f with edges := es }.build skip) := by
  have own : f.sifted = ⟨f.edges.filter fun e => Fits f.nodeGraph.ids e,
      f.edges.filter fun e => ¬ Fits f.nodeGraph.ids e⟩ := free.sifted_eq (.refl f.edges)
  have kept : ({ f with edges := es } : Facts).sifted.kept.Perm f.sifted.kept := by
    rw [own, free.sifted_eq h]
    exact h.filter _
  have dropped : ({ f with edges := es } : Facts).sifted.dropped.Perm f.sifted.dropped := by
    rw [own, free.sifted_eq h]
    exact h.filter _
  obtain ⟨b, build, -, holds⟩ := build_true f
  obtain ⟨c, build', -, holds'⟩ := build_true { f with edges := es }
  have alike := alike_of_kept_perm h kept holds holds'
  cases skip with
  | true =>
    rw [build, build']
    exact alike
  | false =>
    by_cases none : f.sifted.dropped = []
    · rw [build_false_of_nil none, build_false_of_nil (none ▸ dropped).eq_nil, build, build']
      exact alike
    · obtain ⟨m, refused⟩ := build_false_of_ne_nil none
      have some' : ({ f with edges := es } : Facts).sifted.dropped ≠ [] := fun none' =>
        none (none' ▸ dropped).symm.eq_nil
      obtain ⟨m', refused'⟩ := build_false_of_ne_nil some'
      rw [refused, refused']
      trivial

/-- When all orders agree, builds of two of them have the same edges. -/
theorem kept_perm_of_agree (agree : ∀ es, es.Perm f.edges →
      Agree (f.build true) ({ f with edges := es }.build true)) {es ds : List Edge}
    (he : es.Perm f.edges) (hd : ds.Perm f.edges) :
    (sift f.nodeGraph.ids es).kept.Perm (sift f.nodeGraph.ids ds).kept := by
  have to_first {es : List Edge} (h : es.Perm f.edges) :
      f.sifted.kept.Perm (sift f.nodeGraph.ids es).kept := by
    obtain ⟨b, build, -, holds⟩ := build_true f
    obtain ⟨c, build', -, holds'⟩ := build_true { f with edges := es }
    have alike := agree es h
    rw [build, build'] at alike
    have edges := (holds.edges_perm.symm.trans alike.edges_perm).trans holds'.edges_perm
    exact (List.perm_append_right_iff _).1 edges
  exact (to_first he).symm.trans (to_first hd)

/-- The order of the edges is irrelevant, whether edges may be left out or not, exactly when no edge
waits for the import of another edge. In any case all orders give the same nodes, and the orders
that are not refused when no edge may be left out give graphs that are alike. -/
theorem order_irrelevant_iff (f : Facts) :
    ((∀ skip es, es.Perm f.edges → Agree (f.build skip) ({ f with edges := es }.build skip)) ↔
      f.OrderFree) ∧
    (∀ skip es b c, es.Perm f.edges → f.build skip = .ok b →
      { f with edges := es }.build skip = .ok c →
        (∀ id, b.graph.node? id = c.graph.node? id) ∧
          (skip = false → b.graph.Alike c.graph)) := by
  refine ⟨⟨fun agree e he fits => ?_, fun free skip es h => free.agree h skip⟩, ?_⟩
  · by_contra waits
    obtain ⟨front, back, split⟩ := List.append_of_mem he
    have first : (e :: (front ++ back)).Perm f.edges := by
      rw [split]
      exact List.perm_middle.symm
    have last : ((f.edges.filter fun d => !e.twin d) ++ f.edges.filter e.twin).Perm
        f.edges := by
      have parts := List.filter_append_perm e.twin f.edges
      simpa using List.perm_append_comm.trans parts
    have same := (kept_perm_of_agree (agree true) first last).countP_eq e.twin
    have fewer := countP_kept_first waits (front ++ back)
    have more := kept_last fits
    have total := first.countP_eq e.twin
    omega
  · intro skip es b c h build build'
    obtain ⟨holds, -, whole⟩ := holds_of_build build
    obtain ⟨holds', -, whole'⟩ := holds_of_build build'
    refine ⟨fun id => ?_, fun strict => alike_of_kept_perm h ?_ holds holds'⟩
    · rw [holds.node?_eq, holds'.node?_eq, finalNode?_of_perm h]
    · have all := kept_eq_self (whole strict)
      have all' := kept_eq_self (whole' strict)
      rw [sifted, sifted, all, all']
      exact h

/-- A call of a module that is imported only later. -/
def lateImport : Facts where
  nodes := [⟨"a", NodeType.function, "a", []⟩]
  edges := [⟨"a", "Late", EdgeType.calls, []⟩, ⟨"a", "Late", EdgeType.imports, []⟩]

/-- The order of edges can matter: a call that comes before the import of its target is refused, and
one that comes after it is not. -/
theorem lateImport_order_matters :
    ¬ ∀ skip es, es.Perm lateImport.edges →
      Agree (lateImport.build skip) ({ lateImport with edges := es }.build skip) := by
  intro agree
  have alike := (agree false lateImport.edges.reverse (List.reverse_perm _)).isOk_eq
  have refused : (lateImport.build false).isOk = false := by decide
  have built : ({ lateImport with edges := lateImport.edges.reverse }.build false).isOk = true := by
    decide
  rw [refused, built] at alike
  cases alike

end Facts

end CodeGraph
