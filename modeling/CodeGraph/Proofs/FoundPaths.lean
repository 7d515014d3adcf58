import CodeGraph.Proofs.PathSearch
import CodeGraph.Proofs.Walks
import Mathlib.Data.List.Chain

/-!
# The paths that a search finds

A search reads its way back from the node at which it stopped to the start. Every node on the way
was met from the one before it, so what comes out is a path: it begins at the start, ends at the
target, and goes along edges.

Main definitions:

- `IsPath`: a list of ids leads along edges from one id to another;
- `Search.Sound`: what a search keeps, whatever it looks for.

Main statements:

- `Search.Sound.step`, `Search.Sound.run`: what every step keeps holds after a whole run;
- `Search.Rooted.isPath_wayBack`: a way back is a path;
- `Store.isPath_of_shortestPath`: every path that is found is one.
-/
namespace CodeGraph

/-- A list of ids leads along edges from one id to another. -/
structure IsPath (next : String → List String) (source target : String) (path : List String) :
    Prop where
  head : path.head? = some source
  last : path.getLast? = some target
  chain : path.IsChain (Follows next)

namespace IsPath

variable {next : String → List String} {u v w : String} {path : List String}

theorem single (next : String → List String) (u : String) : IsPath next u u [u] :=
  ⟨rfl, rfl, List.isChain_singleton u⟩

/-- A path may be made longer at its start. -/
theorem cons (h : IsPath next w v (w :: path)) (edge : w ∈ next u) :
    IsPath next u v (u :: w :: path) where
  head := rfl
  last := by
    rw [List.getLast?_cons_cons]
    exact h.last
  chain := List.IsChain.cons_cons edge h.chain

/-- A path may be made longer at its end. -/
theorem concat (h : IsPath next u w path) (edge : v ∈ next w) : IsPath next u v (path ++ [v]) where
  head := by
    rw [List.head?_append, h.head]
    rfl
  last := List.getLast?_concat
  chain := by
    refine List.isChain_append.2 ⟨h.chain, List.isChain_singleton v, ?_⟩
    intro x hx y hy
    rw [h.last, Option.mem_some_iff] at hx
    rw [List.head?_cons, Option.mem_some_iff] at hy
    subst hx hy
    exact edge

/-- A path is a walk with one edge less than it has ids. -/
theorem exists_walk (h : IsPath next u v path) :
    ∃ n, path.length = n + 1 ∧ Walk (Follows next) n u v := by
  induction path generalizing u with
  | nil => cases h.head
  | cons x path ih =>
    obtain rfl : x = u := Option.some.inj h.head
    cases path with
    | nil =>
      obtain rfl : x = v := Option.some.inj h.last
      exact ⟨0, rfl, .here x⟩
    | cons y path =>
      obtain ⟨edge, chain⟩ := List.isChain_cons_cons.1 h.chain
      have last := h.last
      rw [List.getLast?_cons_cons] at last
      obtain ⟨n, size, walk⟩ := ih ⟨rfl, last, chain⟩
      exact ⟨n + 1, by rw [List.length_cons, size], .step edge walk⟩

end IsPath

namespace Search

variable {next : String → List String} {maxHops : Option Int} {source target : String}
  {s : Search} {origins : Table String String}

/-- What a search keeps: each node that it met was met from an earlier one, only such nodes are
expanded, and it stops only where the target follows. -/
structure Sound (next : String → List String) (source target : String) (s : Search) : Prop where
  rooted : Rooted next source s.origins
  queue_met : ∀ e ∈ s.queue, e.1 ∈ source :: s.origins.keys
  stopped : ∀ id, s.last = some id → target ∈ next id

theorem sound_begin (next : String → List String) (source target : String) :
    Sound next source target (begin source) where
  rooted := by
    intro v hv
    cases hv
  queue_met := by simp [begin]
  stopped := by
    intro id stopped
    cases stopped

theorem Sound.step (h : Sound next source target s) (maxHops : Option Int) :
    Sound next source target (step next maxHops source target s) := by
  obtain ⟨origins, queue, last⟩ := s
  have queue_met : ∀ e ∈ queue, e.1 ∈ source :: origins.keys := h.queue_met
  have rooted : Rooted next source origins := h.rooted
  unfold Search.step
  split
  · next id distance rest running more =>
    obtain rfl : last = none := running
    obtain rfl : queue = (id, distance) :: rest := more
    have hid : id ∈ source :: origins.keys := queue_met _ List.mem_cons_self
    have rest_met : ∀ e ∈ rest, e.1 ∈ source :: origins.keys := by
      intro e he
      exact queue_met e (List.mem_cons_of_mem _ he)
    split
    · exact ⟨rooted, rest_met, h.stopped⟩
    · split
      · next here =>
        refine ⟨rooted, queue_met, ?_⟩
        intro v stopped
        obtain rfl := Option.some.inj stopped
        exact here
      · refine ⟨rooted.note hid, ?_, h.stopped⟩
        have fresh : ∀ v ∈ unseen (source :: origins.keys) (next id), v ∉ origins.keys := by
          intro v hv old
          exact (mem_unseen_iff.1 hv).2 (List.mem_cons_of_mem source old)
        intro e he
        rw [keys_note (nodup_unseen _ _) fresh, ← List.cons_append]
        rcases List.mem_append.1 he with old | new
        · exact List.mem_append_left _ (rest_met e old)
        · obtain ⟨v, hv, rfl⟩ := List.mem_map.1 new
          exact List.mem_append_right _ hv
  · exact h

theorem Sound.run (h : Sound next source target s) (maxHops : Option Int) (n : Nat) :
    Sound next source target (run next maxHops source target n s) := by
  induction n generalizing s with
  | zero => exact h
  | succ n ih => exact ih (h.step maxHops)

/-- A way back is put in front of a path, each node before the one that was met from it. -/
theorem Rooted.isPath_wayBack (h : Rooted next source origins) {n : Nat} {id : String}
    {path way : List String} (onward : IsPath next id target (id :: path))
    (found : wayBack? origins source n id path = some way) : IsPath next source target way := by
  induction n generalizing id path with
  | zero => cases found
  | succ n ih =>
    rw [wayBack?] at found
    split at found
    · next home =>
      obtain rfl := Option.some.inj found
      rw [home] at onward ⊢
      exact onward
    · split at found
      · cases found
      · next u met =>
        have known : id ∈ origins.keys := by
          by_contra unknown
          rw [Table.get?_eq_none_iff.2 unknown] at met
          cases met
        obtain ⟨w, met', edge, -⟩ := h id known
        obtain rfl := Option.some.inj (met.symm.trans met')
        exact ih (onward.cons edge) found

/-- A way to a target, with the target put at its end, is a path. -/
theorem isPath_of_wayTo {size : Nat} {way : List String}
    (found : wayTo? next maxHops source target size = some way) :
    IsPath next source target (way ++ [target]) := by
  have sound := (sound_begin next source target).run maxHops (size + 1)
  unfold wayTo? at found
  obtain ⟨id, stopped, back⟩ := Option.bind_eq_some_iff.1 found
  exact (sound.rooted.isPath_wayBack (.single next id) back).concat (sound.stopped id stopped)

end Search

/-- Every path that is found leads along edges of the types from the one node to the other. -/
theorem Store.isPath_of_shortestPath {g : Store} {u v : String} {maxHops : Option Int}
    {types : Option (List String)} {path : List String}
    (found : g.shortestPath u v maxHops types = .ok path) :
    IsPath (fun id => g.neighbors id types) u v path := by
  unfold shortestPath at found
  split at found
  · cases found
  · split at found
    · cases found
    · split at found
      · next same =>
        obtain rfl := Except.ok.inj found
        rw [same]
        exact .single _ v
      · split at found
        · next way search =>
          obtain rfl := Except.ok.inj found
          exact Search.isPath_of_wayTo search
        · cases found

end CodeGraph
