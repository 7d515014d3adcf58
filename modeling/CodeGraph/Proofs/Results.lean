import Mathlib.Data.List.Basic

/-!
# Results of many steps

What is known of steps that may fail carries over to what is made of them: a step after another one,
or a list of steps. These succeed exactly when every step does, and fail as one of them fails.

Main definitions:

- `FailsOnly`: a step fails with errors of one kind only.

Main statements:

- `isOk_bind_iff`, `bind_eq_ok_iff`, `FailsOnly.bind`: a step after another one;
- `mapM_eq_ok`, `exists_of_mem_of_mapM_eq_ok`, `isOk_mapM_iff`, `FailsOnly.mapM`: a list of steps.
-/
namespace CodeGraph

section Steps

variable {α β ε : Type}

theorem isOk_map {f : α → β} {x : Except ε α} : (x.map f).isOk = x.isOk := by cases x <;> rfl

theorem map_eq_error_iff {f : α → β} {x : Except ε α} {e : ε} :
    x.map f = .error e ↔ x = .error e := by
  cases x <;> simp [Except.map]

theorem isOk_iff_exists {x : Except ε α} : x.isOk = true ↔ ∃ a, x = .ok a := by
  cases x <;> simp [Except.isOk, Except.toBool]

theorem isOk_pure (a : α) : (pure a : Except ε α).isOk = true := rfl

theorem isOk_bind_iff {x : Except ε α} {f : α → Except ε β} :
    (x >>= f).isOk = true ↔ ∃ a, x = .ok a ∧ (f a).isOk = true := by
  cases x <;> simp [bind, Except.bind, Except.isOk, Except.toBool]

theorem bind_eq_ok_iff {x : Except ε α} {f : α → Except ε β} {b : β} :
    (x >>= f) = .ok b ↔ ∃ a, x = .ok a ∧ f a = .ok b := by
  cases x <;> simp [bind, Except.bind]

variable {f : α → Except ε β} {as : List α}

theorem mapM_eq_ok {g : α → β} (h : ∀ a ∈ as, f a = .ok (g a)) : as.mapM f = .ok (as.map g) := by
  induction as with
  | nil => rfl
  | cons a as ih =>
    rw [List.mapM_cons, h a List.mem_cons_self, ih fun b hb => h b (List.mem_cons_of_mem a hb)]
    rfl

theorem isOk_mapM_iff : (as.mapM f).isOk = true ↔ ∀ a ∈ as, (f a).isOk = true := by
  induction as with
  | nil => simp [pure, Except.pure, Except.isOk, Except.toBool]
  | cons a as ih =>
    rw [List.mapM_cons, List.forall_mem_cons, ← ih]
    cases f a with
    | error e => simp [bind, Except.bind, Except.isOk, Except.toBool]
    | ok b =>
      cases as.mapM f <;> simp [bind, Except.bind, pure, Except.pure, Except.isOk, Except.toBool]

theorem exists_of_mem_of_mapM_eq_ok {bs : List β} (h : as.mapM f = .ok bs) {b : β} (hb : b ∈ bs) :
    ∃ a ∈ as, f a = .ok b := by
  induction as generalizing bs with
  | nil =>
    cases h
    cases hb
  | cons a as ih =>
    rw [List.mapM_cons] at h
    obtain ⟨c, first, h⟩ := bind_eq_ok_iff.1 h
    obtain ⟨cs, rest, made⟩ := bind_eq_ok_iff.1 h
    cases made
    rcases List.mem_cons.1 hb with rfl | hb
    · exact ⟨a, List.mem_cons_self, first⟩
    · obtain ⟨a', listed, read⟩ := ih rest hb
      exact ⟨a', List.mem_cons_of_mem a listed, read⟩

theorem exists_of_mapM_eq_error {e : ε} (h : as.mapM f = .error e) : ∃ a ∈ as, f a = .error e := by
  induction as with
  | nil => cases h
  | cons a as ih =>
    rw [List.mapM_cons] at h
    cases first : f a with
    | error d =>
      rw [first] at h
      obtain rfl := Except.error.inj h
      exact ⟨a, List.mem_cons_self, first⟩
    | ok b =>
      rw [first] at h
      cases rest : as.mapM f with
      | error d =>
        rw [rest] at h
        obtain rfl := Except.error.inj h
        obtain ⟨c, hc, failed⟩ := ih rest
        exact ⟨c, List.mem_cons_of_mem a hc, failed⟩
      | ok bs =>
        rw [rest] at h
        cases h

/-! ## Kinds of errors -/

/-- A step fails with errors of one kind only, if it fails at all. -/
def FailsOnly (kind : ε → Prop) (x : Except ε α) : Prop := ∀ e, x = .error e → kind e

namespace FailsOnly

variable {kind kind' : ε → Prop} {x : Except ε α}

theorem ok (a : α) : FailsOnly kind (.ok a : Except ε α) := nofun

theorem error {e : ε} (h : kind e) : FailsOnly kind (.error e : Except ε α) := by
  intro d same
  exact Except.error.inj same ▸ h

theorem mono (h : FailsOnly kind x) (wider : ∀ e, kind e → kind' e) : FailsOnly kind' x :=
  fun e failed => wider e (h e failed)

theorem bind (h : FailsOnly kind x) (next : ∀ a, x = .ok a → FailsOnly kind (f a)) :
    FailsOnly kind (x >>= f) := by
  cases x with
  | error e => exact .error (h e rfl)
  | ok a => exact next a rfl

theorem mapM (h : ∀ a ∈ as, FailsOnly kind (f a)) : FailsOnly kind (as.mapM f) := by
  intro e failed
  obtain ⟨a, ha, failed⟩ := exists_of_mapM_eq_error failed
  exact h a ha e failed

end FailsOnly

end Steps

end CodeGraph
