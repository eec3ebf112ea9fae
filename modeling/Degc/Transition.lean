import Mathlib.Data.Nat.Basic

/-!
# Steps that come to an end

A system takes steps of its own, and steps that others cause.  Where a rank falls with
every step of its own and rises by a bounded amount with every other one, the number of
its own steps is bounded by that of the others, and left alone it comes to a state from
which it takes none.
-/

namespace Transition

variable {σ : Type*} {own other : σ → σ → Prop} {s t u : σ} {m n : ℕ}

/-- The system takes no step of its own. -/
def Stuck (own : σ → σ → Prop) (s : σ) : Prop := ∀ t, ¬ own s t

/-- A run from one state to another with a number of own steps and a number of other ones, in any
order. -/
inductive Run (own other : σ → σ → Prop) (s : σ) : ℕ → ℕ → σ → Prop
  | refl : Run own other s 0 0 s
  | own {m n : ℕ} {t u : σ} (h : Run own other s m n t) (hstep : own t u) :
      Run own other s (m + 1) n u
  | other {m n : ℕ} {t u : σ} (h : Run own other s m n t) (hstep : other t u) :
      Run own other s m (n + 1) u

/-- A run goes on. -/
lemma Run.trans {m' n' : ℕ} (h : Run own other s m n t) (h' : Run own other t m' n' u) :
    Run own other s (m + m') (n + n') u := by
  induction h' with
  | refl => exact h
  | own _ hstep ih => exact ih.own hstep
  | other _ hstep ih => exact ih.other hstep

/-- A run keeps what every step keeps. -/
lemma Run.invariant {P : σ → Prop} (hown : ∀ s t, P s → own s t → P t)
    (hother : ∀ s t, P s → other s t → P t) (h : Run own other s m n t) (hs : P s) : P t := by
  induction h with
  | refl => exact hs
  | own _ hstep ih => exact hown _ _ ih hstep
  | other _ hstep ih => exact hother _ _ ih hstep

/-- A system that is left alone keeps what its own steps keep. -/
lemma Run.alone {P : σ → Prop} (hown : ∀ s t, P s → own s t → P t) (h : Run own other s m n t)
    (hn : n = 0) (hs : P s) : P t := by
  induction h with
  | refl => exact hs
  | own _ hstep ih => exact hown _ _ (ih hn) hstep
  | other => exact absurd hn (Nat.succ_ne_zero _)

section Rank

variable {rank : σ → ℕ} {c : ℕ}

/-- The own steps of a run are paid for by the rank and by the other steps. -/
lemma Run.rank_add_le (hown : ∀ s t, own s t → rank t < rank s)
    (hother : ∀ s t, other s t → rank t ≤ rank s + c) (h : Run own other s m n t) :
    rank t + m ≤ rank s + c * n := by
  induction h with
  | refl => exact le_rfl
  | own _ hstep ih =>
      have hlt := hown _ _ hstep
      omega
  | @other m n t u _ hstep ih =>
      have hle := hother _ _ hstep
      have hmul : c * (n + 1) = c * n + c := Nat.mul_succ c n
      omega

/-- Left alone, the system comes to a state from which it takes no step. -/
lemma exists_stuck (hown : ∀ s t, own s t → rank t < rank s) (s : σ) :
    ∃ m t, Run own other s m 0 t ∧ Stuck own t := by
  induction hk : rank s using Nat.strong_induction_on generalizing s with
  | _ k ih =>
      by_cases hstuck : Stuck own s
      · exact ⟨0, s, .refl, hstuck⟩
      · obtain ⟨u, hstep⟩ : ∃ u, own s u := by
          simpa only [Stuck, not_forall, not_not] using hstuck
        obtain ⟨m, t, hrun, ht⟩ := ih (rank u) (hk ▸ hown s u hstep) u rfl
        exact ⟨_, t, (Run.refl.own hstep).trans hrun, ht⟩

end Rank

end Transition
