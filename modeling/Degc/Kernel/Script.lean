import Mathlib.Data.List.Basic

/-!
# Sequences of commands that may stop

A command changes a state and says whether the sequence goes on.  `run` goes
through a list of commands up to the first one that stops it.  What one command
keeps, a run keeps (`run_invariant`, `run_frame`), and a run of two lists is a run
of the first and then, unless that one stopped, of the second (`run_append`).
-/

namespace Script

variable {α σ β : Type*} {step : α → σ → σ × Bool} {cs ds : List α} {s : σ}

/-- The state after a list of commands, and whether none of them stopped the run. -/
def run (step : α → σ → σ × Bool) : List α → σ → σ × Bool
  | [], s => (s, true)
  | c :: cs, s =>
      match step c s with
      | (s', true) => run step cs s'
      | (s', false) => (s', false)

@[simp] lemma run_nil : run step [] s = (s, true) := rfl

lemma run_cons_of_true {c : α} {s' : σ} (h : step c s = (s', true)) :
    run step (c :: cs) s = run step cs s' := by
  rw [run, h]

lemma run_cons_of_false {c : α} {s' : σ} (h : step c s = (s', false)) :
    run step (c :: cs) s = (s', false) := by
  rw [run, h]

/-- A run that stops in its first part does not reach the second. -/
lemma run_append_of_false (h : (run step cs s).2 = false) :
    run step (cs ++ ds) s = run step cs s := by
  induction cs generalizing s with
  | nil => simp at h
  | cons c cs ih =>
      rcases hc : step c s with ⟨s', _ | _⟩
      · rw [List.cons_append, run_cons_of_false hc, run_cons_of_false hc]
      · rw [run_cons_of_true hc] at h
        rw [List.cons_append, run_cons_of_true hc, run_cons_of_true hc, ih h]

/-- A run whose first part does not stop goes on with the second. -/
lemma run_append_of_true (h : (run step cs s).2 = true) :
    run step (cs ++ ds) s = run step ds (run step cs s).1 := by
  induction cs generalizing s with
  | nil => rfl
  | cons c cs ih =>
      rcases hc : step c s with ⟨s', _ | _⟩
      · rw [run_cons_of_false hc] at h
        exact absurd h (by simp)
      · rw [run_cons_of_true hc] at h
        rw [List.cons_append, run_cons_of_true hc, run_cons_of_true hc, ih h]

/-- What every command keeps, a run keeps. -/
theorem run_invariant {P : σ → Prop} (hstep : ∀ c ∈ cs, ∀ s, P s → P (step c s).1) (h : P s) :
    P (run step cs s).1 := by
  induction cs generalizing s with
  | nil => exact h
  | cons c cs ih =>
      rw [List.forall_mem_cons] at hstep
      have hc := hstep.1 s h
      rcases hs : step c s with ⟨s', _ | _⟩ <;> rw [hs] at hc
      · rwa [run_cons_of_false hs]
      · rw [run_cons_of_true hs]
        exact ih hstep.2 hc

/-- What every list of commands keeps, however long a part of it is run, a run keeps that is
killed anywhere in the lists. -/
theorem run_take_flatMap {ι : Type*} {cmds : ι → List α} {is : List ι} {P : σ → Prop}
    (hstep : ∀ i ∈ is, ∀ k s, P s → P (run step ((cmds i).take k) s).1) (h : P s) (k : ℕ) :
    P (run step ((is.flatMap cmds).take k) s).1 := by
  induction is generalizing s k with
  | nil => simpa using h
  | cons i is ih =>
      rw [List.forall_mem_cons] at hstep
      rw [List.flatMap_cons, List.take_append]
      have hi := hstep.1 k s h
      cases hs : (run step ((cmds i).take k) s).2 with
      | false => rwa [run_append_of_false hs]
      | true =>
          rw [run_append_of_true hs]
          exact ih hstep.2 hi _

/-- What no command changes, a run does not change. -/
theorem run_frame {f : σ → β} (hstep : ∀ c ∈ cs, ∀ s, f (step c s).1 = f s) :
    f (run step cs s).1 = f s :=
  run_invariant (P := fun s' => f s' = f s) (fun c hc s' hs' => (hstep c hc s').trans hs') rfl

/-- What the commands of a run that does not stop bring about one by one. -/
theorem run_collect {P : σ → Prop} {Q : α → Prop}
    (hstep : ∀ c ∈ cs, ∀ s, (step c s).2 = true → (P (step c s).1 ↔ P s ∨ Q c))
    (h : (run step cs s).2 = true) : P (run step cs s).1 ↔ P s ∨ ∃ c ∈ cs, Q c := by
  induction cs generalizing s with
  | nil => simp
  | cons c cs ih =>
      rw [List.forall_mem_cons] at hstep
      have hc := hstep.1 s
      rcases hs : step c s with ⟨s', _ | _⟩ <;> rw [hs] at hc
      · rw [run_cons_of_false hs] at h
        exact absurd h (by simp)
      · rw [run_cons_of_true hs] at h ⊢
        rw [ih hstep.2 h, hc rfl, List.exists_mem_cons_iff, or_assoc]

/-- What the commands of a run bring about, when each decides by itself whether it stops the run:
those in front of the first one that stops it do. -/
theorem run_reached {P : σ → Prop} {Q : α → Prop} {goes : α → Bool}
    (hgoes : ∀ c ∈ cs, ∀ s, (step c s).2 = goes c)
    (hstep : ∀ c ∈ cs, ∀ s, P (step c s).1 ↔ P s ∨ Q c) (hQ : ∀ c ∈ cs, Q c → goes c = true) :
    P (run step cs s).1 ↔ P s ∨ ∃ c ∈ cs.takeWhile goes, Q c := by
  induction cs generalizing s with
  | nil => simp
  | cons c cs ih =>
      rw [List.forall_mem_cons] at hgoes hstep hQ
      have hc := hstep.1 s
      have hg := hgoes.1 s
      rcases hs : step c s with ⟨s', _ | _⟩ <;> rw [hs] at hc hg
      · have hnot : ¬ Q c := fun h => by simpa [← hg] using hQ.1 h
        rw [run_cons_of_false hs, List.takeWhile_cons_of_neg (by simp [← hg]), hc]
        simp [hnot]
      · rw [run_cons_of_true hs, List.takeWhile_cons_of_pos hg.symm, ih hgoes.2 hstep.2 hQ.2, hc,
          List.exists_mem_cons_iff, or_assoc]

/-- A run of lists of commands, one after the other. -/
lemma run_flatMap {ι : Type*} {cmds : ι → List α} {is : List ι} :
    run step (is.flatMap cmds) s = run (fun i s => run step (cmds i) s) is s := by
  induction is generalizing s with
  | nil => rfl
  | cons i is ih =>
      rw [List.flatMap_cons, run]
      rcases hi : run step (cmds i) s with ⟨s', _ | _⟩
      · rw [run_append_of_false (by rw [hi]), hi]
      · rw [run_append_of_true (by rw [hi]), hi, ih]

/-- Whether a run stops, when each command decides that by itself. -/
lemma run_snd_of_flag {flag : α → Bool} (hflag : ∀ c ∈ cs, ∀ s, (step c s).2 = flag c) :
    (run step cs s).2 = cs.all flag := by
  induction cs generalizing s with
  | nil => rfl
  | cons c cs ih =>
      rw [List.forall_mem_cons] at hflag
      have hc := hflag.1 s
      rcases hs : step c s with ⟨s', _ | _⟩ <;> rw [hs] at hc
      · rw [run_cons_of_false hs, List.all_cons, ← hc]
        rfl
      · rw [run_cons_of_true hs, List.all_cons, ← hc, ih hflag.2]
        rfl

/-- Two runs of commands that act alike on a part of the state leave the same in it. -/
theorem run_congr {step' : α → σ → σ × Bool} {f : σ → β} {s' : σ} (h : f s = f s')
    (hstep : ∀ c ∈ cs, ∀ s s', f s = f s' →
      f (step c s).1 = f (step' c s').1 ∧ (step c s).2 = (step' c s').2) :
    f (run step cs s).1 = f (run step' cs s').1 ∧
      (run step cs s).2 = (run step' cs s').2 := by
  induction cs generalizing s s' with
  | nil => exact ⟨h, rfl⟩
  | cons c cs ih =>
      rw [List.forall_mem_cons] at hstep
      have hc := hstep.1 s s' h
      rcases hs : step c s with ⟨t, b⟩
      rcases hs' : step' c s' with ⟨t', b'⟩
      rw [hs, hs'] at hc
      obtain ⟨hf, rfl⟩ := hc
      cases b
      · rw [run_cons_of_false hs, run_cons_of_false hs']
        exact ⟨hf, rfl⟩
      · rw [run_cons_of_true hs, run_cons_of_true hs']
        exact ih hf hstep.2

/-- A run on a part of a larger state. -/
theorem run_map {τ : Type*} {step' : α → τ → τ × Bool} {g : τ → σ} {t : τ}
    (hstep : ∀ c ∈ cs, ∀ t, step c (g t) = (g (step' c t).1, (step' c t).2)) :
    run step cs (g t) = (g (run step' cs t).1, (run step' cs t).2) := by
  induction cs generalizing t with
  | nil => rfl
  | cons c cs ih =>
      rw [List.forall_mem_cons] at hstep
      have hc := hstep.1 t
      rcases hs : step' c t with ⟨t', _ | _⟩ <;> rw [hs] at hc
      · rw [run_cons_of_false hc, run_cons_of_false hs]
      · rw [run_cons_of_true hc, run_cons_of_true hs]
        exact ih hstep.2

end Script
