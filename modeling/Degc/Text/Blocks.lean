import Mathlib.Data.List.Forall2
import Mathlib.Data.List.Flatten

/-!
# Lists that are put together from blocks

When the blocks of two lists that are put together to one list begin with a mark,
or are known to be of the same lengths, they are the same blocks.
-/

namespace Blocks

variable {α β γ : Type*}

/-- A block begins with a mark and has no other one. -/
def Marked (P : γ → Prop) (b : List γ) : Prop := ∃ c cs, b = c :: cs ∧ P c ∧ ∀ d ∈ cs, ¬ P d

/-- Two parts without a mark, each up to a mark or to the end, are the same part. -/
lemma append_inj_of_marked {P : γ → Prop} {u v s t : List γ} (hu : ∀ c ∈ u, ¬ P c)
    (hv : ∀ c ∈ v, ¬ P c) (hs : ∀ c ∈ s.head?, P c) (ht : ∀ c ∈ t.head?, P c)
    (h : u ++ s = v ++ t) : u = v ∧ s = t := by
  induction u generalizing v with
  | nil =>
      cases v with
      | nil => exact ⟨rfl, h⟩
      | cons d v =>
          -- a mark on the left is none on the right
          rw [List.nil_append] at h
          exact absurd (hs d (by simp [h])) (hv d List.mem_cons_self)
  | cons c u ih =>
      cases v with
      | nil =>
          rw [List.nil_append] at h
          exact absurd (ht c (by simp [← h])) (hu c List.mem_cons_self)
      | cons d v =>
          rw [List.cons_append, List.cons_append, List.cons.injEq] at h
          rw [List.forall_mem_cons] at hu hv
          obtain ⟨rfl, rfl⟩ := ih hu.2 hv.2 h.2
          exact ⟨by rw [h.1], rfl⟩

lemma head?_flatten_of_marked {P : γ → Prop} {bs : List (List γ)} (h : ∀ b ∈ bs, Marked P b) :
    ∀ c ∈ bs.flatten.head?, P c := by
  cases bs with
  | nil => simp
  | cons b bs =>
      obtain ⟨c, cs, rfl, hc, -⟩ := h b List.mem_cons_self
      simpa using hc

/-- Marked blocks are told apart. -/
theorem flatten_inj_of_marked {P : γ → Prop} {as bs : List (List γ)} (ha : ∀ b ∈ as, Marked P b)
    (hb : ∀ b ∈ bs, Marked P b) (h : as.flatten = bs.flatten) : as = bs := by
  induction as generalizing bs with
  | nil =>
      cases bs with
      | nil => rfl
      | cons b bs =>
          obtain ⟨c, cs, rfl, -, -⟩ := hb b List.mem_cons_self
          simp at h
  | cons a as ih =>
      obtain ⟨c, cs, rfl, -, hcs⟩ := ha a List.mem_cons_self
      cases bs with
      | nil => simp at h
      | cons b bs =>
          obtain ⟨d, ds, rfl, -, hds⟩ := hb b List.mem_cons_self
          rw [List.forall_mem_cons] at ha hb
          rw [List.flatten_cons, List.flatten_cons, List.cons_append, List.cons_append,
            List.cons.injEq] at h
          obtain ⟨rfl, hrest⟩ := append_inj_of_marked hcs hds (head?_flatten_of_marked ha.2)
            (head?_flatten_of_marked hb.2) h.2
          rw [h.1, ih ha.2 hb.2 hrest]

/-- Blocks of the same lengths are told apart. -/
theorem forall₂_of_flatMap_eq {f : α → List γ} {g : β → List γ} {as : List α} {bs : List β}
    (hlen : List.Forall₂ (fun a b => (f a).length = (g b).length) as bs)
    (h : as.flatMap f = bs.flatMap g) : List.Forall₂ (fun a b => f a = g b) as bs := by
  induction hlen with
  | nil => exact .nil
  | cons hl _ ih =>
      rw [List.flatMap_cons, List.flatMap_cons] at h
      obtain ⟨hhead, hrest⟩ := List.append_inj h hl
      exact .cons hhead (ih hrest)

/-- Lists with the same image are related by it. -/
lemma forall₂_of_map_eq {f : α → γ} {g : β → γ} {as : List α} {bs : List β}
    (h : as.map f = bs.map g) : List.Forall₂ (fun a b => f a = g b) as bs := by
  rw [← List.forall₂_eq_eq_eq, List.forall₂_map_left_iff, List.forall₂_map_right_iff] at h
  exact h

/-- Related lists are related by what follows from the relation for their members. -/
lemma forall₂_imp_of_mem {R S : α → β → Prop} {as : List α} {bs : List β}
    (h : ∀ a ∈ as, ∀ b ∈ bs, R a b → S a b) (hall : List.Forall₂ R as bs) :
    List.Forall₂ S as bs := by
  induction hall with
  | nil => exact .nil
  | cons hab _ ih =>
      exact .cons (h _ List.mem_cons_self _ List.mem_cons_self hab)
        (ih fun a ha b hb => h a (List.mem_cons_of_mem _ ha) b (List.mem_cons_of_mem _ hb))

lemma forall₂_and_iff {R S : α → β → Prop} {as : List α} {bs : List β} :
    List.Forall₂ (fun a b => R a b ∧ S a b) as bs ↔
      List.Forall₂ R as bs ∧ List.Forall₂ S as bs := by
  constructor
  · exact fun h => ⟨h.imp fun _ _ hab => hab.1, h.imp fun _ _ hab => hab.2⟩
  · rintro ⟨hR, hS⟩
    induction hR with
    | nil => exact .nil
    | cons hab _ ih =>
        cases hS with
        | cons hab' hrest => exact .cons ⟨hab, hab'⟩ (ih hrest)

/-- Lists with the same image are the same where the function tells their members apart. -/
lemma map_inj_of_mem {f : α → β} {as bs : List α} (h : ∀ a ∈ as, ∀ b ∈ bs, f a = f b → a = b)
    (he : as.map f = bs.map f) : as = bs := by
  rw [← List.forall₂_eq_eq_eq]
  exact forall₂_imp_of_mem h (forall₂_of_map_eq he)

/-- Lists that are related by having the same blocks are put together to the same list. -/
lemma flatMap_eq_of_forall₂ {f : α → List γ} {g : β → List γ} {as : List α} {bs : List β}
    (h : List.Forall₂ (fun a b => f a = g b) as bs) : as.flatMap f = bs.flatMap g := by
  induction h with
  | nil => rfl
  | cons hab _ ih => rw [List.flatMap_cons, List.flatMap_cons, hab, ih]

end Blocks
