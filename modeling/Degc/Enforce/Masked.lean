import Degc.Enforce.Preflight

/-!
# Rules with a mask

The kernel compares the mark of a packet with that of a rule in the bits of the
mask of the rule only, and the check for a conflict compares the marks as they are
shown.  The main result `detects_iff` says for which lists of rules this makes no
difference.
-/

namespace Degc.Route

open Text Fib Iproute

/-- A line in the list of rules: that of a rule over a mark, or one without a mark. -/
inductive RuleLine
  | fwmark (prio : ℕ) (value mask : UInt32) (table : ℕ)
  | other (line : String) (isLine : IsLine line) (free : "fwmark" ∉ words line)

namespace RuleLine

/-- The text of a line. -/
def text : RuleLine → String
  | fwmark prio value mask table => showRule ⟨prio, some (value.toNat, mask.toNat), table⟩
  | other line _ _ => line

/-- The line is that of a rule for a mark itself. -/
def IsFor (k : UInt32) : RuleLine → Prop
  | fwmark _ value _ _ => value = k
  | other _ _ _ => False

/-- The line is that of a rule over marks that a packet with the mark matches. -/
def Fits (k : UInt32) : RuleLine → Prop
  | fwmark _ value mask _ => (k ^^^ value) &&& mask = 0
  | other _ _ _ => False

/-- The line is that of a rule over marks that sends its packets to a table. -/
def LooksUp (t : ℕ) : RuleLine → Prop
  | fwmark _ _ _ table => table = t
  | other _ _ _ => False

end RuleLine

/-- A table that is shown by a name. -/
def IsNamed (t : ℕ) : Prop := t = 253 ∨ t = 254 ∨ t = 255

/-- A conflict is found exactly when a rule sends a packet with the mark to another table. -/
def Detects (ls : List RuleLine) (k table : UInt32) : Prop :=
  (conflictingFwmarkRule (unlines (ls.map RuleLine.text)) ("0x" ++ hex k.toNat)
      (toString table)).isSome = true ↔
    ∃ l ∈ ls, l.Fits k ∧ ¬ l.LooksUp table.toNat

/-- A packet has the bits of its own mark under every mask. -/
lemma RuleLine.IsFor.fits {l : RuleLine} {k : UInt32} (h : l.IsFor k) : l.Fits k := by
  cases l with
  | fwmark prio value mask table =>
      obtain rfl : value = k := h
      simp [RuleLine.Fits]
  | other => exact h

lemma isLine_text (l : RuleLine) : IsLine l.text := by
  cases l with
  | fwmark => exact isLine_showRule _
  | other line isLine => exact isLine

/-- A line is taken for a conflict when its rule is for the mark itself, and another table or one
with a name. -/
lemma isConflicting_text (l : RuleLine) (k : UInt32) (t : ℕ) :
    isConflicting ("0x" ++ hex k.toNat) t.repr l.text = true ↔
      l.IsFor k ∧ (l.LooksUp t → IsNamed t) := by
  cases l with
  | fwmark prio value mask table =>
      rw [RuleLine.text, isConflicting_showRule, RuleLine.IsFor, RuleLine.LooksUp, IsNamed]
      have hshown : tableName table ≠ t.repr ↔ (table = t → t = 253 ∨ t = 254 ∨ t = 255) := by
        rw [Ne, tableName_eq_repr]
        omega
      simp only [Option.some.injEq, Prod.mk.injEq, exists_and_right, UInt32.toNat_inj,
        exists_and_left, exists_eq', and_true]
      exact and_congr_right fun _ => hshown
  | other line isLine free =>
      simp [RuleLine.text, isConflicting, free, RuleLine.IsFor]

/-- A conflict is found when there is a rule for the mark itself, and another table or one with a
name. -/
lemma conflictingFwmarkRule_isSome (ls : List RuleLine) (k table : UInt32) :
    (conflictingFwmarkRule (unlines (ls.map RuleLine.text)) ("0x" ++ hex k.toNat)
        (toString table)).isSome = true ↔
      ∃ l ∈ ls, l.IsFor k ∧ (l.LooksUp table.toNat → IsNamed table.toNat) := by
  have hlines : ∀ l ∈ ls.map RuleLine.text, IsLine l := List.forall_mem_map.2 fun l _ =>
    isLine_text l
  rw [← not_iff_not, Bool.not_eq_true, Option.isSome_eq_false_iff, Option.isNone_iff_eq_none,
    conflictingFwmarkRule_unlines hlines, List.forall_mem_map]
  simp only [show toString table = table.toNat.repr from rfl, isConflicting_text, not_exists,
    not_and]

/-- The check is exact for a list of rules exactly when a foreign rule that fits the mark by its
mask alone does not stand without a rule for the mark, and the own rule, if its table is shown by
a name, does not stand without a foreign rule that fits. -/
theorem detects_iff (ls : List RuleLine) (k table : UInt32) :
    Detects ls k table ↔
      ((∃ l ∈ ls, l.Fits k ∧ ¬ l.IsFor k ∧ ¬ l.LooksUp table.toNat) →
        ∃ l ∈ ls, l.IsFor k ∧ (l.LooksUp table.toNat → IsNamed table.toNat)) ∧
      (IsNamed table.toNat → (∃ l ∈ ls, l.IsFor k ∧ l.LooksUp table.toNat) →
        ∃ l ∈ ls, l.Fits k ∧ ¬ l.LooksUp table.toNat) := by
  rw [Detects, conflictingFwmarkRule_isSome]
  constructor
  · intro h
    constructor
    · rintro ⟨l, hl, hfits, -, hforeign⟩
      exact h.2 ⟨l, hl, hfits, hforeign⟩
    · rintro hnamed ⟨l, hl, hfor, -⟩
      exact h.1 ⟨l, hl, hfor, fun _ => hnamed⟩
  · rintro ⟨hmasked, hown⟩
    constructor
    · rintro ⟨l, hl, hfor, hnamed⟩
      by_cases hlookup : l.LooksUp table.toNat
      · exact hown (hnamed hlookup) ⟨l, hl, hfor, hlookup⟩
      · exact ⟨l, hl, hfor.fits, hlookup⟩
    · rintro ⟨l, hl, hfits, hforeign⟩
      by_cases hfor : l.IsFor k
      · exact ⟨l, hl, hfor, fun hlookup => absurd hlookup hforeign⟩
      · exact hmasked ⟨l, hl, hfits, hfor, hforeign⟩

/-- A rule of another program that compares one bit of the mark only. -/
def maskedLines : List RuleLine :=
  [.other "0:\tfrom all lookup local" (by decide) (by decide),
    .fwmark 5210 0x80 0x80 52,
    .other "32766:\tfrom all lookup main" (by decide) (by decide)]

/-- A packet with the mark of the gateway takes the other table, and no conflict is found. -/
theorem not_detects_masked : ¬ Detects maskedLines 0x84 200 := by
  have hfits : ((0x84 : UInt32) ^^^ 0x80) &&& 0x80 = 0 := by decide
  rw [Detects, conflictingFwmarkRule_isSome]
  simpa [maskedLines, RuleLine.IsFor, RuleLine.Fits, RuleLine.LooksUp] using hfits

end Degc.Route
