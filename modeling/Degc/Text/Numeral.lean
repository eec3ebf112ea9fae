import Degc.Text.Basic

/-!
# Numerals

Decimal and hexadecimal numerals, written by `Nat.toDigits` and read back digit
by digit, and the bounded reader of an unsigned integer of a fixed width with its
three errors.  The numerals of a number read back as the number (`readDigits_repr`,
`readDigits_hex`), which makes both ways of writing injective.
-/

namespace Text

/-- The value of a digit in the given base, upper or lower case. -/
def digitVal (b : ℕ) (c : Char) : Option ℕ :=
  let d := if '0' ≤ c ∧ c ≤ '9' then c.toNat - 48
    else if 'a' ≤ c ∧ c ≤ 'f' then c.toNat - 87
    else if 'A' ≤ c ∧ c ≤ 'F' then c.toNat - 55
    else 16
  if d < b then some d else none

/-- Reading digits behind digits of value `acc`. -/
def readDigitsFrom (b : ℕ) : ℕ → List Char → Option ℕ
  | acc, [] => some acc
  | acc, c :: cs => (digitVal b c).bind fun d => readDigitsFrom b (acc * b + d) cs

/-- The value of a nonempty numeral. -/
def readDigits (b : ℕ) (s : String) : Option ℕ :=
  if s = "" then none else readDigitsFrom b 0 s.toList

/-- The lower-case hexadecimal numeral of a number. -/
def hex (n : ℕ) : String := String.ofList (Nat.toDigits 16 n)

/-- A number written in decimal or, behind `0x`, in hexadecimal. -/
def readNumber (s : String) : Option ℕ :=
  match stripBeginning "0x" s with
  | some h => readDigits 16 h
  | none => readDigits 10 s

/-! ### The digits of a number -/

lemma digitVal_digitChar {b d : ℕ} (hd : d < b) (hb : b ≤ 16) :
    digitVal b d.digitChar = some d := by
  have hall : ∀ d < 16, digitVal 16 d.digitChar = some d := by decide
  have h16 := hall d (by omega)
  simp only [digitVal, Option.ite_none_right_eq_some, Option.some.injEq] at h16 ⊢
  exact ⟨by omega, h16.2⟩

/-- What is no digit in a base is no digit in a smaller one. -/
lemma digitVal_eq_none_of_le {b b' : ℕ} (h : b ≤ b') {c : Char} (hc : digitVal b' c = none) :
    digitVal b c = none := by
  simp only [digitVal, ite_eq_right_iff, reduceCtorEq, imp_false, not_lt] at hc ⊢
  exact h.trans hc

lemma readDigitsFrom_append (b acc : ℕ) (cs ds : List Char) :
    readDigitsFrom b acc (cs ++ ds) =
      (readDigitsFrom b acc cs).bind fun a => readDigitsFrom b a ds := by
  induction cs generalizing acc with
  | nil => rfl
  | cons c cs ih =>
      simp only [List.cons_append, readDigitsFrom]
      cases digitVal b c with
      | none => rfl
      | some d => exact ih _

lemma readDigitsFrom_toDigits {b : ℕ} (h1 : 1 < b) (hb : b ≤ 16) (n : ℕ) :
    readDigitsFrom b 0 (Nat.toDigits b n) = some n := by
  induction n using Nat.strong_induction_on with
  | _ n ih =>
      by_cases hn : n < b
      · rw [Nat.toDigits_of_lt_base hn]
        simp [readDigitsFrom, digitVal_digitChar hn hb]
      · have hdiv : n / b < n := Nat.div_lt_self (by omega) h1
        have hmod : n % b < b := Nat.mod_lt _ (by omega)
        rw [Nat.toDigits_of_base_le h1 (by omega), readDigitsFrom_append, ih _ hdiv]
        simp only [Option.bind_some, readDigitsFrom, digitVal_digitChar hmod hb, Option.some.injEq]
        rw [Nat.mul_comm]
        exact Nat.div_add_mod n b

/-- Every character of a numeral is a digit. -/
lemma mem_toDigits {b : ℕ} (h1 : 1 < b) {n : ℕ} {c : Char} (hc : c ∈ Nat.toDigits b n) :
    ∃ d < b, c = d.digitChar := by
  induction n using Nat.strong_induction_on with
  | _ n ih =>
      by_cases hn : n < b
      · rw [Nat.toDigits_of_lt_base hn, List.mem_singleton] at hc
        exact ⟨n, hn, hc⟩
      · rw [Nat.toDigits_of_base_le h1 (by omega), List.mem_append, List.mem_singleton] at hc
        rcases hc with hc | rfl
        · exact ih _ (Nat.div_lt_self (by omega) h1) hc
        · exact ⟨n % b, Nat.mod_lt _ (by omega), rfl⟩

/-- What holds of the sixteen digits holds of the characters of every numeral. -/
lemma forall_mem_toDigits {b : ℕ} (h1 : 1 < b) (hb : b ≤ 16) {P : Char → Prop}
    (hP : ∀ d < 16, P (Nat.digitChar d)) (n : ℕ) : ∀ c ∈ Nat.toDigits b n, P c := by
  intro c hc
  obtain ⟨d, hd, rfl⟩ := mem_toDigits h1 hc
  exact hP d (by omega)

/-! ### Numerals as text -/

@[simp] lemma toList_hex (n : ℕ) : (hex n).toList = Nat.toDigits 16 n := String.toList_ofList

lemma readDigits_of_toList {b : ℕ} (h1 : 1 < b) (hb : b ≤ 16) {n : ℕ} {s : String}
    (hs : s.toList = Nat.toDigits b n) : readDigits b s = some n := by
  have hne : s ≠ "" := by
    rintro rfl
    exact Nat.toDigits_ne_nil hs.symm
  rw [readDigits, if_neg hne, hs, readDigitsFrom_toDigits h1 hb]

@[simp] lemma readDigits_hex (n : ℕ) : readDigits 16 (hex n) = some n :=
  readDigits_of_toList (by decide) (by decide) (toList_hex n)

@[simp] lemma readDigits_repr (n : ℕ) : readDigits 10 n.repr = some n :=
  readDigits_of_toList (by decide) (by decide) Nat.toList_repr

lemma repr_injective : Function.Injective Nat.repr := fun m n h => by
  simpa using congrArg (readDigits 10) h

lemma hex_injective : Function.Injective hex := fun m n h => by
  simpa using congrArg (readDigits 16) h

lemma isWord_hex (n : ℕ) : IsWord (hex n) := by
  refine ⟨by simp, ?_⟩
  rw [toList_hex]
  exact forall_mem_toDigits (by decide) (by decide) (by decide) n

lemma isWord_repr (n : ℕ) : IsWord n.repr := by
  refine ⟨by simp, ?_⟩
  rw [Nat.toList_repr]
  exact forall_mem_toDigits (by decide) (by decide) (by decide) n

/-- A hexadecimal numeral behind `0x` is read as its number. -/
@[simp] lemma readNumber_hex (n : ℕ) : readNumber ("0x" ++ hex n) = some n := by
  have hstrip : stripBeginning "0x" ("0x" ++ hex n) = some (hex n) := by
    have hlen : "0x".length = 2 := by decide
    simp [stripBeginning, hex, hlen]
  rw [readNumber, hstrip]
  exact readDigits_hex n

/-- A decimal numeral has no `x` and is read as its number. -/
@[simp] lemma readNumber_repr (n : ℕ) : readNumber n.repr = some n := by
  have hx : 'x' ∉ n.repr.toList := by
    rw [Nat.toList_repr]
    exact fun hc =>
      forall_mem_toDigits (P := (· ≠ 'x')) (by decide) (by decide) (by decide) n _ hc rfl
  have hstrip : stripBeginning "0x" n.repr = none := by
    refine if_neg fun hpre => hx ?_
    exact hpre.subset (by decide)
  rw [readNumber, hstrip]
  exact readDigits_repr n

/-! ### Unsigned integers of a width -/

/-- Why a text is not an unsigned integer. -/
inductive ParseIntError
  | empty
  | invalidDigit
  | posOverflow
  deriving DecidableEq, Repr

/-- The message of the error. -/
def ParseIntError.message : ParseIntError → String
  | .empty => "cannot parse integer from empty string"
  | .invalidDigit => "invalid digit found in string"
  | .posOverflow => "number too large to fit in target type"

/-- Reading digits behind digits of value `acc`, with a check after every digit. -/
def parseDigits (w b : ℕ) : ℕ → List Char → Except ParseIntError (BitVec w)
  | acc, [] => .ok (BitVec.ofNat w acc)
  | acc, c :: cs =>
      match digitVal b c with
      | none => .error .invalidDigit
      | some d =>
          if acc * b + d < 2 ^ w then parseDigits w b (acc * b + d) cs else .error .posOverflow

/-- An unsigned integer of `w` bits, with an optional plus sign. -/
def parseUnsigned (w b : ℕ) (s : String) : Except ParseIntError (BitVec w) :=
  match s.toList with
  | [] => .error .empty
  | ['+'] => .error .invalidDigit
  | ['-'] => .error .invalidDigit
  | '+' :: cs => parseDigits w b 0 cs
  | cs => parseDigits w b 0 cs

/-- The numerals of a number: digits, perhaps behind a plus sign. -/
def Denotes (b : ℕ) (s : String) (n : ℕ) : Prop :=
  ∃ cs, cs ≠ [] ∧ (s.toList = cs ∨ s.toList = '+' :: cs) ∧ readDigitsFrom b 0 cs = some n

lemma le_of_readDigitsFrom {b acc n : ℕ} (hb : 0 < b) {cs : List Char}
    (h : readDigitsFrom b acc cs = some n) : acc ≤ n := by
  induction cs generalizing acc with
  | nil => simp_all [readDigitsFrom]
  | cons c cs ih =>
      rw [readDigitsFrom] at h
      cases hd : digitVal b c with
      | none => simp [hd] at h
      | some d =>
          simp only [hd, Option.bind_some] at h
          have hle := ih h
          have := Nat.le_mul_of_pos_right acc hb
          omega

/-- A value that fits in the end fits after every digit. -/
lemma parseDigits_eq_ok {w b acc : ℕ} (hb : 0 < b) (hacc : acc < 2 ^ w) {cs : List Char}
    {v : BitVec w} : parseDigits w b acc cs = .ok v ↔ readDigitsFrom b acc cs = some v.toNat := by
  induction cs generalizing acc with
  | nil =>
      rw [parseDigits, readDigitsFrom, Except.ok.injEq, Option.some.injEq, ← BitVec.toNat_inj,
        BitVec.toNat_ofNat, Nat.mod_eq_of_lt hacc]
  | cons c cs ih =>
      rw [parseDigits, readDigitsFrom]
      cases hd : digitVal b c with
      | none => simp
      | some d =>
          simp only [Option.bind_some]
          split_ifs with hlt
          · exact ih hlt
          · refine iff_of_false (by simp) fun h => ?_
            have hle := le_of_readDigitsFrom hb h
            exact hlt (hle.trans_lt v.isLt)

/-- A text is read as a number exactly when it is a numeral of the number. -/
theorem parseUnsigned_eq_ok {w b : ℕ} (hb : 0 < b) (hb' : b ≤ 16) {s : String} {v : BitVec w} :
    parseUnsigned w b s = .ok v ↔ Denotes b s v.toNat := by
  have hsign : ∀ c, c = '+' ∨ c = '-' → ∀ cs, readDigitsFrom b 0 (c :: cs) = none := by
    rintro c hc cs
    have h16 : digitVal 16 c = none := by rcases hc with rfl | rfl <;> decide
    rw [readDigitsFrom, digitVal_eq_none_of_le hb' h16, Option.bind_none]
  have hdigits : ∀ cs, parseDigits w b 0 cs = .ok v ↔ readDigitsFrom b 0 cs = some v.toNat :=
    fun cs => parseDigits_eq_ok hb (Nat.two_pow_pos w)
  rw [parseUnsigned, Denotes]
  split
  · next hs => simp [hs]
  · next hs =>
      refine iff_of_false (by simp) ?_
      rintro ⟨cs, hne, h | h, hread⟩
      · rw [← h, hs, hsign _ (Or.inl rfl)] at hread
        cases hread
      · rw [hs] at h
        simp_all
  · next hs =>
      refine iff_of_false (by simp) ?_
      rintro ⟨cs, hne, h | h, hread⟩
      · rw [← h, hs, hsign _ (Or.inr rfl)] at hread
        cases hread
      · simp [hs] at h
  · next cs hne hs =>
      rw [hdigits]
      constructor
      · exact fun h => ⟨cs, hne, Or.inr hs, h⟩
      · rintro ⟨cs', -, h | h, hread⟩
        · rw [← h, hs, hsign _ (Or.inl rfl)] at hread
          cases hread
        · rw [hs] at h
          simp_all
  · next hnil hplus hminus hno =>
      rw [hdigits]
      constructor
      · exact fun h => ⟨_, hnil, Or.inl rfl, h⟩
      · rintro ⟨cs', -, h | h, hread⟩
        · exact h ▸ hread
        · exact absurd h (hno cs')

/-! ### Unsigned 32-bit and 64-bit integers -/

/-- An unsigned 32-bit integer. -/
def parseU32 (b : ℕ) (s : String) : Except ParseIntError UInt32 :=
  (parseUnsigned 32 b s).map UInt32.ofBitVec

/-- An unsigned 64-bit integer in decimal. -/
def parseU64 (s : String) : Except ParseIntError UInt64 :=
  (parseUnsigned 64 10 s).map UInt64.ofBitVec

/-- The numerals of unsigned 32-bit integers. -/
def DenotesU32 (b : ℕ) (s : String) (v : UInt32) : Prop := Denotes b s v.toNat

/-- The numerals of unsigned 64-bit integers. -/
def DenotesU64 (s : String) (v : UInt64) : Prop := Denotes 10 s v.toNat

lemma map_eq_ok {ε α β : Type*} {f : α → β} {r : Except ε α} {b : β} :
    r.map f = .ok b ↔ ∃ a, r = .ok a ∧ f a = b := by
  cases r <;> simp [Except.map]

lemma parseU32_eq_ok {b : ℕ} (hb : 0 < b) (hb' : b ≤ 16) {s : String} {v : UInt32} :
    parseU32 b s = .ok v ↔ DenotesU32 b s v := by
  rw [parseU32, map_eq_ok, DenotesU32, ← UInt32.toNat_toBitVec, ← parseUnsigned_eq_ok hb hb']
  constructor
  · rintro ⟨a, ha, rfl⟩
    exact ha
  · exact fun h => ⟨_, h, rfl⟩

lemma parseU64_eq_ok {s : String} {v : UInt64} : parseU64 s = .ok v ↔ DenotesU64 s v := by
  rw [parseU64, map_eq_ok, DenotesU64, ← UInt64.toNat_toBitVec,
    ← parseUnsigned_eq_ok (by decide) (by decide)]
  constructor
  · rintro ⟨a, ha, rfl⟩
    exact ha
  · exact fun h => ⟨_, h, rfl⟩

end Text
