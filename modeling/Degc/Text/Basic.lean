import Mathlib

/-!
# Cutting and joining text

The string operations a line-oriented text format is built from and read back
with: trimming, splitting at a character, words, lines and their inverses.  All
of them work on the list of characters of a string, so that a round trip is an
ordinary induction on lists.

The main results are

* `lines_unlines`: the lines of a text written line by line are the lines written;
* `words_append_space`: words on the two sides of a blank are read independently;
* `words_unwords`: the words of a line written word by word are the words written.
-/

namespace Text

/-- The Unicode `White_Space` property. -/
def isWhitespace (c : Char) : Bool :=
  (9 ≤ c.toNat && c.toNat ≤ 13) || c.toNat == 0x20 || c.toNat == 0x85 || c.toNat == 0xA0 ||
    c.toNat == 0x1680 || (0x2000 ≤ c.toNat && c.toNat ≤ 0x200A) || c.toNat == 0x2028 ||
    c.toNat == 0x2029 || c.toNat == 0x202F || c.toNat == 0x205F || c.toNat == 0x3000

/-- The text without the white space at its two ends. -/
def trim (s : String) : String :=
  String.ofList ((s.toList.dropWhile isWhitespace).rdropWhile isWhitespace)

/-- The pieces of a text between the occurrences of a character. -/
def split (c : Char) (s : String) : List String :=
  (s.toList.splitOn c).map String.ofList

/-- The text before and after the first occurrence of a character. -/
def splitOnce (c : Char) (s : String) : Option (String × String) :=
  match s.toList.span (· ≠ c) with
  | (_, []) => none
  | (u, _ :: v) => some (String.ofList u, String.ofList v)

/-- The text after a given beginning. -/
def stripBeginning (b s : String) : Option String :=
  if b.toList <+: s.toList then some (String.ofList (s.toList.drop b.length)) else none

/-- Whether a text occurs in another one. -/
def contains (s t : String) : Bool := decide (t.toList <:+: s.toList)

/-- The maximal pieces of a text without white space. -/
def words (s : String) : List String :=
  ((s.toList.splitOnP isWhitespace).filter (· ≠ [])).map String.ofList

/-- A line without the carriage return before its line feed. -/
def stripCr (l : List Char) : List Char :=
  if l.getLast? = some '\r' then l.dropLast else l

/-- The lines of a text.  A line feed ends a line; the last line may lack it. -/
def lines (s : String) : List String :=
  let ls := s.toList.splitOn '\n'
  (ls.dropLast.map stripCr ++ [ls.getLast?.getD []].filter (· ≠ [])).map String.ofList

/-- The text with the given lines, each ended by a line feed. -/
def unlines (ls : List String) : String := String.join (ls.map (· ++ "\n"))

/-- The given words, separated by one blank. -/
def unwords (ws : List String) : String := " ".intercalate ws

@[simp] lemma toString_string (s : String) : toString s = s := rfl

/-! ### Plain text -/

/-- A nonempty text without white space. -/
def IsWord (s : String) : Prop := s.toList ≠ [] ∧ ∀ c ∈ s.toList, isWhitespace c = false

/-- A text that stays on one line when it is written to a file: no line feed, and no
carriage return at its end. -/
def IsLine (s : String) : Prop := '\n' ∉ s.toList ∧ s.toList.getLast? ≠ some '\r'

instance (s : String) : Decidable (IsWord s) :=
  decidable_of_iff (s.toList ≠ [] ∧ s.toList.all (fun c => !isWhitespace c) = true)
    (by simp [IsWord])

instance (s : String) : Decidable (IsLine s) := inferInstanceAs (Decidable (_ ∧ _))

lemma IsWord.append {s t : String} (hs : IsWord s) (ht : IsWord t) : IsWord (s ++ t) := by
  refine ⟨by simp [hs.1], fun c hc => ?_⟩
  rw [String.toList_append, List.mem_append] at hc
  exact hc.elim (hs.2 c) (ht.2 c)

/-- A text whose characters are neither line feeds nor carriage returns is one line. -/
lemma isLine_of_forall {s : String} (h : ∀ c ∈ s.toList, c ≠ '\n' ∧ c ≠ '\r') : IsLine s :=
  ⟨fun hc => (h _ hc).1 rfl, fun hc => (h _ (List.mem_of_getLast? hc)).2 rfl⟩

lemma not_isWhitespace_nl {c : Char} (h : isWhitespace c = false) : c ≠ '\n' ∧ c ≠ '\r' := by
  constructor <;> rintro rfl <;> exact absurd h (by decide)

/-- The visible ASCII characters. -/
def isVisible (c : Char) : Bool := 33 ≤ c.toNat && c.toNat ≤ 126

lemma not_isWhitespace_of_isVisible {c : Char} (h : isVisible c = true) :
    isWhitespace c = false := by
  simp only [isVisible, Bool.and_eq_true, decide_eq_true_eq] at h
  simp only [isWhitespace, Bool.or_eq_false_iff, Bool.and_eq_false_iff, decide_eq_false_iff_not,
    beq_eq_false_iff_ne]
  omega

lemma isVisible_of_isAlphanum {c : Char} (h : c.isAlphanum = true) : isVisible c = true := by
  simp only [Char.isAlphanum, Char.isAlpha, Char.isUpper, Char.isLower, Char.isDigit,
    Bool.or_eq_true, Bool.and_eq_true, decide_eq_true_eq, UInt32.le_iff_toNat_le, ge_iff_le] at h
  simp only [isVisible, Bool.and_eq_true, decide_eq_true_eq, Char.toNat]
  constructor <;> revert h <;> simp <;> omega

/-! ### Cutting at a character -/

lemma stripBeginning_eq_some {b s t : String} :
    stripBeginning b s = some t ↔ s.toList = b.toList ++ t.toList := by
  rw [stripBeginning, Option.ite_none_right_eq_some, Option.some.injEq]
  constructor
  · rintro ⟨⟨u, hu⟩, rfl⟩
    rw [← hu, String.toList_ofList, ← String.length_toList, List.drop_left]
  · intro h
    rw [h, ← String.length_toList, List.drop_left]
    exact ⟨List.prefix_append _ _, String.ofList_toList⟩

/-- What is cut off at the first occurrence of a character. -/
lemma splitOnce_eq_some {c : Char} {s u v : String} :
    splitOnce c s = some (u, v) ↔ s.toList = u.toList ++ c :: v.toList ∧ c ∉ u.toList := by
  rw [splitOnce, List.span_eq_takeWhile_dropWhile]
  constructor
  · intro h
    have hcut := List.takeWhile_append_dropWhile (p := fun x => decide (x ≠ c)) (l := s.toList)
    have hfirst := List.head?_dropWhile_not (fun x => decide (x ≠ c)) s.toList
    cases hd : s.toList.dropWhile fun x => decide (x ≠ c) with
    | nil => rw [hd] at h; cases h
    | cons d ds =>
        rw [hd] at h hcut hfirst
        simp only [Option.some.injEq, Prod.mk.injEq] at h
        obtain ⟨rfl, rfl⟩ := h
        obtain rfl : d = c := by simpa using hfirst
        refine ⟨by simpa using hcut.symm, fun hc => ?_⟩
        rw [String.toList_ofList] at hc
        have hne : decide (d ≠ d) = true := List.mem_takeWhile_imp (p := fun x => decide (x ≠ d)) hc
        exact of_decide_eq_true hne rfl
  · rintro ⟨hs, hfree⟩
    have hbefore : ∀ a ∈ u.toList, decide (a ≠ c) = true := by
      intro a ha
      simpa using fun hac : a = c => hfree (hac ▸ ha)
    rw [hs, List.takeWhile_append_of_pos hbefore, List.dropWhile_append_of_pos hbefore]
    simp

lemma splitOnce_eq_none {c : Char} {s : String} : splitOnce c s = none ↔ c ∉ s.toList := by
  constructor
  · intro h hc
    obtain ⟨u, v, hs, hfree⟩ := List.eq_append_cons_of_mem hc
    have hsome : splitOnce c s = some (String.ofList u, String.ofList v) :=
      splitOnce_eq_some.2 (by simpa using ⟨hs, hfree⟩)
    simp [h] at hsome
  · intro h
    rw [Option.eq_none_iff_forall_ne_some]
    rintro ⟨u, v⟩ hs
    exact h (by rw [(splitOnce_eq_some.1 hs).1]; simp)

/-- Texts are the same up to the first occurrence of a character and behind it. -/
lemma append_inj_of_notMem {c : Char} {sep s s' t t' : String} (hsep : sep.toList = [c])
    (hs : c ∉ s.toList) (hs' : c ∉ s'.toList) (h : s ++ sep ++ t = s' ++ sep ++ t') :
    s = s' ∧ t = t' := by
  have hcut : splitOnce c (s ++ sep ++ t) = some (s, t) :=
    splitOnce_eq_some.2 ⟨by simp [hsep], hs⟩
  have hcut' : splitOnce c (s' ++ sep ++ t') = some (s', t') :=
    splitOnce_eq_some.2 ⟨by simp [hsep], hs'⟩
  rw [h, hcut'] at hcut
  simpa [eq_comm] using hcut

/-! ### Lines -/

lemma stripCr_of_ne {l : List Char} (h : l.getLast? ≠ some '\r') : stripCr l = l := if_neg h

lemma splitOn_line_append {l : List Char} (h : '\n' ∉ l) (t : List Char) :
    (l ++ '\n' :: t).splitOn '\n' = l :: t.splitOn '\n' := by
  rw [List.splitOn_eq_splitOnP, List.splitOn_eq_splitOnP]
  refine List.splitOnP_append_cons_of_forall_mem (fun c hc => ?_) '\n' (by simp) t
  simp only [beq_eq_false_iff_ne, ne_eq]
  rintro rfl
  exact h hc

lemma splitOn_ne_nil (t : List Char) : t.splitOn '\n' ≠ [] := by
  rw [List.splitOn_eq_splitOnP]
  exact List.splitOnP_ne_nil _ _

lemma unlines_append (ls ms : List String) : unlines (ls ++ ms) = unlines ls ++ unlines ms := by
  rw [unlines, List.map_append, String.join_append]
  rfl

/-- Reading a text that starts with a written line reads that line first. -/
lemma lines_line_append {l : String} (h : IsLine l) (t : String) :
    lines (l ++ "\n" ++ t) = l :: lines t := by
  have hsplit : (l ++ "\n" ++ t).toList.splitOn '\n' = l.toList :: t.toList.splitOn '\n' := by
    have : (l ++ "\n" ++ t).toList = l.toList ++ '\n' :: t.toList := by simp
    rw [this, splitOn_line_append h.1]
  obtain ⟨u, us, hu⟩ := List.exists_cons_of_ne_nil (splitOn_ne_nil t.toList)
  simp only [lines, hsplit, hu, List.dropLast_cons_cons, List.map_cons, stripCr_of_ne h.2,
    List.cons_append, List.getLast?_cons_cons, String.ofList_toList]

@[simp] lemma lines_empty : lines "" = [] := by decide

/-- The lines of a text written line by line are the lines that were written. -/
theorem lines_unlines {ls : List String} (h : ∀ l ∈ ls, IsLine l) : lines (unlines ls) = ls := by
  induction ls with
  | nil => exact lines_empty
  | cons l ls ih =>
      have htail : lines (unlines ls) = ls := ih fun l' hl' => h l' (List.mem_cons_of_mem _ hl')
      have hcons : unlines (l :: ls) = l ++ "\n" ++ unlines ls := by
        simp [unlines, String.join_cons]
      rw [hcons, lines_line_append (h l List.mem_cons_self), htail]

/-! ### Words -/

lemma words_append_blank (s t : String) {b : String} {c : Char} (hb : b.toList = [c])
    (hc : isWhitespace c = true) : words (s ++ b ++ t) = words s ++ words t := by
  have hlist : (s ++ b ++ t).toList = s.toList ++ c :: t.toList := by simp [hb]
  simp only [words, hlist]
  rw [List.splitOnP_append_cons _ _ hc, List.filter_append, List.map_append]

lemma words_append_space (s t : String) : words (s ++ " " ++ t) = words s ++ words t :=
  words_append_blank s t (c := ' ') (by simp) (by decide)

lemma words_of_isWord {s : String} (h : IsWord s) : words s = [s] := by
  simp only [words]
  rw [List.splitOnP_eq_singleton h.2]
  simp [h.1]

@[simp] lemma words_empty : words "" = [] := by decide

lemma words_blanks (n : ℕ) (s : String) :
    words (String.ofList (List.replicate n ' ') ++ s) = words s := by
  induction n with
  | zero => simp
  | succ n ih =>
      have hcut : String.ofList (List.replicate (n + 1) ' ') ++ s
          = "" ++ " " ++ (String.ofList (List.replicate n ' ') ++ s) := by
        rw [← String.toList_inj]
        simp [List.replicate_succ]
      rw [hcut, words_append_space, ih, words_empty, List.nil_append]

lemma unwords_cons_cons (w v : String) (ws : List String) :
    unwords (w :: v :: ws) = w ++ " " ++ unwords (v :: ws) := by
  simp [unwords, String.intercalate_cons_cons]

lemma unwords_append {vs ws : List String} (hvs : vs ≠ []) (hws : ws ≠ []) :
    unwords (vs ++ ws) = unwords vs ++ " " ++ unwords ws := by
  induction vs with
  | nil => exact absurd rfl hvs
  | cons v vs ih =>
      cases vs with
      | nil =>
          obtain ⟨w, ws, rfl⟩ := List.exists_cons_of_ne_nil hws
          rw [List.cons_append, List.nil_append, unwords_cons_cons]
          simp [unwords]
      | cons v' vs =>
          have htail := ih (by simp)
          rw [List.cons_append] at htail
          rw [List.cons_append, List.cons_append, unwords_cons_cons, htail, unwords_cons_cons]
          simp only [String.append_assoc]

/-- The words of a line written word by word are the words that were written. -/
theorem words_unwords {ws : List String} (h : ∀ w ∈ ws, IsWord w) : words (unwords ws) = ws := by
  induction ws with
  | nil => exact words_empty
  | cons w ws ih =>
      have hw : words w = [w] := words_of_isWord (h w List.mem_cons_self)
      have htail : words (unwords ws) = ws := ih fun w' hw' => h w' (List.mem_cons_of_mem _ hw')
      cases ws with
      | nil => simpa [unwords] using hw
      | cons v ws =>
          rw [unwords_cons_cons, words_append_space, hw, htail, List.singleton_append]

/-- The words of texts that are set apart by two blanks. -/
lemma words_intercalate (ps : List String) :
    words ("  ".intercalate ps) = ps.flatMap words := by
  induction ps with
  | nil => exact words_empty
  | cons p ps ih =>
      cases ps with
      | nil => simp
      | cons q ps =>
          have hcut : "  ".intercalate (p :: q :: ps) =
              p ++ " " ++ ("" ++ " " ++ "  ".intercalate (q :: ps)) := by
            simp [String.intercalate_cons_cons, ← String.toList_inj]
          rw [hcut, words_append_space, words_append_space, words_empty, List.nil_append, ih]
          rfl

/-- Texts that are not empty are read off between the occurrences of a character. -/
lemma intercalate_inj {c : Char} {sep : String} {ss ts : List String} (hsep : sep.toList = [c])
    (hss : ∀ s ∈ ss, s.toList ≠ [] ∧ c ∉ s.toList) (hts : ∀ t ∈ ts, t.toList ≠ [] ∧ c ∉ t.toList)
    (h : sep.intercalate ss = sep.intercalate ts) : ss = ts := by
  have hsplit : ∀ us : List String, (∀ u ∈ us, u.toList ≠ [] ∧ c ∉ u.toList) →
      (sep.intercalate us).toList.splitOn c = if us = [] then [[]] else us.map String.toList := by
    intro us hus
    cases us with
    | nil => simp
    | cons u us =>
        rw [String.toList_intercalate, hsep, List.splitOn_intercalate]
        · simp
        · simpa using fun u hu => (hus u hu).2
        · simp
  have hnil : ∀ us : List String, (∀ u ∈ us, u.toList ≠ [] ∧ c ∉ u.toList) →
      [[]] ≠ us.map String.toList := by
    intro us hus heq
    obtain ⟨u, hu, he⟩ := List.mem_map.1 (heq ▸ List.mem_singleton_self [])
    exact (hus u hu).1 he
  have heq := hsplit ss hss
  rw [h, hsplit ts hts] at heq
  split_ifs at heq with ht hs hs
  · rw [ht, hs]
  · exact absurd heq (hnil ss hss)
  · exact absurd heq.symm (hnil ts hts)
  · exact (List.map_inj_right fun _ _ => String.toList_inj.1).1 heq.symm

/-- What holds of the characters of texts and of what is put between them holds of the characters
of the whole. -/
lemma forall_mem_intercalate {P : Char → Prop} {sep : String} (hsep : ∀ c ∈ sep.toList, P c)
    {ss : List String} (h : ∀ s ∈ ss, ∀ c ∈ s.toList, P c) :
    ∀ c ∈ (sep.intercalate ss).toList, P c := by
  induction ss with
  | nil => simp
  | cons s ss ih =>
      rw [List.forall_mem_cons] at h
      cases ss with
      | nil => simpa using h.1
      | cons t ss =>
          rw [String.intercalate_cons_cons, String.toList_append, String.toList_append]
          simp only [List.forall_mem_append]
          exact ⟨⟨h.1, hsep⟩, ih h.2⟩

/-- What holds of a blank and of the characters of the words holds of the characters of the
line. -/
lemma forall_mem_unwords {P : Char → Prop} (hblank : P ' ') {ws : List String}
    (h : ∀ w ∈ ws, ∀ c ∈ w.toList, P c) : ∀ c ∈ (unwords ws).toList, P c :=
  forall_mem_intercalate (by simpa using hblank) h

/-- A line written from words is one line. -/
lemma isLine_unwords {ws : List String} (h : ∀ w ∈ ws, IsWord w) : IsLine (unwords ws) :=
  isLine_of_forall <| forall_mem_unwords (by decide) fun w hw _ hc =>
    not_isWhitespace_nl ((h w hw).2 _ hc)

lemma trim_eq_self {s : String} (hhead : ∀ c ∈ s.toList.head?, isWhitespace c = false)
    (hlast : ∀ c ∈ s.toList.getLast?, isWhitespace c = false) : trim s = s := by
  have hleft : s.toList.dropWhile isWhitespace = s.toList := by
    cases hs : s.toList with
    | nil => rfl
    | cons c cs =>
        rw [hs] at hhead
        exact List.dropWhile_cons_of_neg (by simp [hhead c rfl])
  have hright : s.toList.rdropWhile isWhitespace = s.toList := by
    rw [List.rdropWhile_eq_self_iff]
    intro hne
    simp [hlast _ (List.getLast_mem_getLast? hne)]
  rw [trim, hleft, hright, String.ofList_toList]

lemma head?_trim (s : String) : ∀ c ∈ (trim s).toList.head?, isWhitespace c = false := by
  intro c hc
  rw [trim, String.toList_ofList] at hc
  obtain ⟨t, ht⟩ := List.rdropWhile_prefix isWhitespace (s.toList.dropWhile isWhitespace)
  -- the first character is also the first one when only the left end is cut
  cases hl : (s.toList.dropWhile isWhitespace).rdropWhile isWhitespace with
  | nil => simp [hl] at hc
  | cons d ds =>
      obtain rfl : d = c := by simpa [hl] using hc
      have hfirst := List.head?_dropWhile_not isWhitespace s.toList
      rw [← ht, hl] at hfirst
      simpa using hfirst

lemma getLast?_trim (s : String) : ∀ c ∈ (trim s).toList.getLast?, isWhitespace c = false := by
  intro c hc
  rw [trim, String.toList_ofList] at hc
  obtain ⟨hne, rfl⟩ := List.mem_getLast?_eq_getLast hc
  simpa using List.rdropWhile_last_not isWhitespace _ hne

lemma trim_trim (s : String) : trim (trim s) = trim s :=
  trim_eq_self (head?_trim s) (getLast?_trim s)

lemma head?_unwords {w : String} (ws : List String) (hw : w.toList ≠ []) :
    (unwords (w :: ws)).toList.head? = w.toList.head? := by
  cases ws with
  | nil => simp [unwords]
  | cons v ws =>
      rw [unwords_cons_cons, String.toList_append, String.toList_append, List.append_assoc,
        List.head?_append_of_ne_nil _ hw]

lemma getLast?_unwords {w : String} (ws : List String) (hw : w.toList ≠ []) :
    (unwords (ws ++ [w])).toList.getLast? = w.toList.getLast? := by
  cases ws with
  | nil => simp [unwords]
  | cons v ws =>
      rw [unwords_append (by simp) (by simp), String.toList_append,
        List.getLast?_append_of_ne_nil _ (by simpa [unwords] using hw)]
      simp [unwords]

/-- A line written from words has no white space at its ends. -/
lemma trim_unwords {ws : List String} (h : ∀ w ∈ ws, IsWord w) :
    trim (unwords ws) = unwords ws := by
  refine trim_eq_self (fun c hc => ?_) fun c hc => ?_
  · cases ws with
    | nil => simp [unwords] at hc
    | cons w ws =>
        have hw := h w List.mem_cons_self
        rw [head?_unwords ws hw.1] at hc
        exact hw.2 c (List.mem_of_head? hc)
  · rcases ws.eq_nil_or_concat' with rfl | ⟨vs, v, rfl⟩
    · simp [unwords] at hc
    · have hv := h v (by simp)
      rw [getLast?_unwords vs hv.1] at hc
      exact hv.2 c (List.mem_of_getLast? hc)

/-! ### Neighbouring words -/

lemma isPrefix_word {v : String} {ws : List String} {q t : List Char} (hq : ' ' ∉ q)
    (h : q ++ t = (unwords (v :: ws)).toList) : q <+: v.toList := by
  cases ws with
  | nil => exact ⟨t, by simpa [unwords] using h⟩
  | cons w ws =>
      rw [unwords_cons_cons, String.toList_append, String.toList_append, List.append_assoc] at h
      rcases List.append_eq_append_iff.1 h with ⟨c, hc, -⟩ | ⟨c, hc, hrest⟩
      · exact ⟨c, hc.symm⟩
      · cases c with
        | nil => exact ⟨[], by simp [hc]⟩
        | cons x c =>
            have hx : ' ' = x := by
              have := congrArg List.head? hrest
              simpa using this
            exact absurd (by simp [hc, ← hx]) hq

/-- A piece with one blank in it that occurs in a line written word by word lies across two
neighbouring words. -/
theorem exists_neighbours {ws : List String} (h : ∀ w ∈ ws, ' ' ∉ w.toList) {p q : List Char}
    (hp : ' ' ∉ p) (hq : ' ' ∉ q) (hin : p ++ ' ' :: q <:+: (unwords ws).toList) :
    ∃ xs u v ys, ws = xs ++ u :: v :: ys ∧ p <:+ u.toList ∧ q <+: v.toList := by
  induction ws with
  | nil => simp [unwords] at hin
  | cons w ws ih =>
      have hw := h w List.mem_cons_self
      have hws : ∀ v ∈ ws, ' ' ∉ v.toList := fun v hv => h v (List.mem_cons_of_mem _ hv)
      cases ws with
      | nil =>
          have hsub : ' ' ∈ w.toList := by
            have := hin.subset (a := ' ') (by simp)
            simpa [unwords] using this
          exact absurd hsub hw
      | cons v ws =>
          obtain ⟨s, t, hst⟩ := hin
          have hcut :
              (s ++ p) ++ ' ' :: (q ++ t) = w.toList ++ ' ' :: (unwords (v :: ws)).toList := by
            rw [unwords_cons_cons] at hst
            simpa using hst
          -- the blank of the piece is the one behind the first word, or comes later
          rcases List.append_eq_append_iff.1 hcut with ⟨c, hwc, hc⟩ | ⟨c, hsp, hc⟩
          · cases c with
            | cons x c =>
                obtain rfl : ' ' = x := (List.cons.inj hc).1
                exact absurd (by simp [hwc]) hw
            | nil =>
                have hR : q ++ t = (unwords (v :: ws)).toList := (List.cons.inj hc).2
                refine ⟨[], w, v, ws, rfl, ?_, ?_⟩
                · rw [hwc, List.append_nil]
                  exact List.suffix_append s p
                · exact isPrefix_word hq hR
          · cases c with
            | nil =>
                have hR : (unwords (v :: ws)).toList = q ++ t := (List.cons.inj hc).2
                refine ⟨[], w, v, ws, rfl, ?_, isPrefix_word hq hR.symm⟩
                rw [List.append_nil] at hsp
                exact hsp ▸ List.suffix_append s p
            | cons x c =>
                obtain ⟨rfl, hR⟩ := List.cons.inj hc
                have hlater : p ++ ' ' :: q <:+: (unwords (v :: ws)).toList := by
                  rcases List.append_eq_append_iff.1 hsp with ⟨d, hwd, hd⟩ | ⟨d, hs, hd⟩
                  · exact absurd (by simp [hd]) hp
                  · cases d with
                    | nil =>
                        obtain rfl : ' ' :: c = p := by simpa using hd
                        exact absurd List.mem_cons_self hp
                    | cons y d =>
                        obtain ⟨-, rfl⟩ := List.cons.inj hd
                        exact ⟨d, t, by simp [hR]⟩
                -- the piece lies in what is behind the first word
                obtain ⟨xs, u, u', ys, hsplit, hu, hu'⟩ := ih hws hlater
                exact ⟨w :: xs, u, u', ys, by rw [hsplit]; rfl, hu, hu'⟩

/-- Two neighbouring words occur in the line with a blank between them. -/
lemma contains_neighbours (xs : List String) (u v : String) (ys : List String) :
    contains (unwords (xs ++ u :: v :: ys)) (u ++ " " ++ v) = true := by
  have htail : ((u ++ " " ++ v).toList) <:+: (unwords (u :: v :: ys)).toList := by
    cases ys with
    | nil => exact ⟨[], [], by simp [unwords]⟩
    | cons y ys =>
        exact ⟨[], ' ' :: (unwords (y :: ys)).toList, by simp [unwords_cons_cons]⟩
  refine decide_eq_true (htail.trans ?_)
  cases xs with
  | nil => exact List.infix_rfl
  | cons x xs =>
      rw [unwords_append (by simp) (by simp), String.toList_append]
      exact (List.suffix_append _ _).isInfix

end Text
