import Degc.Net.Addr

/-!
# Internet addresses as text

Writing an address in its usual form and reading it back: dotted quads for
IPv4; for IPv6 groups of hexadecimal digits, where the longest run of two or
more zero groups is written `::` and an address that embeds an IPv4 address
ends in a dotted quad.

The reader is a recursive-descent reader over the characters of the text.  It
accepts more than the writer produces (a `::` in other places, leading zeros in
groups).  The main result is `parseIp_showIp`: a written address reads back as
itself.
-/

namespace Net

open Text

/-! ### Writing -/

/-- An IPv4 address as a dotted quad. -/
def showV4 (a : BitVec 32) : String := ".".intercalate ((octets a).map toString)

/-- Segments as groups of hexadecimal digits. -/
def showGroups (ss : List ℕ) : String := ":".intercalate (ss.map hex)

/-- The first longest run of zeros among the segments from position `i` on, given the run
`cur` that ends before `i` and the longest run `lg` so far.  A run is its start and its
length. -/
def zeroRunFrom : List ℕ → ℕ → ℕ × ℕ → ℕ × ℕ → ℕ × ℕ
  | [], _, _, lg => lg
  | s :: ss, i, cur, lg =>
      if s = 0 then
        let cur' := (if cur.2 = 0 then i else cur.1, cur.2 + 1)
        zeroRunFrom ss (i + 1) cur' (if lg.2 < cur'.2 then cur' else lg)
      else zeroRunFrom ss (i + 1) (0, 0) lg

/-- The first longest run of zero segments. -/
def zeroRun (ss : List ℕ) : ℕ × ℕ := zeroRunFrom ss 0 (0, 0) (0, 0)

/-- An IPv6 address in groups, with its longest run of zeros compressed. -/
def showV6 (a : BitVec 128) : String :=
  let ss := segments a
  if ss.take 6 = [0, 0, 0, 0, 0, 0xffff] then "::ffff:" ++ showV4 (a.setWidth 32)
  else
    let z := zeroRun ss
    if 1 < z.2 then showGroups (ss.take z.1) ++ "::" ++ showGroups (ss.drop (z.1 + z.2))
    else showGroups ss

/-- An address of either family as text. -/
def showIp : IpAddr → String
  | .v4 a => showV4 a
  | .v6 a => showV6 a

/-- A block of addresses as text. -/
def showCidr (c : Cidr) : String := s!"{showIp c.addr}/{c.len}"

/-! ### Reading -/

/-- Reading a given character. -/
def readChar (c : Char) : List Char → Option (List Char)
  | [] => none
  | x :: xs => if x = c then some xs else none

/-- Reading a numeral of at most `k` digits whose value is below `m`. -/
def readNum (b k : ℕ) (zeros : Bool) (m : ℕ) (cs : List Char) : Option (ℕ × List Char) :=
  let ds := cs.takeWhile fun c => (digitVal b c).isSome
  let rest := cs.dropWhile fun c => (digitVal b c).isSome
  if ds = [] ∨ k < ds.length ∨ (zeros = false ∧ ds.head? = some '0' ∧ 1 < ds.length) then none
  else (readDigitsFrom b 0 ds).bind fun n => if n < m then some (n, rest) else none

/-- Reading an octet. -/
def readOctet : List Char → Option (ℕ × List Char) := readNum 10 3 false 256

/-- Reading a group of hexadecimal digits. -/
def readGroup : List Char → Option (ℕ × List Char) := readNum 16 4 true 65536

/-- Reading a dotted quad. -/
def readV4 (cs : List Char) : Option (BitVec 32 × List Char) :=
  (readOctet cs).bind fun (w, cs) => (readChar '.' cs).bind fun cs =>
  (readOctet cs).bind fun (x, cs) => (readChar '.' cs).bind fun cs =>
  (readOctet cs).bind fun (y, cs) => (readChar '.' cs).bind fun cs =>
  (readOctet cs).bind fun (z, cs) => some (ofOctets w x y z, cs)

/-- Reading something behind a colon, which the first one lacks. -/
def readSep {α : Type*} (first : Bool) (p : List Char → Option (α × List Char))
    (cs : List Char) : Option (α × List Char) :=
  if first then p cs else (readChar ':' cs).bind p

/-- Reading at most `left` groups, a dotted quad standing for the last two; the answer says
whether one was read. -/
def readGroups : ℕ → Bool → List Char → List ℕ × Bool × List Char
  | 0, _, cs => ([], false, cs)
  | left + 1, first, cs =>
      match (if 1 ≤ left then readSep first readV4 cs else none) with
      | some (a, cs) => ([a.toNat / 65536, a.toNat % 65536], true, cs)
      | none =>
          match readSep first readGroup cs with
          | none => ([], false, cs)
          | some (g, cs) =>
              let (gs, quad, rest) := readGroups left false cs
              (g :: gs, quad, rest)

/-- Reading an IPv6 address. -/
def readV6 (cs : List Char) : Option (BitVec 128 × List Char) :=
  let (head, quad, cs) := readGroups 8 true cs
  if head.length = 8 then some (ofSegments head, cs)
  else if quad then none
  else
    (readChar ':' cs).bind fun cs => (readChar ':' cs).bind fun cs =>
    let (tail, _, cs) := readGroups (8 - (head.length + 1)) true cs
    some (ofSegments (head ++ List.replicate (8 - head.length - tail.length) 0 ++ tail), cs)

/-- Reading an address of either family. -/
def readIp (cs : List Char) : Option (IpAddr × List Char) :=
  match readV4 cs with
  | some (a, cs) => some (.v4 a, cs)
  | none => (readV6 cs).map fun (a, cs) => (.v6 a, cs)

/-- The address a text is, if it is one. -/
def parseIp (s : String) : Option IpAddr :=
  match readIp s.toList with
  | some (a, []) => some a
  | _ => none

/-- The block of addresses a text is: an address, a slash and a number of bits. -/
def parseCidr (s : String) : Option Cidr :=
  (splitOnce '/' s).bind fun (a, l) =>
    (parseIp a).bind fun a => (readDigits 10 l).map fun l => ⟨a, l⟩

example : parseIp "fd00::1" = some (.v6 0xfd000000000000000000000000000001) := by decide
example : parseIp "172.18.0.7" = some (.v4 0xac120007) := by decide
example : showIp (.v6 0xfd000000000000000000000000000001) = "fd00::1" := by decide

/-! ### Numerals -/

lemma dropWhile_eq_self {p : Char → Bool} {cs : List Char} (h : ∀ c ∈ cs.head?, p c = false) :
    cs.dropWhile p = cs := by
  cases cs with
  | nil => rfl
  | cons c cs => simp [h c rfl]

lemma takeWhile_eq_nil {p : Char → Bool} {cs : List Char} (h : ∀ c ∈ cs.head?, p c = false) :
    cs.takeWhile p = [] := by
  cases cs with
  | nil => rfl
  | cons c cs => simp [h c rfl]

/-- A numeral of more than one digit has no leading zero. -/
lemma head_toDigits {b : ℕ} (h1 : 1 < b) (hb : b ≤ 16) {n : ℕ} (hn : 0 < n) :
    (Nat.toDigits b n).head? ≠ some '0' := by
  induction n using Nat.strong_induction_on with
  | _ n ih =>
      by_cases hlt : n < b
      · have hall : ∀ d < 16, 0 < d → Nat.digitChar d ≠ '0' := by decide
        rw [Nat.toDigits_of_lt_base hlt]
        simpa using hall n (by omega) hn
      · rw [Nat.toDigits_of_base_le h1 (by omega),
          List.head?_append_of_ne_nil _ Nat.toDigits_ne_nil]
        exact ih _ (Nat.div_lt_self hn h1) (Nat.div_pos (by omega) (by omega))

lemma pos_of_length_toDigits {b : ℕ} (h1 : 1 < b) {n : ℕ} (h : 1 < (Nat.toDigits b n).length) :
    0 < n := by
  rcases Nat.eq_zero_or_pos n with rfl | hn
  · rw [Nat.toDigits_of_lt_base (by omega)] at h
    simp at h
  · exact hn

/-- A numeral in front of something that is no digit is read as its number. -/
lemma readNum_toDigits {b k m n : ℕ} {zeros : Bool} {rest : List Char} (h1 : 1 < b)
    (hb : b ≤ 16) (hk : 0 < k) (hm : m ≤ b ^ k) (hn : n < m)
    (hrest : ∀ c ∈ rest.head?, (digitVal b c).isSome = false) :
    readNum b k zeros m (Nat.toDigits b n ++ rest) = some (n, rest) := by
  have hdigits : ∀ c ∈ Nat.toDigits b n, (digitVal b c).isSome = true := by
    intro c hc
    obtain ⟨d, hd, rfl⟩ := mem_toDigits h1 hc
    rw [digitVal_digitChar hd hb]
    rfl
  have htake : (Nat.toDigits b n ++ rest).takeWhile (fun c => (digitVal b c).isSome)
      = Nat.toDigits b n := by
    rw [List.takeWhile_append_of_pos hdigits, takeWhile_eq_nil hrest, List.append_nil]
  have hdrop : (Nat.toDigits b n ++ rest).dropWhile (fun c => (digitVal b c).isSome) = rest := by
    rw [List.dropWhile_append_of_pos hdigits, dropWhile_eq_self hrest]
  have hlen : ¬ k < (Nat.toDigits b n).length :=
    not_lt.2 (Nat.toDigits_length b n k hk (hn.trans_le hm))
  have hzero : ¬ (zeros = false ∧ (Nat.toDigits b n).head? = some '0' ∧
      1 < (Nat.toDigits b n).length) := by
    rintro ⟨-, h0, hlong⟩
    exact head_toDigits h1 hb (pos_of_length_toDigits h1 hlong) h0
  simp only [readNum, htake, hdrop]
  rw [if_neg (by simp [Nat.toDigits_ne_nil, hlen, hzero]), readDigitsFrom_toDigits h1 hb]
  simp [hn]

lemma readOctet_toDigits {n : ℕ} (hn : n < 256) {rest : List Char}
    (hrest : ∀ c ∈ rest.head?, (digitVal 10 c).isSome = false) :
    readOctet (Nat.toDigits 10 n ++ rest) = some (n, rest) :=
  readNum_toDigits (by decide) (by decide) (by decide) (by decide) hn hrest

lemma readGroup_toDigits {n : ℕ} (hn : n < 65536) {rest : List Char}
    (hrest : ∀ c ∈ rest.head?, (digitVal 16 c).isSome = false) :
    readGroup (Nat.toDigits 16 n ++ rest) = some (n, rest) :=
  readNum_toDigits (by decide) (by decide) (by decide) (by decide) hn hrest

/-! ### Dotted quads -/

lemma toList_showV4 (a : BitVec 32) :
    (showV4 a).toList = Nat.toDigits 10 (a.toNat / 2 ^ 24 % 256) ++
      '.' :: (Nat.toDigits 10 (a.toNat / 2 ^ 16 % 256) ++
      '.' :: (Nat.toDigits 10 (a.toNat / 2 ^ 8 % 256) ++
      '.' :: Nat.toDigits 10 (a.toNat % 256))) := by
  simp [showV4, octets, String.intercalate_cons_cons]

/-- A dotted quad in front of something that is no digit is read as its address. -/
lemma readV4_showV4 (a : BitVec 32) (rest : List Char)
    (hrest : ∀ c ∈ rest.head?, (digitVal 10 c).isSome = false) :
    readV4 ((showV4 a).toList ++ rest) = some (a, rest) := by
  have hdot : ∀ t : List Char, ∀ c ∈ ('.' :: t).head?, (digitVal 10 c).isSome = false := by
    rintro t c ⟨⟩
    decide
  have hoctet : ∀ n : ℕ, n % 256 < 256 := fun n => Nat.mod_lt _ (by decide)
  rw [toList_showV4]
  simp only [readV4, List.append_assoc, List.cons_append, readOctet_toDigits (hoctet _) (hdot _),
    readOctet_toDigits (hoctet _) hrest, Option.bind_some, readChar, if_true, ofOctets_octets]

lemma rest_of_readNum {b k m n : ℕ} {zeros : Bool} {cs rest : List Char}
    (h : readNum b k zeros m cs = some (n, rest)) :
    rest = cs.dropWhile fun c => (digitVal b c).isSome := by
  simp only [readNum] at h
  split at h
  · exact absurd h (by simp)
  · obtain ⟨v, -, hv⟩ := Option.bind_eq_some_iff.1 h
    split at hv
    · exact (congrArg Prod.snd (Option.some.inj hv)).symm
    · exact absurd hv (by simp)

/-- No dotted quad starts with dotless text in front of something that is neither a dot nor
a digit. -/
lemma readV4_eq_none (hs : List Char) {rest : List Char} (hdot : '.' ∉ hs)
    (hrest : ∀ c ∈ rest.head?, c = ':') : readV4 (hs ++ rest) = none := by
  have hhead :
      (List.dropWhile (fun c => (digitVal 10 c).isSome) (hs ++ rest)).head? ≠ some '.' := by
    induction hs with
    | nil =>
        have hcolon : ∀ c ∈ rest.head?, (digitVal 10 c).isSome = false := by
          intro c hc
          rw [hrest c hc]
          decide
        rw [List.nil_append, dropWhile_eq_self hcolon]
        intro hc
        exact absurd (hrest '.' hc) (by decide)
    | cons c hs ih =>
        simp only [List.mem_cons, not_or] at hdot
        rw [List.cons_append, List.dropWhile_cons]
        split
        · exact ih hdot.2
        · simpa using fun hc => hdot.1 hc.symm
  cases hw : readOctet (hs ++ rest) with
  | none => simp [readV4, hw]
  | some w =>
      obtain ⟨w, cs⟩ := w
      rw [← rest_of_readNum hw] at hhead
      have hchar : readChar '.' cs = none := by
        cases cs with
        | nil => rfl
        | cons c cs => exact if_neg fun hc => hhead (by simp [hc])
      simp [readV4, hw, hchar]

/-! ### Groups -/

/-- Groups of hexadecimal digits, each behind a colon. -/
def groupTail (gs : List ℕ) : List Char := gs.flatMap fun g => ':' :: Nat.toDigits 16 g

lemma toList_showGroups_cons (g : ℕ) (gs : List ℕ) :
    (showGroups (g :: gs)).toList = Nat.toDigits 16 g ++ groupTail gs := by
  induction gs generalizing g with
  | nil => simp [showGroups, groupTail]
  | cons h gs ih =>
      have hcons : showGroups (g :: h :: gs) = hex g ++ ":" ++ showGroups (h :: gs) := by
        simp [showGroups, String.intercalate_cons_cons]
      rw [hcons, String.toList_append, ih h]
      simp [groupTail]

@[simp] lemma toList_showGroups_nil : (showGroups []).toList = [] := by decide

/-- Where a list of groups ends: at the end of the text or at `::`. -/
def GroupsEnd (rest : List Char) : Prop := rest = [] ∨ ∃ t, rest = ':' :: ':' :: t

lemma head_groupTail_append (gs : List ℕ) {rest : List Char} (hrest : GroupsEnd rest) :
    ∀ c ∈ (groupTail gs ++ rest).head?, c = ':' := by
  cases gs with
  | nil => rcases hrest with rfl | ⟨t, rfl⟩ <;> simp [groupTail]
  | cons g gs => simp [groupTail]

lemma dot_not_mem_toDigits (g : ℕ) : '.' ∉ Nat.toDigits 16 g := fun hc =>
  forall_mem_toDigits (P := (· ≠ '.')) (by decide) (by decide) (by decide) g _ hc rfl

/-- A group in front of further groups is read by itself, and is not the beginning of a
dotted quad. -/
lemma readGroup_groups {g : ℕ} (hg : g < 65536) (gs : List ℕ) {rest : List Char}
    (hrest : GroupsEnd rest) :
    readV4 (Nat.toDigits 16 g ++ (groupTail gs ++ rest)) = none ∧
      readGroup (Nat.toDigits 16 g ++ (groupTail gs ++ rest)) = some (g, groupTail gs ++ rest) := by
  -- what is behind the group is a colon or nothing, so that no dot follows its digits
  have hhead := head_groupTail_append gs hrest
  refine ⟨readV4_eq_none _ (dot_not_mem_toDigits g) hhead, readGroup_toDigits hg fun c hc => ?_⟩
  rw [hhead c hc]
  decide

lemma readGroups_groupTail {gs : List ℕ} (hgs : ∀ g ∈ gs, g < 65536) {rest : List Char}
    (hrest : GroupsEnd rest) (left : ℕ) (hleft : gs.length ≤ left) :
    readGroups left false (groupTail gs ++ rest) = (gs, false, rest) := by
  induction gs generalizing left with
  | nil =>
      cases left with
      | zero => rfl
      | succ left =>
          rcases hrest with rfl | ⟨t, rfl⟩
          · simp [groupTail, readGroups, readSep, readChar]
          · have hv4 : readV4 (':' :: t) = none := readV4_eq_none [] (by simp) (by simp)
            have hgroup : readGroup (':' :: t) = none := by
              simp [readGroup, readNum, digitVal]
            simp [groupTail, readGroups, readSep, readChar, hv4, hgroup]
  | cons g gs ih =>
      obtain ⟨left, rfl⟩ : ∃ l, left = l + 1 := ⟨left - 1, by simp at hleft; omega⟩
      have hg := readGroup_groups (hgs g List.mem_cons_self) gs hrest
      have htail := ih (fun g' hg' => hgs g' (List.mem_cons_of_mem _ hg')) left
        (by simpa using hleft)
      have hcut : groupTail (g :: gs) ++ rest
          = ':' :: (Nat.toDigits 16 g ++ (groupTail gs ++ rest)) := by simp [groupTail]
      simp [hcut, readGroups, readSep, readChar, hg.1, hg.2, htail]

/-- Written groups are read as the groups that were written. -/
lemma readGroups_showGroups (gs : List ℕ) (hgs : ∀ g ∈ gs, g < 65536) {rest : List Char}
    (hrest : GroupsEnd rest) (left : ℕ) (hleft : gs.length ≤ left) :
    readGroups left true ((showGroups gs).toList ++ rest) = (gs, false, rest) := by
  cases gs with
  | nil =>
      have hv4 : readV4 rest = none :=
        readV4_eq_none [] (by simp) (head_groupTail_append [] hrest)
      have hgroup : readGroup rest = none := by
        rcases hrest with rfl | ⟨t, rfl⟩ <;> simp [readGroup, readNum, digitVal]
      cases left with
      | zero => rfl
      | succ left => simp [readGroups, readSep, hv4, hgroup]
  | cons g gs =>
      obtain ⟨left, rfl⟩ : ∃ l, left = l + 1 := ⟨left - 1, by simp at hleft; omega⟩
      have hg := readGroup_groups (hgs g List.mem_cons_self) gs hrest
      have htail := readGroups_groupTail (fun g' hg' => hgs g' (List.mem_cons_of_mem _ hg')) hrest
        left (by simpa using hleft)
      rw [toList_showGroups_cons, List.append_assoc]
      simp [readGroups, readSep, hg.1, hg.2, htail]

/-! ### Runs of zeros -/

/-- The segments from `z.1` on, `z.2` of them, are zero. -/
def ZeroAt (ss : List ℕ) (z : ℕ × ℕ) : Prop := ∀ k < z.2, ss[z.1 + k]? = some 0

lemma zeroAt_zeroRunFrom {ss rest : List ℕ} {i : ℕ} {cur lg : ℕ × ℕ} (hrest : rest = ss.drop i)
    (hcur : ZeroAt ss cur) (hend : 0 < cur.2 → cur.1 + cur.2 = i) (hlg : ZeroAt ss lg) :
    ZeroAt ss (zeroRunFrom rest i cur lg) := by
  induction rest generalizing i cur lg with
  | nil => exact hlg
  | cons s rest ih =>
      have hi : ss[i]? = some s := by
        have h0 := congrArg (fun l : List ℕ => l[0]?) hrest
        simpa using h0.symm
      have hrest' : rest = ss.drop (i + 1) := by
        rw [List.drop_add_one_eq_tail_drop, ← hrest, List.tail_cons]
      rw [zeroRunFrom]
      split
      · next hs =>
          -- the run that ends before `i` grows by one
          have hgrow : ZeroAt ss (if cur.2 = 0 then i else cur.1, cur.2 + 1) := by
            intro k hk
            by_cases h0 : cur.2 = 0
            · have hk0 : k = 0 := by simp only [h0] at hk; omega
              simp [h0, hk0, hi, hs]
            · have hpos := hend (Nat.pos_of_ne_zero h0)
              simp only [if_neg h0]
              by_cases hk' : k < cur.2
              · exact hcur k hk'
              · have hik : cur.1 + k = i := by simp only at hk; omega
                rw [hik, hi, hs]
          refine ih hrest' hgrow (fun _ => ?_)
            (iteInduction (motive := ZeroAt ss) (fun _ => hgrow) (fun _ => hlg))
          by_cases h0 : cur.2 = 0
          · simp [h0]
          · have hpos := hend (Nat.pos_of_ne_zero h0)
            simp only [if_neg h0]
            omega
      · exact ih hrest' (fun k hk => absurd hk (Nat.not_lt_zero k)) (by simp) hlg

lemma zeroAt_zeroRun (ss : List ℕ) : ZeroAt ss (zeroRun ss) :=
  zeroAt_zeroRunFrom (by simp) (fun _ hk => absurd hk (Nat.not_lt_zero _)) (by simp)
    (fun _ hk => absurd hk (Nat.not_lt_zero _))

lemma ZeroAt.le_length {ss : List ℕ} {z : ℕ × ℕ} (h : ZeroAt ss z) (hz : 0 < z.2) :
    z.1 + z.2 ≤ ss.length := by
  have hlast := h (z.2 - 1) (by omega)
  obtain ⟨hlt, -⟩ := List.getElem?_eq_some_iff.1 hlast
  omega

/-- A list is what precedes a run of zeros, the zeros, and what follows. -/
lemma ZeroAt.append_eq {ss : List ℕ} {z : ℕ × ℕ} (h : ZeroAt ss z) :
    ss.take z.1 ++ List.replicate z.2 0 ++ ss.drop (z.1 + z.2) = ss := by
  have hzeros : (ss.drop z.1).take z.2 = List.replicate z.2 0 := by
    rcases Nat.eq_zero_or_pos z.2 with h0 | hpos
    · simp [h0]
    · have hle := h.le_length hpos
      refine List.eq_replicate_iff.2 ⟨by simp; omega, fun b hb => ?_⟩
      obtain ⟨k, hk, rfl⟩ := List.mem_iff_getElem.1 hb
      have hk2 : k < z.2 := by
        rw [List.length_take] at hk
        omega
      have hzero := h k hk2
      rw [List.getElem_take, List.getElem_drop]
      exact (List.getElem?_eq_some_iff.1 hzero).2
  rw [← hzeros, List.append_assoc, ← List.drop_drop, List.take_append_drop, List.take_append_drop]

/-! ### The round trip -/

lemma groupsEnd_nil : GroupsEnd [] := Or.inl rfl

lemma groupsEnd_colons (t : List Char) : GroupsEnd (':' :: ':' :: t) := Or.inr ⟨t, rfl⟩

/-- Groups before and after `::` are read as the address with zeros in between. -/
lemma readV6_compressed {ss : List ℕ} (hss : ∀ s ∈ ss, s < 65536) (hlen : ss.length = 8)
    {z : ℕ × ℕ} (hz : ZeroAt ss z) (hlong : 1 < z.2) :
    readV6 (showGroups (ss.take z.1) ++ "::" ++ showGroups (ss.drop (z.1 + z.2))).toList
      = some (ofSegments ss, []) := by
  have hle := hz.le_length (by omega)
  have hhead : ∀ g ∈ ss.take z.1, g < 65536 := fun g hg => hss g (List.mem_of_mem_take hg)
  have htail : ∀ g ∈ ss.drop (z.1 + z.2), g < 65536 := fun g hg => hss g (List.mem_of_mem_drop hg)
  have hcut : (showGroups (ss.take z.1) ++ "::" ++ showGroups (ss.drop (z.1 + z.2))).toList
      = (showGroups (ss.take z.1)).toList ++
        ':' :: ':' :: ((showGroups (ss.drop (z.1 + z.2))).toList ++ []) := by simp
  have hlen1 : (ss.take z.1).length = z.1 := by simp; omega
  have hread1 := readGroups_showGroups _ hhead
    (groupsEnd_colons ((showGroups (ss.drop (z.1 + z.2))).toList ++ [])) 8 (by omega)
  have hread2 := readGroups_showGroups _ htail groupsEnd_nil (8 - (z.1 + 1))
    (by simp; omega)
  have hzeros : 8 - z.1 - (ss.drop (z.1 + z.2)).length = z.2 := by simp; omega
  rw [hcut]
  simp only [readV6, hread1, hlen1, readChar, if_true, Option.bind_some, hread2, hzeros,
    hz.append_eq]
  rw [if_neg (by omega)]
  rfl

lemma readV6_full {ss : List ℕ} (hss : ∀ s ∈ ss, s < 65536) (hlen : ss.length = 8) :
    readV6 (showGroups ss).toList = some (ofSegments ss, []) := by
  have hread := readGroups_showGroups ss hss groupsEnd_nil 8 (by omega)
  rw [List.append_nil] at hread
  simp [readV6, hread, hlen]

lemma toList_mapped (a : BitVec 32) :
    ("::ffff:" ++ showV4 a).toList
      = ':' :: ':' :: (Nat.toDigits 16 0xffff ++ ':' :: ((showV4 a).toList ++ [])) := by
  have hffff : Nat.toDigits 16 0xffff = ['f', 'f', 'f', 'f'] := by decide
  simp [hffff]

lemma segments_eq_mapped {a : BitVec 128} (h : (segments a).take 6 = [0, 0, 0, 0, 0, 0xffff]) :
    [0, 0, 0, 0, 0, 0xffff, (a.setWidth 32).toNat / 65536, (a.setWidth 32).toNat % 65536]
      = segments a := by
  have hsplit : segments a = (segments a).take 6 ++ [segment a 1, segment a 0] := rfl
  have h1 : (a.setWidth 32).toNat / 65536 = segment a 1 := by
    simp only [BitVec.toNat_setWidth, segment]
    omega
  have h0 : (a.setWidth 32).toNat % 65536 = segment a 0 := by
    simp only [BitVec.toNat_setWidth, segment]
    omega
  rw [hsplit, h, h1, h0]
  rfl

lemma readV6_mapped {a : BitVec 128} (h : (segments a).take 6 = [0, 0, 0, 0, 0, 0xffff]) :
    readV6 ("::ffff:" ++ showV4 (a.setWidth 32)).toList = some (a, []) := by
  have hstart := readGroups_showGroups [] (by simp)
    (groupsEnd_colons (Nat.toDigits 16 0xffff ++ ':' :: ((showV4 (a.setWidth 32)).toList ++ [])))
    8 (by simp)
  rw [toList_showGroups_nil, List.nil_append] at hstart
  have hv4 : readV4 (Nat.toDigits 16 0xffff ++ ':' :: ((showV4 (a.setWidth 32)).toList ++ []))
      = none := readV4_eq_none _ (dot_not_mem_toDigits _) (by simp)
  have hgroup : readGroup (Nat.toDigits 16 0xffff ++ ':' :: ((showV4 (a.setWidth 32)).toList ++ []))
      = some (0xffff, ':' :: ((showV4 (a.setWidth 32)).toList ++ [])) := by
    refine readGroup_toDigits (by decide) fun c hc => ?_
    simp only [List.head?_cons, Option.mem_def, Option.some.injEq] at hc
    subst hc
    decide
  have hquad := readV4_showV4 (a.setWidth 32) [] (by simp)
  rw [toList_mapped]
  simp only [readV6, hstart, readChar, if_true, Option.bind_some, List.length_nil]
  simp [readGroups, readSep, hv4, hgroup, readChar, hquad, -List.append_nil]
  simpa using (congrArg ofSegments (segments_eq_mapped h)).trans (ofSegments_segments a)

lemma readV6_showV6 (a : BitVec 128) : readV6 (showV6 a).toList = some (a, []) := by
  simp only [showV6]
  split
  · next h => exact readV6_mapped h
  · split
    · next hlong =>
        rw [readV6_compressed (segments_lt a) (length_segments a) (zeroAt_zeroRun _) hlong,
          ofSegments_segments]
    · rw [readV6_full (segments_lt a) (length_segments a), ofSegments_segments]

/-- Groups of digits in front of a colon do not start a dotted quad. -/
lemma readV4_showGroups_eq_none (gs : List ℕ) {rest : List Char}
    (hrest : ∀ c ∈ rest.head?, c = ':') : readV4 ((showGroups gs).toList ++ rest) = none := by
  cases gs with
  | nil => exact readV4_eq_none [] (by simp) hrest
  | cons g gs =>
      rw [toList_showGroups_cons, List.append_assoc]
      refine readV4_eq_none _ (dot_not_mem_toDigits g) ?_
      cases gs with
      | nil => exact hrest
      | cons h gs => simp [groupTail]

lemma readV4_showV6 (a : BitVec 128) : readV4 (showV6 a).toList = none := by
  simp only [showV6]
  split
  · rw [toList_mapped]
    exact readV4_eq_none [] (by simp) (by simp)
  · split
    · rw [String.toList_append, String.toList_append, List.append_assoc]
      exact readV4_showGroups_eq_none _ (by simp)
    · rw [← List.append_nil (showGroups _).toList]
      exact readV4_showGroups_eq_none _ (by simp)

/-- A written address reads back as itself. -/
@[simp] theorem parseIp_showIp (a : IpAddr) : parseIp (showIp a) = some a := by
  cases a with
  | v4 a =>
      have h := readV4_showV4 a [] (by simp)
      rw [List.append_nil] at h
      simp [parseIp, readIp, showIp, h]
  | v6 a => simp [parseIp, readIp, showIp, readV4_showV6, readV6_showV6]

lemma showIp_injective : Function.Injective showIp := fun a b h => by
  simpa using congrArg parseIp h

/-! ### The characters of an address -/

/-- The characters addresses are written with. -/
def isIpChar (c : Char) : Bool := (digitVal 16 c).isSome || c == ':' || c == '.'

lemma isIpChar_toDigits {b : ℕ} (h1 : 1 < b) (hb : b ≤ 16) (n : ℕ) :
    ∀ c ∈ Nat.toDigits b n, isIpChar c = true :=
  forall_mem_toDigits h1 hb (by decide) n

lemma isIpChar_showV4 (a : BitVec 32) : ∀ c ∈ (showV4 a).toList, isIpChar c = true := by
  have hdigits := isIpChar_toDigits (b := 10) (by decide) (by decide)
  rw [toList_showV4]
  simp only [List.mem_append, List.mem_cons]
  rintro c (hc | rfl | hc | rfl | hc | rfl | hc)
  all_goals first | exact hdigits _ c hc | decide

lemma isIpChar_showGroups (gs : List ℕ) : ∀ c ∈ (showGroups gs).toList, isIpChar c = true := by
  have hdigits := isIpChar_toDigits (b := 16) (by decide) (by decide)
  cases gs with
  | nil => simp
  | cons g gs =>
      rw [toList_showGroups_cons]
      simp only [List.mem_append, groupTail, List.mem_flatMap, List.mem_cons]
      rintro c (hc | ⟨h, -, rfl | hc⟩)
      · exact hdigits g c hc
      · decide
      · exact hdigits h c hc

/-- An address is written with hexadecimal digits, colons and dots. -/
lemma isIpChar_showIp (a : IpAddr) : ∀ c ∈ (showIp a).toList, isIpChar c = true := by
  have hcolons : ∀ c ∈ "::".toList, isIpChar c = true := List.all_eq_true.1 (by decide)
  have hmapped : ∀ c ∈ "::ffff:".toList, isIpChar c = true := List.all_eq_true.1 (by decide)
  cases a with
  | v4 a => exact isIpChar_showV4 a
  | v6 a =>
      simp only [showIp, showV6]
      split
      · rw [String.toList_append]
        exact List.forall_mem_append.2 ⟨hmapped, isIpChar_showV4 _⟩
      · split
        · rw [String.toList_append, String.toList_append]
          exact List.forall_mem_append.2 ⟨List.forall_mem_append.2
            ⟨isIpChar_showGroups _, hcolons⟩, isIpChar_showGroups _⟩
        · exact isIpChar_showGroups _

lemma isIpChar_lt {c : Char} (h : isIpChar c = true) : c.toNat < 128 := by
  by_contra hbig
  have h0 : ¬ c ≤ '9' := fun hle => hbig (lt_of_le_of_lt (show c.toNat ≤ 57 from hle) (by decide))
  have h1 : ¬ c ≤ 'f' := fun hle => hbig (lt_of_le_of_lt (show c.toNat ≤ 102 from hle) (by decide))
  have h2 : ¬ c ≤ 'F' := fun hle => hbig (lt_of_le_of_lt (show c.toNat ≤ 70 from hle) (by decide))
  have h3 : c ≠ ':' := by rintro rfl; exact hbig (by decide)
  have h4 : c ≠ '.' := by rintro rfl; exact hbig (by decide)
  simp [isIpChar, digitVal, h0, h1, h2, h3, h4] at h

lemma isVisible_of_isIpChar {c : Char} (h : isIpChar c = true) :
    isVisible c = true ∧ c ≠ '/' ∧ c ≠ ',' ∧ c ≠ '#' := by
  have hall : ∀ n < 128, isIpChar (Char.ofNat n) = true → isVisible (Char.ofNat n) = true ∧
      Char.ofNat n ≠ '/' ∧ Char.ofNat n ≠ ',' ∧ Char.ofNat n ≠ '#' := by decide
  simpa using hall c.toNat (isIpChar_lt h) (by simpa using h)

lemma not_isWhitespace_of_isIpChar {c : Char} (h : isIpChar c = true) :
    isWhitespace c = false ∧ c ≠ '/' ∧ c ≠ ',' ∧ c ≠ '#' :=
  ⟨not_isWhitespace_of_isVisible (isVisible_of_isIpChar h).1, (isVisible_of_isIpChar h).2⟩

lemma showIp_ne_empty (a : IpAddr) : showIp a ≠ "" := by
  intro h
  have hround := parseIp_showIp a
  rw [h, show parseIp "" = none from by decide] at hround
  exact absurd hround (by simp)

lemma isWord_showIp (a : IpAddr) : IsWord (showIp a) :=
  ⟨by simpa [String.toList_eq_nil_iff] using showIp_ne_empty a,
    fun c hc => (not_isWhitespace_of_isIpChar (isIpChar_showIp a c hc)).1⟩

/-- A written block reads back as itself. -/
@[simp] theorem parseCidr_showCidr (c : Cidr) : parseCidr (showCidr c) = some c := by
  have hspan : (showCidr c).toList.span (· ≠ '/')
      = ((showIp c.addr).toList, '/' :: (Nat.repr c.len).toList) := by
    have hcut : (showCidr c).toList = (showIp c.addr).toList ++ '/' :: (Nat.repr c.len).toList := by
      simp [showCidr]
    have hslash : ∀ x ∈ (showIp c.addr).toList, decide (x ≠ '/') = true := fun x hx =>
      decide_eq_true (not_isWhitespace_of_isIpChar (isIpChar_showIp _ x hx)).2.1
    rw [hcut, List.span_eq_takeWhile_dropWhile, List.takeWhile_append_of_pos hslash,
      List.dropWhile_append_of_pos hslash]
    simp
  simp only [parseCidr, splitOnce, hspan, String.ofList_toList, Option.bind_some, parseIp_showIp,
    readDigits_repr, Option.map_some]

lemma isWord_showCidr (c : Cidr) : IsWord (showCidr c) := by
  have hcut : showCidr c = showIp c.addr ++ ("/" ++ Nat.repr c.len) := by
    simp [showCidr, ← String.toList_inj]
  rw [hcut]
  exact (isWord_showIp _).append (IsWord.append (by decide) (isWord_repr _))

end Net
