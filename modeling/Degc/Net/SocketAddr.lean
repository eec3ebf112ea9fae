import Degc.Net.AddrText

/-!
# Socket addresses

An address with a port as text: `192.0.2.1:9100`, `[fd00::1]:9100` or, with the number of
a scope, `[fe80::1%2]:9100`.

The reader is made of the readers of the addresses.  Each of them reads a text in front
of a character that cannot continue it just as it reads the text alone (`readV4_append`,
`readV6_append`), so that a socket address can be described piece by piece, by its own
texts (`DenotesSocketAddr`).  The main result is `parseSocketAddr_eq_some`.
-/

namespace Net

open Text

/-- An address with a port.  The flow information is zero in every address that is read. -/
inductive SocketAddr
  | v4 (ip : BitVec 32) (port : UInt16)
  | v6 (ip : BitVec 128) (port : UInt16) (scopeId : UInt32)
  deriving DecidableEq, Repr

/-- Reading a numeral of any length whose value is below `m`. -/
def readNumberBelow (m : ℕ) (cs : List Char) : Option (ℕ × List Char) :=
  readNum 10 cs.length true m cs

/-- Reading a colon and a port. -/
def readPort (cs : List Char) : Option (UInt16 × List Char) :=
  (readChar ':' cs).bind fun cs =>
  (readNumberBelow (2 ^ 16) cs).map fun (n, cs) => (UInt16.ofNat n, cs)

/-- Reading a percent sign and the number of a scope. -/
def readScopeId (cs : List Char) : Option (UInt32 × List Char) :=
  (readChar '%' cs).bind fun cs =>
  (readNumberBelow (2 ^ 32) cs).map fun (n, cs) => (UInt32.ofNat n, cs)

/-- Reading an IPv4 address with a port. -/
def readSocketAddrV4 (cs : List Char) : Option (SocketAddr × List Char) :=
  (readV4 cs).bind fun (ip, cs) => (readPort cs).map fun (port, cs) => (.v4 ip port, cs)

/-- Reading an IPv6 address in brackets, perhaps with a scope, and a port. -/
def readSocketAddrV6 (cs : List Char) : Option (SocketAddr × List Char) :=
  (readChar '[' cs).bind fun cs => (readV6 cs).bind fun (ip, cs) =>
  let (scopeId, cs) := (readScopeId cs).getD (0, cs)
  (readChar ']' cs).bind fun cs => (readPort cs).map fun (port, cs) => (.v6 ip port scopeId, cs)

/-- The socket address a text is, if it is one. -/
def parseSocketAddr (s : String) : Option SocketAddr :=
  match (readSocketAddrV4 s.toList).or (readSocketAddrV6 s.toList) with
  | some (a, []) => some a
  | _ => none

/-- The scopes of an address as text; nothing stands for the scope zero. -/
def DenotesScope (z : String) (scopeId : UInt32) : Prop :=
  z = "" ∧ scopeId = 0 ∨ ∃ n, z = "%" ++ n ∧ readDigits 10 n = some scopeId.toNat

/-- The texts of a socket address. -/
def DenotesSocketAddr (s : String) : SocketAddr → Prop
  | .v4 ip port => ∃ t p, s = t ++ ":" ++ p ∧ parseIp t = some (.v4 ip) ∧
      readDigits 10 p = some port.toNat
  | .v6 ip port scopeId => ∃ t z p, s = "[" ++ t ++ z ++ "]:" ++ p ∧ parseIp t = some (.v6 ip) ∧
      DenotesScope z scopeId ∧ readDigits 10 p = some port.toNat

/-! ### Numerals of any length -/

lemma readChar_eq_some {c : Char} {cs rest : List Char} :
    readChar c cs = some rest ↔ cs = c :: rest := by
  cases cs with
  | nil => simp [readChar]
  | cons x xs => simp [readChar]

lemma digits_of_readDigitsFrom {b acc n : ℕ} {ds : List Char}
    (h : readDigitsFrom b acc ds = some n) : ∀ c ∈ ds, (digitVal b c).isSome = true := by
  induction ds generalizing acc with
  | nil => simp
  | cons d ds ih =>
      obtain ⟨v, hv, hrest⟩ := Option.bind_eq_some_iff.1 h
      intro c hc
      rcases List.mem_cons.1 hc with rfl | hc
      · simp [hv]
      · exact ih hrest c hc

/-- Exactly the digits up to the first character that is none are read. -/
lemma readNumberBelow_eq_some {m n : ℕ} {cs rest : List Char} :
    readNumberBelow m cs = some (n, rest) ↔ ∃ ds, cs = ds ++ rest ∧ ds ≠ [] ∧
      readDigitsFrom 10 0 ds = some n ∧ n < m ∧
        ∀ c ∈ rest.head?, (digitVal 10 c).isSome = false := by
  constructor
  · intro h
    have hrest := rest_of_readNum h
    simp only [readNumberBelow, readNum] at h
    split at h
    · exact absurd h (by simp)
    · next hne =>
        obtain ⟨v, hv, hlt⟩ := Option.bind_eq_some_iff.1 h
        split at hlt
        · next hvm =>
            cases hlt
            refine ⟨_, List.takeWhile_append_dropWhile.symm, fun hnil => hne (Or.inl hnil), hv,
              hvm, ?_⟩
            intro c hc
            have hhead := List.head?_dropWhile_not (fun c => (digitVal 10 c).isSome) cs
            rw [Option.mem_def.1 hc] at hhead
            simpa using hhead
        · exact absurd hlt (by simp)
  · rintro ⟨ds, rfl, hne, hv, hlt, hrest⟩
    have hdigits := digits_of_readDigitsFrom hv
    have htake : (ds ++ rest).takeWhile (fun c => (digitVal 10 c).isSome) = ds := by
      rw [List.takeWhile_append_of_pos hdigits, takeWhile_eq_nil hrest, List.append_nil]
    have hdrop : (ds ++ rest).dropWhile (fun c => (digitVal 10 c).isSome) = rest := by
      rw [List.dropWhile_append_of_pos hdigits, dropWhile_eq_self hrest]
    simp only [readNumberBelow, readNum, htake, hdrop]
    rw [if_neg (by simp [hne]), hv]
    simp [hlt]

lemma readDigits_eq_some {b n : ℕ} {s : String} :
    readDigits b s = some n ↔ s.toList ≠ [] ∧ readDigitsFrom b 0 s.toList = some n := by
  simp [readDigits, String.toList_eq_nil_iff]

/-- A port at the end of the text. -/
lemma readPort_eq_some {cs : List Char} {port : UInt16} : readPort cs = some (port, []) ↔
    ∃ p : String, cs = ':' :: p.toList ∧ readDigits 10 p = some port.toNat := by
  simp only [readPort, Option.bind_eq_some_iff, readChar_eq_some, Option.map_eq_some_iff,
    Prod.exists, readNumberBelow_eq_some, readDigits_eq_some, Prod.mk.injEq]
  constructor
  · rintro ⟨-, rfl, n, -, ⟨ds, rfl, hne, hv, hlt, -⟩, rfl, rfl⟩
    refine ⟨String.ofList ds, by simp, by simpa using hne, ?_⟩
    rw [String.toList_ofList, UInt16.toNat_ofNat', Nat.mod_eq_of_lt hlt]
    exact hv
  · rintro ⟨p, rfl, hne, hv⟩
    refine ⟨_, rfl, port.toNat, [], ⟨p.toList, ?_⟩, ?_⟩
    · exact ⟨(List.append_nil _).symm, hne, hv, port.toNat_lt, by simp⟩
    · exact ⟨UInt16.ofNat_toNat, rfl⟩

/-- A scope in front of the closing bracket. -/
lemma readScopeId_eq_some {cs rest : List Char} {scopeId : UInt32} :
    readScopeId cs = some (scopeId, ']' :: rest) ↔ ∃ n : String,
      cs = '%' :: (n.toList ++ ']' :: rest) ∧ readDigits 10 n = some scopeId.toNat := by
  simp only [readScopeId, Option.bind_eq_some_iff, readChar_eq_some, Option.map_eq_some_iff,
    Prod.exists, readNumberBelow_eq_some, readDigits_eq_some, Prod.mk.injEq]
  constructor
  · rintro ⟨-, rfl, n, -, ⟨ds, rfl, hne, hv, hlt, -⟩, rfl, rfl⟩
    refine ⟨String.ofList ds, by simp, by simpa using hne, ?_⟩
    rw [String.toList_ofList, UInt32.toNat_ofNat', Nat.mod_eq_of_lt hlt]
    exact hv
  · rintro ⟨n, rfl, hne, hv⟩
    refine ⟨_, rfl, scopeId.toNat, ']' :: rest, ⟨n.toList, ?_⟩, ?_⟩
    · refine ⟨rfl, hne, hv, scopeId.toNat_lt, ?_⟩
      rintro c ⟨⟩
      decide
    · exact ⟨UInt32.ofNat_toNat, rfl⟩

/-! ### Readers in front of further text -/

section Append

variable {c : Char} (rest : List Char)

lemma readChar_append {d : Char} (hc : c ≠ d) (ts : List Char) :
    readChar d (ts ++ c :: rest) = (readChar d ts).map (· ++ c :: rest) := by
  cases ts with
  | nil => simp [readChar, hc]
  | cons t ts => by_cases ht : t = d <;> simp [readChar, ht]

lemma readNum_append {b k m : ℕ} {zeros : Bool} (hc : digitVal b c = none) (ts : List Char) :
    readNum b k zeros m (ts ++ c :: rest) =
      (readNum b k zeros m ts).map fun (n, r) => (n, r ++ c :: rest) := by
  have hsplit : (ts ++ c :: rest).takeWhile (fun c => (digitVal b c).isSome)
        = ts.takeWhile (fun c => (digitVal b c).isSome) ∧
      (ts ++ c :: rest).dropWhile (fun c => (digitVal b c).isSome)
        = ts.dropWhile (fun c => (digitVal b c).isSome) ++ c :: rest := by
    induction ts with
    | nil => simp [hc]
    | cons t ts ih => by_cases ht : (digitVal b t).isSome = true <;> simp [ht, ih.1, ih.2]
  simp only [readNum, hsplit.1, hsplit.2]
  split
  · rfl
  · cases readDigitsFrom b 0 _ with
    | none => rfl
    | some n => by_cases hn : n < m <;> simp [hn]

/-- A dotted quad in front of a character that is neither a digit nor a dot. -/
lemma readV4_append (hdigit : digitVal 10 c = none) (hdot : c ≠ '.') (ts : List Char) :
    readV4 (ts ++ c :: rest) = (readV4 ts).map fun (a, r) => (a, r ++ c :: rest) := by
  have hoctet : ∀ ts, readOctet (ts ++ c :: rest) =
      (readOctet ts).map fun (n, r) => (n, r ++ c :: rest) := readNum_append rest hdigit
  have hchar := readChar_append rest hdot
  simp only [readV4, hoctet, hchar, Option.bind_map, Option.map_bind, Function.comp_def,
    Option.map_some]

lemma readSep_append (hc : c ≠ ':') {α : Type*} {p : List Char → Option (α × List Char)}
    (hp : ∀ ts, p (ts ++ c :: rest) = (p ts).map fun (a, r) => (a, r ++ c :: rest))
    (first : Bool) (ts : List Char) : readSep first p (ts ++ c :: rest) =
      (readSep first p ts).map fun (a, r) => (a, r ++ c :: rest) := by
  cases first with
  | true => exact hp ts
  | false =>
      rw [readSep, readSep, if_neg Bool.false_ne_true, if_neg Bool.false_ne_true,
        readChar_append rest hc, Option.bind_map, Option.map_bind]
      exact congrArg _ (funext hp)

/-- A character that neither continues an address nor a group of one. -/
def Stops (c : Char) : Prop := digitVal 16 c = none ∧ c ≠ '.' ∧ c ≠ ':'

lemma readGroups_append (hc : Stops c) (left : ℕ) (first : Bool) (ts : List Char) :
    readGroups left first (ts ++ c :: rest) =
      let (gs, quad, r) := readGroups left first ts
      (gs, quad, r ++ c :: rest) := by
  have hquad := readSep_append rest hc.2.2
    (readV4_append rest (digitVal_eq_none_of_le (by decide) hc.1) hc.2.1)
  have hgroup := readSep_append rest hc.2.2 (@readNum_append c rest 16 4 65536 true hc.1)
  induction left generalizing first ts with
  | zero => rfl
  | succ left ih =>
      have hif : (if 1 ≤ left then readSep first readV4 (ts ++ c :: rest) else none) =
          (if 1 ≤ left then readSep first readV4 ts else none).map
            fun (a, r) => (a, r ++ c :: rest) := by
        rw [hquad first ts]
        split_ifs <;> rfl
      rw [readGroups, readGroups, hif]
      cases (if 1 ≤ left then readSep first readV4 ts else none) with
      | some a => rfl
      | none =>
          have hread : readSep first readGroup (ts ++ c :: rest) =
            (readSep first readGroup ts).map fun (n, r) => (n, r ++ c :: rest) := hgroup first ts
          rw [hread]
          cases readSep first readGroup ts with
          | none => rfl
          | some g => simp [ih]

/-- An IPv6 address in front of a character that does not continue it. -/
lemma readV6_append (hc : Stops c) (ts : List Char) :
    readV6 (ts ++ c :: rest) = (readV6 ts).map fun (a, r) => (a, r ++ c :: rest) := by
  have hchar := readChar_append rest hc.2.2
  rw [readV6, readV6, readGroups_append rest hc]
  simp only
  split_ifs with hfull hquad
  · rfl
  · rfl
  · simp only [hchar, Option.bind_map, Option.map_bind, Function.comp_def,
      readGroups_append rest hc, Option.map_some]

end Append

/-! ### What the readers leave -/

lemma readNum_suffix {b k m n : ℕ} {zeros : Bool} {cs r : List Char}
    (h : readNum b k zeros m cs = some (n, r)) : r <:+ cs := by
  rw [rest_of_readNum h]
  exact List.dropWhile_suffix _

lemma readV4_suffix {cs r : List Char} {a : BitVec 32} (h : readV4 cs = some (a, r)) :
    r <:+ cs := by
  simp only [readV4, Option.bind_eq_some_iff, readChar_eq_some, Prod.exists, Option.some.injEq,
    Prod.mk.injEq] at h
  obtain ⟨w, _, hw, _, rfl, x, _, hx, _, rfl, y, _, hy, _, rfl, z, _, hz, -, rfl⟩ := h
  have hcons := List.suffix_cons (α := Char) '.'
  have hzy := (readNum_suffix hz).trans (hcons _)
  have hyx := (hzy.trans (readNum_suffix hy)).trans (hcons _)
  have hxw := (hyx.trans (readNum_suffix hx)).trans (hcons _)
  exact hxw.trans (readNum_suffix hw)

lemma readSep_suffix {α : Type*} {p : List Char → Option (α × List Char)}
    (hp : ∀ cs a r, p cs = some (a, r) → r <:+ cs) {first : Bool} {cs r : List Char} {a : α}
    (h : readSep first p cs = some (a, r)) : r <:+ cs := by
  cases first with
  | true => exact hp _ _ _ h
  | false =>
      obtain ⟨t, ht, hread⟩ := Option.bind_eq_some_iff.1 h
      rw [readChar_eq_some.1 ht]
      exact (hp _ _ _ hread).trans (List.suffix_cons _ _)

lemma readGroups_suffix (left : ℕ) (first : Bool) (cs : List Char) :
    (readGroups left first cs).2.2 <:+ cs := by
  induction left generalizing first cs with
  | zero => exact List.suffix_rfl
  | succ left ih =>
      rw [readGroups]
      split
      · next a r h =>
          obtain ⟨-, hread⟩ := Option.ite_none_right_eq_some.1 h
          exact readSep_suffix (fun _ _ _ => readV4_suffix) hread
      · split
        · exact List.suffix_rfl
        · next g r h => exact (ih false r).trans (readSep_suffix (fun _ _ _ => readNum_suffix) h)

lemma readV6_suffix {cs r : List Char} {a : BitVec 128} (h : readV6 cs = some (a, r)) :
    r <:+ cs := by
  have hhead := readGroups_suffix 8 true cs
  simp only [readV6] at h
  split_ifs at h with hfull hquad
  · cases h
    exact hhead
  · simp only [Option.bind_eq_some_iff, readChar_eq_some, Option.some.injEq, Prod.mk.injEq] at h
    obtain ⟨t, ht, u, rfl, -, rfl⟩ := h
    rw [ht] at hhead
    have htail := readGroups_suffix (8 - ((readGroups 8 true cs).1.length + 1)) true u
    exact ((htail.trans (List.suffix_cons _ _)).trans (List.suffix_cons _ _)).trans hhead

/-! ### The socket address of a text -/

lemma parseIp_eq_v4 {t : String} {ip : BitVec 32} :
    parseIp t = some (.v4 ip) ↔ readV4 t.toList = some (ip, []) := by
  rw [parseIp, readIp]
  rcases readV4 t.toList with _ | ⟨a, _ | ⟨c, r⟩⟩
  · rcases readV6 t.toList with _ | ⟨a, _ | ⟨c, r⟩⟩ <;> simp
  · simp
  · simp

/-- Where a dotted quad is read, no IPv6 address is. -/
lemma readV6_eq_none_of_readV4 {cs r : List Char} {a : BitVec 32} (h : readV4 cs = some (a, r)) :
    readV6 cs = none := by
  simp [readV6, readGroups, readSep, h]

lemma parseIp_eq_v6 {t : String} {ip : BitVec 128} :
    parseIp t = some (.v6 ip) ↔ readV6 t.toList = some (ip, []) := by
  rw [parseIp, readIp]
  cases h : readV4 t.toList with
  | none => rcases readV6 t.toList with _ | ⟨a, _ | ⟨c, r⟩⟩ <;> simp
  | some p =>
      obtain ⟨a, r⟩ := p
      rw [readV6_eq_none_of_readV4 h]
      cases r <;> simp

lemma stops_of_eq {c : Char} (hc : c = '%' ∨ c = ']') : Stops c := by
  rcases hc with rfl | rfl <;> exact ⟨by decide, by decide, by decide⟩

lemma readSocketAddrV4_eq_some {s : String} {a : SocketAddr} :
    readSocketAddrV4 s.toList = some (a, []) ↔
      ∃ ip port, a = .v4 ip port ∧ DenotesSocketAddr s a := by
  constructor
  · simp only [readSocketAddrV4, Option.bind_eq_some_iff, Option.map_eq_some_iff, Prod.exists,
      Prod.mk.injEq]
    rintro ⟨ip, cs, hip, port, -, hport, rfl, rfl⟩
    obtain ⟨p, rfl, hp⟩ := readPort_eq_some.1 hport
    obtain ⟨ts, hts⟩ := readV4_suffix hip
    refine ⟨ip, port, rfl, String.ofList ts, p, by simp [← String.toList_inj, ← hts], ?_, hp⟩
    rw [← hts, readV4_append _ (by decide) (by decide)] at hip
    obtain ⟨⟨a, r⟩, hread, heq⟩ := Option.map_eq_some_iff.1 hip
    simp only [Prod.mk.injEq, List.append_left_eq_self] at heq
    rw [parseIp_eq_v4, String.toList_ofList, hread, heq.1, heq.2]
  · rintro ⟨ip, port, rfl, t, p, rfl, hip, hp⟩
    have hport := readPort_eq_some.2 ⟨p, rfl, hp⟩
    have hcut : (t ++ ":" ++ p).toList = t.toList ++ ':' :: p.toList := by simp
    have hread := readV4_append p.toList (c := ':') (by decide) (by decide) t.toList
    rw [parseIp_eq_v4.1 hip, Option.map_some] at hread
    simp [readSocketAddrV4, hcut, hread, hport]

/-- An IPv6 address in front of a scope or of the closing bracket. -/
lemma readV6_eq_some {cs rest : List Char} {c : Char} (hc : Stops c) {ip : BitVec 128} :
    readV6 cs = some (ip, c :: rest) ↔
      ∃ t : String, cs = t.toList ++ c :: rest ∧ readV6 t.toList = some (ip, []) := by
  constructor
  · intro h
    obtain ⟨ts, rfl⟩ := readV6_suffix h
    rw [readV6_append _ hc] at h
    obtain ⟨⟨a, r⟩, hread, heq⟩ := Option.map_eq_some_iff.1 h
    simp only [Prod.mk.injEq, List.append_left_eq_self] at heq
    refine ⟨String.ofList ts, by rw [String.toList_ofList], ?_⟩
    rw [String.toList_ofList, hread, heq.1, heq.2]
  · rintro ⟨t, rfl, h⟩
    rw [readV6_append _ hc, h]
    rfl

lemma readSocketAddrV6_eq_some {s : String} {a : SocketAddr} :
    readSocketAddrV6 s.toList = some (a, []) ↔
      ∃ ip port scopeId, a = .v6 ip port scopeId ∧ DenotesSocketAddr s a := by
  have hpercent := stops_of_eq (Or.inl rfl)
  have hbracket := stops_of_eq (Or.inr rfl)
  constructor
  · simp only [readSocketAddrV6, Option.bind_eq_some_iff, Option.map_eq_some_iff, Prod.exists,
      Prod.mk.injEq, readChar_eq_some]
    rintro ⟨cs, hs, ip, ds, hip, es, hes, port, -, hport, rfl, rfl⟩
    obtain ⟨p, rfl, hp⟩ := readPort_eq_some.1 hport
    refine ⟨ip, port, _, rfl, ?_⟩
    cases hscope : readScopeId ds with
    | none =>
        rw [hscope, Option.getD_none] at hes
        obtain rfl := hes
        obtain ⟨t, rfl, ht⟩ := (readV6_eq_some hbracket).1 hip
        exact ⟨t, "", p, by simp [← String.toList_inj, hs], parseIp_eq_v6.2 ht,
          Or.inl ⟨rfl, rfl⟩, hp⟩
    | some z =>
        obtain ⟨scopeId, r⟩ := z
        rw [hscope, Option.getD_some] at hes
        obtain rfl := hes
        obtain ⟨n, rfl, hn⟩ := readScopeId_eq_some.1 hscope
        obtain ⟨t, rfl, ht⟩ := (readV6_eq_some hpercent).1 hip
        exact ⟨t, "%" ++ n, p, by simp [← String.toList_inj, hs], parseIp_eq_v6.2 ht,
          Or.inr ⟨n, rfl, hn⟩, hp⟩
  · rintro ⟨ip, port, scopeId, rfl, t, z, p, rfl, hip, hz, hp⟩
    have hport := readPort_eq_some.2 ⟨p, rfl, hp⟩
    have hip := parseIp_eq_v6.1 hip
    have hcut : ("[" ++ t ++ z ++ "]:" ++ p).toList
        = '[' :: (t.toList ++ (z.toList ++ ']' :: ':' :: p.toList)) := by simp
    rw [hcut]
    rcases hz with ⟨rfl, rfl⟩ | ⟨n, rfl, hn⟩
    · have hread : readV6 (t.toList ++ ']' :: ':' :: p.toList) =
          some (ip, ']' :: ':' :: p.toList) :=
        (readV6_eq_some hbracket).2 ⟨t, rfl, hip⟩
      have hscope : readScopeId (']' :: ':' :: p.toList) = none := rfl
      simp [readSocketAddrV6, readChar, hread, hscope, hport]
    · have hscope : readScopeId ('%' :: (n.toList ++ ']' :: ':' :: p.toList))
          = some (scopeId, ']' :: ':' :: p.toList) := readScopeId_eq_some.2 ⟨n, rfl, hn⟩
      have hread : readV6 (t.toList ++ '%' :: (n.toList ++ ']' :: ':' :: p.toList)) =
          some (ip, '%' :: (n.toList ++ ']' :: ':' :: p.toList)) :=
        (readV6_eq_some hpercent).2 ⟨t, rfl, hip⟩
      simp [readSocketAddrV6, readChar, hread, hscope, hport]

/-- No text is read both as an IPv4 address and as an address in brackets. -/
lemma readSocketAddrV6_eq_none {cs r : List Char} {a : SocketAddr}
    (h : readSocketAddrV4 cs = some (a, r)) : readSocketAddrV6 cs = none := by
  cases cs with
  | nil => rfl
  | cons c cs =>
      have hc : c ≠ '[' := by
        rintro rfl
        cases h
      simp [readSocketAddrV6, readChar, hc]

/-- A text is read as a socket address exactly when it is one of the texts of the address. -/
theorem parseSocketAddr_eq_some {s : String} {a : SocketAddr} :
    parseSocketAddr s = some a ↔ DenotesSocketAddr s a := by
  have heither : parseSocketAddr s = some a ↔
      readSocketAddrV4 s.toList = some (a, []) ∨ readSocketAddrV6 s.toList = some (a, []) := by
    rw [parseSocketAddr]
    cases h4 : readSocketAddrV4 s.toList with
    | none => rcases readSocketAddrV6 s.toList with _ | ⟨b, _ | ⟨c, r⟩⟩ <;> simp
    | some p =>
        obtain ⟨b, r⟩ := p
        rw [readSocketAddrV6_eq_none h4]
        cases r <;> simp
  rw [heither, readSocketAddrV4_eq_some, readSocketAddrV6_eq_some]
  cases a <;> simp

example : parseSocketAddr "0.0.0.0:9100" = some (.v4 0 9100) := by decide
example : parseSocketAddr "[fe80::1%2]:80" =
    some (.v6 0xfe800000000000000000000000000001 80 2) := by decide

end Net
