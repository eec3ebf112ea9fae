import Degc.Kernel.Netfilter
import Degc.Net.AddrText

/-!
# Reading scripts of packet filter rules

A script is read line by line, and a line word by word; a comment goes to the end
of its line.  `reads_unwords` reduces a line written from words to its words,
`readElems_show` is the round trip of the elements of a set.
-/

namespace Netfilter

open Net Text

/-! ### Elements and rules -/

/-- An element of a set: a network, or an address alone. -/
def readElem (s : String) : Option Cidr := (parseCidr s).or ((parseIp s).map .single)

/-- A text without the comma that ends it. -/
def stripComma (s : String) : Option String :=
  if s.toList.getLast? = some ',' then some (String.ofList s.toList.dropLast) else none

/-- The words of the elements of a set, up to the closing brace. -/
def readElems : List String → Option (List Cidr)
  | [] => none
  | e :: es =>
      if es = ["\x7d"] then (readElem e).map ([·])
      else do return (← readElem (← stripComma e)) :: (← readElems es)

/-- The name of a set behind an at sign. -/
def readSetName (s : String) : Option String := stripBeginning "@" s

/-- A text in quotes. -/
def readQuoted (s : String) : Option String :=
  match s.toList with
  | '"' :: cs => if cs.getLast? = some '"' then some (String.ofList cs.dropLast) else none
  | _ => none

/-- The words of a rule. -/
def readRule : List String → Option Rule
  | [] => some []
  | "ip" :: "saddr" :: s :: ws => do return .saddr .ip (← readSetName s) :: (← readRule ws)
  | "ip6" :: "saddr" :: s :: ws => do return .saddr .ip6 (← readSetName s) :: (← readRule ws)
  | "ip" :: "daddr" :: "!=" :: s :: ws =>
      do return .daddrNot .ip (← readSetName s) :: (← readRule ws)
  | "ip6" :: "daddr" :: "!=" :: s :: ws =>
      do return .daddrNot .ip6 (← readSetName s) :: (← readRule ws)
  | "meta" :: "mark" :: "set" :: v :: ws => do return .setMark (← readNumber v) :: (← readRule ws)
  | "meta" :: "mark" :: v :: ws => do return .mark (← readNumber v) :: (← readRule ws)
  | "oifname" :: "!=" :: i :: ws => do return .oifnameNot (← readQuoted i) :: (← readRule ws)
  | "oifname" :: i :: ws => do return .oifname (← readQuoted i) :: (← readRule ws)
  | "masquerade" :: ws => do return .masquerade :: (← readRule ws)
  | "drop" :: ws => do return .drop :: (← readRule ws)
  | _ => none

/-! ### Lines -/

/-- A priority, with the semicolon behind it. -/
def readPriority (s : String) : Option String :=
  if s.toList.getLast? = some ';' then some (String.ofList s.toList.dropLast) else none

/-- The words of a line. -/
def readWords : List String → Option Line
  | ["add", "table", f, n] => some (.addTable (unwords [f, n]))
  | ["delete", "table", f, n] => some (.deleteTable (unwords [f, n]))
  | ["table", f, n, "\x7b"] => some (.table (unwords [f, n]))
  | ["set", n, "\x7b"] => some (.set n)
  | ["type", t] => some (.type t)
  | ["flags", "interval"] => some .interval
  | "elements" :: "=" :: "\x7b" :: es => (readElems es).map .elements
  | ["chain", n, "\x7b"] => some (.chain n)
  | ["type", t, "hook", h, "priority", p, "policy", "accept;"] =>
      (readPriority p).map fun p => .base t h p
  | ["\x7d"] => some .close
  | ws => (readRule ws).map .rule

/-- A line without its comment. -/
def stripComment (s : String) : String := String.ofList (s.toList.takeWhile (· ≠ '#'))

/-- A line of a script. -/
def readLine (s : String) : Option Line := readWords (words (stripComment s))

/-- The lines of a script. -/
def readScript (text : String) : Option (List Line) := (lines text).mapM readLine

/-- Loading the text of a script. -/
def loadText (text : String) (rs : Ruleset) : Option Ruleset := (readScript text).bind (load · rs)

/-! ### Lines written from words -/

/-- A word that is not cut by a comment. -/
def IsToken (s : String) : Prop := IsWord s ∧ '#' ∉ s.toList

instance (s : String) : Decidable (IsToken s) := inferInstanceAs (Decidable (_ ∧ _))

/-- The characters tokens are written with here. -/
def isTokenChar (c : Char) : Bool := isVisible c && c != '#'

lemma isToken_of_forall {s : String} (hne : s.toList ≠ [])
    (h : ∀ c ∈ s.toList, isTokenChar c = true) : IsToken s := by
  simp only [isTokenChar, Bool.and_eq_true, bne_iff_ne] at h
  exact ⟨⟨hne, fun c hc => not_isWhitespace_of_isVisible (h c hc).1⟩, fun hc => (h _ hc).2 rfl⟩

lemma IsToken.append {s t : String} (hs : IsToken s) (ht : IsToken t) : IsToken (s ++ t) :=
  ⟨hs.1.append ht.1, by simp [hs.2, ht.2]⟩

lemma stripComment_append {s : String} (h : '#' ∉ s.toList) (t : String) :
    stripComment (s ++ t) = s ++ stripComment t := by
  rw [← String.toList_inj]
  simp only [stripComment, String.toList_append, String.toList_ofList]
  rw [List.takeWhile_append_of_pos]
  intro c hc
  exact decide_eq_true fun he => h (he ▸ hc)

lemma hash_not_mem_unwords {ws : List String} (h : ∀ w ∈ ws, '#' ∉ w.toList) :
    '#' ∉ (unwords ws).toList := fun hc =>
  forall_mem_unwords (P := (· ≠ '#')) (by decide) (fun w hw _ hc he => h w hw (he ▸ hc)) _ hc rfl

/-- A text is one line of a script, with the given meaning. -/
def Reads (s : String) (l : Line) : Prop := IsLine s ∧ readLine s = some l

/-- A script whose lines are read is read. -/
lemma readScript_unlines {ss : List String} {ls : List Line} (h : List.Forall₂ Reads ss ls) :
    readScript (unlines ss) = some ls := by
  have hlines : ∀ s ∈ ss, IsLine s := by
    induction h with
    | nil => simp
    | cons hr _ ih => exact List.forall_mem_cons.2 ⟨hr.1, ih⟩
  rw [readScript, lines_unlines hlines]
  clear hlines
  induction h with
  | nil => rfl
  | cons hr _ ih => simp [List.mapM_cons, hr.2, ih]

lemma not_newline_unwords {ws : List String} (h : ∀ w ∈ ws, IsToken w) :
    ∀ c ∈ (unwords ws).toList, c ≠ '\n' ∧ c ≠ '\r' :=
  forall_mem_unwords (by decide) fun w hw _ hc => not_isWhitespace_nl ((h w hw).1.2 _ hc)

/-- A line that is written from words, indented, and ends there or in a comment. -/
lemma reads_comment (n : ℕ) (ws : List String) (comment : String) (h : ∀ w ∈ ws, IsToken w)
    {s : String} {l : Line} (hs : s = String.ofList (List.replicate n ' ') ++ unwords ws ++ comment)
    (hstart : comment = "" ∨ ∃ t, comment = "   #" ++ t)
    (hline : ∀ c ∈ comment.toList, c ≠ '\n' ∧ c ≠ '\r') (hl : readWords ws = some l) :
    Reads s l := by
  have hblank : '#' ∉ (String.ofList (List.replicate n ' ')).toList := by simp
  have hhash := hash_not_mem_unwords fun w hw => (h w hw).2
  subst hs
  refine ⟨isLine_of_forall ?_, ?_⟩
  · intro c hc
    rw [String.toList_append, String.toList_append, List.mem_append, List.mem_append] at hc
    rcases hc with (hc | hc) | hc
    · rw [String.toList_ofList] at hc
      obtain rfl := List.eq_of_mem_replicate hc
      decide
    · exact not_newline_unwords h c hc
    · exact hline c hc
  · have hwords : words (unwords ws ++ stripComment comment) = ws := by
      rcases hstart with rfl | ⟨t, rfl⟩
      · have hempty : stripComment "" = "" := by decide
        rw [hempty, String.append_empty, words_unwords fun w hw => (h w hw).1]
      · have hcut : stripComment ("   #" ++ t) = " " ++ "  " := by
          simp [stripComment]
        have htwo : words "  " = [] := by decide
        rw [hcut, ← String.append_assoc, words_append_space, htwo, List.append_nil,
          words_unwords fun w hw => (h w hw).1]
    rw [readLine, String.append_assoc, stripComment_append hblank, stripComment_append hhash,
      words_blanks, hwords, hl]

/-- A line that is written from words, indented. -/
lemma reads_unwords (n : ℕ) (ws : List String) (h : ∀ w ∈ ws, IsToken w) {s : String} {l : Line}
    (hs : s = String.ofList (List.replicate n ' ') ++ unwords ws) (hl : readWords ws = some l) :
    Reads s l :=
  reads_comment n ws "" h (by simpa using hs) (Or.inl rfl) (by simp) hl

/-! ### Elements of a set -/

/-- Elements as words: each but the last with a comma behind it. -/
def commaWords : List String → List String
  | [] => []
  | [e] => [e]
  | e :: es => (e ++ ",") :: commaWords es

lemma intercalate_comma (es : List String) : ", ".intercalate es = unwords (commaWords es) := by
  induction es with
  | nil => rfl
  | cons e es ih =>
      cases es with
      | nil => simp [commaWords, unwords]
      | cons e' es =>
          obtain ⟨w, ws, hw⟩ : ∃ w ws, commaWords (e' :: es) = w :: ws := by
            cases es <;> exact ⟨_, _, rfl⟩
          have hcons : commaWords (e :: e' :: es) = (e ++ ",") :: w :: ws := by rw [← hw]; rfl
          rw [hcons, String.intercalate_cons_cons, ih, hw, unwords_cons_cons, ← String.toList_inj]
          simp

lemma commaWords_ne_nil (es : List String) (h : es ≠ []) : commaWords es ≠ [] := by
  rcases es with _ | ⟨e, _ | ⟨e', es⟩⟩ <;> simp_all [commaWords]

lemma isToken_commaWords (es : List String) (h : ∀ e ∈ es, IsToken e) :
    ∀ w ∈ commaWords es, IsToken w := by
  induction es with
  | nil => simp [commaWords]
  | cons e es ih =>
      have he := h e List.mem_cons_self
      have htail := ih fun v hv => h v (List.mem_cons_of_mem _ hv)
      cases es with
      | nil => simpa [commaWords] using he
      | cons e' es =>
          rw [commaWords]
          · refine List.forall_mem_cons.2 ⟨⟨he.1.append (by decide), ?_⟩, htail⟩
            simpa using he.2
          · simp

lemma stripComma_append (e : String) : stripComma (e ++ ",") = some e := by
  simp [stripComma]

lemma isToken_showIp (a : IpAddr) : IsToken (showIp a) :=
  ⟨isWord_showIp a, fun hc => (isVisible_of_isIpChar (isIpChar_showIp a _ hc)).2.2.2 rfl⟩

lemma isToken_repr (n : ℕ) : IsToken n.repr := by
  refine ⟨isWord_repr n, ?_⟩
  rw [Nat.toList_repr]
  exact fun hc =>
    forall_mem_toDigits (P := (· ≠ '#')) (by decide) (by decide) (by decide) n _ hc rfl

lemma isToken_hex (n : ℕ) : IsToken (hex n) := by
  refine ⟨isWord_hex n, ?_⟩
  rw [toList_hex]
  exact fun hc =>
    forall_mem_toDigits (P := (· ≠ '#')) (by decide) (by decide) (by decide) n _ hc rfl

lemma isToken_showCidr (c : Cidr) : IsToken (showCidr c) := by
  have hcut : showCidr c = showIp c.addr ++ ("/" ++ Nat.repr c.len) := by
    simp [showCidr, ← String.toList_inj]
  rw [hcut]
  exact (isToken_showIp _).append (IsToken.append (by decide) (isToken_repr _))

/-- Reading the elements that were shown. -/
lemma readElems_show {α : Type*} {text : α → String} {elem : α → Cidr}
    (hread : ∀ a, readElem (text a) = some (elem a)) {as : List α} (hne : as ≠ []) :
    readElems (commaWords (as.map text) ++ ["\x7d"]) = some (as.map elem) := by
  induction as with
  | nil => exact absurd rfl hne
  | cons a as ih =>
      cases as with
      | nil => simp [commaWords, readElems, hread]
      | cons a' as =>
          have hcomma : commaWords (text a :: (a' :: as).map text) ++ ["\x7d"] =
              (text a ++ ",") :: (commaWords ((a' :: as).map text) ++ ["\x7d"]) := by
            simp [commaWords]
          have hlast : commaWords ((a' :: as).map text) ++ ["\x7d"] ≠ ["\x7d"] := by
            cases as <;> simp [commaWords]
          rw [List.map_cons, hcomma, readElems, if_neg hlast, ih (by simp), stripComma_append]
          simp [hread]

lemma parseCidr_eq_none {s : String} (h : '/' ∉ s.toList) : parseCidr s = none := by
  have hspan : s.toList.span (· ≠ '/') = (s.toList, []) := by
    rw [List.span_eq_takeWhile_dropWhile, List.takeWhile_eq_self_iff.2, List.dropWhile_eq_nil_iff.2]
    · exact fun c hc => decide_eq_true fun he => h (he ▸ hc)
    · exact fun c hc => decide_eq_true fun he => h (he ▸ hc)
  simp only [parseCidr, splitOnce, hspan, Option.bind_none]

@[simp] lemma readElem_showIp (a : IpAddr) : readElem (showIp a) = some (.single a) := by
  have hslash : '/' ∉ (showIp a).toList := fun hc =>
    (not_isWhitespace_of_isIpChar (isIpChar_showIp a _ hc)).2.1 rfl
  simp [readElem, parseCidr_eq_none hslash]

@[simp] lemma readElem_showCidr (c : Cidr) : readElem (showCidr c) = some c := by
  simp [readElem]

/-! ### Rules -/

@[simp] lemma readSetName_at (n : String) : readSetName ("@" ++ n) = some n := by
  have hlen : "@".length = 1 := by decide
  simp [readSetName, stripBeginning, hlen]

@[simp] lemma readQuoted_quotes (i : String) : readQuoted ("\"" ++ i ++ "\"") = some i := by
  simp [readQuoted]

@[simp] lemma readRule_saddr (n : String) (ws : List String) :
    readRule ("ip" :: "saddr" :: ("@" ++ n) :: ws) = (readRule ws).map (.saddr .ip n :: ·) := by
  cases h : readRule ws <;> simp [readRule, h]

@[simp] lemma readRule_saddr6 (n : String) (ws : List String) :
    readRule ("ip6" :: "saddr" :: ("@" ++ n) :: ws) = (readRule ws).map (.saddr .ip6 n :: ·) := by
  cases h : readRule ws <;> simp [readRule, h]

@[simp] lemma readRule_daddrNot (n : String) (ws : List String) :
    readRule ("ip" :: "daddr" :: "!=" :: ("@" ++ n) :: ws) =
      (readRule ws).map (.daddrNot .ip n :: ·) := by
  cases h : readRule ws <;> simp [readRule, h]

@[simp] lemma readRule_daddrNot6 (n : String) (ws : List String) :
    readRule ("ip6" :: "daddr" :: "!=" :: ("@" ++ n) :: ws) =
      (readRule ws).map (.daddrNot .ip6 n :: ·) := by
  cases h : readRule ws <;> simp [readRule, h]

@[simp] lemma readRule_setMark (n : ℕ) (ws : List String) :
    readRule ("meta" :: "mark" :: "set" :: ("0x" ++ hex n) :: ws) =
      (readRule ws).map (.setMark n :: ·) := by
  cases h : readRule ws <;> simp [readRule, h]

@[simp] lemma readRule_mark (n : ℕ) (ws : List String) :
    readRule ("meta" :: "mark" :: ("0x" ++ hex n) :: ws) = (readRule ws).map (.mark n :: ·) := by
  have hset : "0x" ++ hex n ≠ "set" := by simp [← String.toList_inj]
  cases h : readRule ws <;> simp [readRule, hset, h]

@[simp] lemma readRule_oifnameNot (i : String) (ws : List String) :
    readRule ("oifname" :: "!=" :: ("\"" ++ i ++ "\"") :: ws) =
      (readRule ws).map (.oifnameNot i :: ·) := by
  cases h : readRule ws <;> simp [readRule, h]

@[simp] lemma readRule_oifname (i : String) (ws : List String) :
    readRule ("oifname" :: ("\"" ++ i ++ "\"") :: ws) = (readRule ws).map (.oifname i :: ·) := by
  have hnot : "\"" ++ i ++ "\"" ≠ "!=" := by simp [← String.toList_inj]
  cases h : readRule ws <;> simp [readRule, hnot, h]

lemma readWords_ip (ws : List String) :
    readWords ("ip" :: ws) = (readRule ("ip" :: ws)).map .rule := rfl

lemma readWords_ip6 (ws : List String) :
    readWords ("ip6" :: ws) = (readRule ("ip6" :: ws)).map .rule := rfl

lemma readWords_meta (ws : List String) :
    readWords ("meta" :: ws) = (readRule ("meta" :: ws)).map .rule := rfl

end Netfilter
