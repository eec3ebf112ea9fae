import Degc.Text.Numeral

/-!
# The debug form of a string

A string between quotation marks with its control characters, quotation marks
and backslashes escaped.  Which further characters are escaped by their code
point is a table of the Unicode version in use, here a parameter.  Whatever the
table, the debug form of a string stays on one line (`isLine_debug`).
-/

namespace Text

/-- A character of a string in its debug form. -/
def escapeChar (escaped : Char → Bool) (c : Char) : String :=
  if c = Char.ofNat 0 then "\\0"
  else if c = '\t' then "\\t"
  else if c = '\r' then "\\r"
  else if c = '\n' then "\\n"
  else if c = '"' then "\\\""
  else if c = '\\' then "\\\\"
  else if escaped c then "\\u\x7b" ++ hex c.toNat ++ "\x7d"
  else String.singleton c

/-- The debug form of a string. -/
def debug (escaped : Char → Bool) (s : String) : String :=
  "\"" ++ String.join (s.toList.map (escapeChar escaped)) ++ "\""

/-- Neither a line feed nor a carriage return. -/
def isLineChar (c : Char) : Bool := c != '\n' && c != '\r'

lemma isLine_of_isLineChar {s : String} (h : ∀ c ∈ s.toList, isLineChar c = true) : IsLine s :=
  isLine_of_forall fun c hc => by simpa [isLineChar] using h c hc

lemma isLineChar_escapeChar (escaped : Char → Bool) (c : Char) :
    ∀ d ∈ (escapeChar escaped c).toList, isLineChar d = true := by
  simp only [escapeChar]
  split_ifs with h0 ht hr hn hq hb he
  · exact List.all_eq_true.1 (by decide)
  · exact List.all_eq_true.1 (by decide)
  · exact List.all_eq_true.1 (by decide)
  · exact List.all_eq_true.1 (by decide)
  · exact List.all_eq_true.1 (by decide)
  · exact List.all_eq_true.1 (by decide)
  · have hopen : ∀ d ∈ "\\u\x7b".toList, isLineChar d = true := List.all_eq_true.1 (by decide)
    have hclose : ∀ d ∈ "\x7d".toList, isLineChar d = true := List.all_eq_true.1 (by decide)
    have hdigits : ∀ d ∈ (hex c.toNat).toList, isLineChar d = true := by
      rw [toList_hex]
      exact forall_mem_toDigits (by decide) (by decide) (by decide) _
    rw [String.toList_append, String.toList_append]
    exact List.forall_mem_append.2 ⟨List.forall_mem_append.2 ⟨hopen, hdigits⟩, hclose⟩
  · simp [isLineChar, hn, hr]

lemma isLineChar_debug (escaped : Char → Bool) (s : String) :
    ∀ c ∈ (debug escaped s).toList, isLineChar c = true := by
  have hquote : ∀ c ∈ "\"".toList, isLineChar c = true := List.all_eq_true.1 (by decide)
  have hbody : ∀ c ∈ (String.join (s.toList.map (escapeChar escaped))).toList,
      isLineChar c = true := by
    intro c hc
    rw [String.toList_join, List.mem_flatMap] at hc
    obtain ⟨t, ht, hc⟩ := hc
    obtain ⟨d, -, rfl⟩ := List.mem_map.1 ht
    exact isLineChar_escapeChar escaped d c hc
  rw [debug, String.toList_append, String.toList_append]
  exact List.forall_mem_append.2 ⟨List.forall_mem_append.2 ⟨hquote, hbody⟩, hquote⟩

/-- The debug form of a string is one line, whatever the string. -/
theorem isLine_debug (escaped : Char → Bool) (s : String) : IsLine (debug escaped s) :=
  isLine_of_isLineChar (isLineChar_debug escaped s)

end Text
