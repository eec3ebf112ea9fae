import Degc.Enforce.SetNames

/-!
# The templates of the script

A line of the script is fixed text with fields in it: set identifiers, addresses and
networks, names of interfaces and marks, and one comment.  A field is of a type that
leaves no room for anything that ends a word, a rule or a line.

The main result is `templated_compile`: the script of a plan consists of such lines,
and their kinds follow from the shapes of the gateways alone, whatever the names and
labels are.
-/

namespace Degc.Nft

open Net Text Netfilter

/-! ### Fields -/

/-- A set identifier. -/
def Ident : Type := { s : String // s ≠ "" ∧ ∀ c ∈ s.toList, (c.isAlphanum || c == '_') = true }

/-- The name of an interface. -/
def Ifname : Type := { s : String // validIfname s = true }

/-- A comment that stays on its line. -/
def Comment : Type := { s : String // ∀ c ∈ s.toList, isLineChar c = true }

/-- A piece of a line: fixed text, a field, or a comment. -/
inductive Piece
  | text (s : String)
  | ident (i : Ident)
  | addr (a : IpAddr)
  | net (n : IpNetwork)
  | ifname (i : Ifname)
  | mark (m : UInt32)
  | comment (c : Comment)

/-- The text of a piece. -/
def Piece.toText : Piece → String
  | .text s => s
  | .ident i => i.val
  | .addr a => showIp a
  | .net n => n.toText
  | .ifname i => i.val
  | .mark m => "0x" ++ hex m.toNat
  | .comment c => c.val

/-- Whether a piece is a field. -/
def Piece.isField : Piece → Bool
  | .text _ | .comment _ => false
  | _ => true

/-- The characters of fields. -/
def isFieldChar (c : Char) : Bool :=
  c.isAlphanum || c == '_' || c == '.' || c == '-' || c == ':' || c == '/'

/-- What a field holds is no blank, no quotation mark, no brace, no semicolon and no hash. -/
lemma isFieldChar_cases {c : Char} (h : isFieldChar c = true) :
    isVisible c = true ∧ c ∉ ['"', '#', ',', ';', '@', '\\', '\x7b', '\x7d'] := by
  simp only [isFieldChar, Bool.or_eq_true, beq_iff_eq] at h
  rcases h with ((((h | rfl) | rfl) | rfl) | rfl) | rfl
  · refine ⟨isVisible_of_isAlphanum h, fun hc => ?_⟩
    have hnot : ['"', '#', ',', ';', '@', '\\', '\x7b', '\x7d'].all (!·.isAlphanum) = true := by
      decide +kernel
    have hc := List.all_eq_true.1 hnot c hc
    rw [h] at hc
    exact absurd hc (by simp)
  all_goals decide

lemma isFieldChar_of_isIpChar {c : Char} (h : isIpChar c = true) : isFieldChar c = true := by
  have hall : ∀ n < 128, isIpChar (Char.ofNat n) = true → isFieldChar (Char.ofNat n) = true := by
    decide
  simpa using hall c.toNat (isIpChar_lt h) (by simpa using h)

lemma isFieldChar_toDigits {b : ℕ} (h1 : 1 < b) (hb : b ≤ 16) (n : ℕ) :
    ∀ c ∈ Nat.toDigits b n, isFieldChar c = true := fun c hc =>
  isFieldChar_of_isIpChar (isIpChar_toDigits h1 hb n c hc)

/-- A field is written with the characters of fields. -/
lemma isFieldChar_toText {p : Piece} (h : p.isField = true) :
    ∀ c ∈ p.toText.toList, isFieldChar c = true := by
  intro c hc
  cases p with
  | text s => simp [Piece.isField] at h
  | comment s => simp [Piece.isField] at h
  | ident i =>
      have hi := i.property.2 c hc
      rw [Bool.or_eq_true] at hi
      rcases hi with hi | hi <;> simp [isFieldChar, hi]
  | addr a => exact isFieldChar_of_isIpChar (isIpChar_showIp a c hc)
  | net n =>
      simp only [Piece.toText, IpNetwork.toText, showCidr, toString_string, String.toList_append,
        List.mem_append] at hc
      rcases hc with (hc | hc) | hc
      · exact isFieldChar_of_isIpChar (isIpChar_showIp _ c hc)
      · have hslash : c = '/' := by simpa using hc
        rw [hslash]
        decide
      · rw [Nat.toString_eq_repr, Nat.toList_repr] at hc
        exact isFieldChar_toDigits (by decide) (by decide) _ c hc
  | ifname i =>
      have hi := i.property
      simp only [validIfname, Bool.and_eq_true, List.all_eq_true, Bool.or_eq_true, beq_iff_eq] at hi
      rcases hi.2 c hc with ((h | rfl) | rfl) | rfl
      · simp [isFieldChar, h]
      all_goals decide
  | mark m =>
      rw [Piece.toText, String.toList_append, List.mem_append] at hc
      rcases hc with hc | hc
      · exact (List.all_eq_true (p := isFieldChar)).1 (by decide) c hc
      · rw [toList_hex] at hc
        exact isFieldChar_toDigits (by decide) (by decide) _ c hc

/-! ### Templates -/

/-- The chains. -/
inductive ChainKind
  | mark
  | snat
  | killswitch
  deriving DecidableEq

/-- The first line of a chain. -/
def ChainKind.openText : ChainKind → String
  | .mark => "    chain degc_mark \x7b"
  | .snat => "    chain degc_snat \x7b"
  | .killswitch => "    chain degc_killswitch \x7b"

/-- The second line of a chain. -/
def ChainKind.baseText : ChainKind → String
  | .mark => "        type filter hook prerouting priority mangle; policy accept;"
  | .snat => "        type nat hook postrouting priority srcnat; policy accept;"
  | .killswitch => "        type filter hook forward priority filter; policy accept;"

/-- The lines of a script, with their fields. -/
inductive Template
  | addTable
  | deleteTable
  | openTable
  | closeTable
  | openSet (name : Ident)
  | type (family : Family)
  | interval
  | addrs (as : List IpAddr)
  | nets (ns : List IpNetwork)
  | closeBlock
  | openChain (chain : ChainKind)
  | base (chain : ChainKind)
  | mark (via : Ident) (excl : Option Ident) (m : UInt32)
  | masqueradeIface (m : UInt32) (iface : Ifname)
  | masquerade (m : UInt32)
  | drop6 (via : Ident) (excl : Option Ident)
  | dropIface (m : UInt32) (iface : Ifname)
  | dropAll (m : UInt32) (why : Comment)

/-- The clause that excludes networks. -/
def exclPieces (kw : String) : Option Ident → List Piece
  | none => []
  | some i => [.text (" " ++ kw ++ " daddr != @"), .ident i]

/-- The pieces of a line. -/
def Template.pieces : Template → List Piece
  | .addTable => [.text "add table inet degc"]
  | .deleteTable => [.text "delete table inet degc"]
  | .openTable => [.text "table inet degc \x7b"]
  | .closeTable => [.text "\x7d"]
  | .openSet name => [.text "    set ", .ident name, .text " \x7b"]
  | .type f => [.text ("        type " ++ f.typ)]
  | .interval => [.text "        flags interval"]
  | .addrs as =>
      [.text "        elements = \x7b "] ++ (as.map .addr).intersperse (.text ", ") ++
        [.text " \x7d"]
  | .nets ns =>
      [.text "        elements = \x7b "] ++ (ns.map .net).intersperse (.text ", ") ++
        [.text " \x7d"]
  | .closeBlock => [.text "    \x7d"]
  | .openChain c => [.text c.openText]
  | .base c => [.text c.baseText]
  | .mark via excl m =>
      [.text "        ip saddr @", .ident via] ++ exclPieces "ip" excl ++
        [.text " meta mark set ", .mark m]
  | .masqueradeIface m iface =>
      [.text "        meta mark ", .mark m, .text " oifname \"", .ifname iface,
        .text "\" masquerade"]
  | .masquerade m => [.text "        meta mark ", .mark m, .text " masquerade"]
  | .drop6 via excl =>
      [.text "        ip6 saddr @", .ident via] ++ exclPieces "ip6" excl ++ [.text " drop"]
  | .dropIface m iface =>
      [.text "        meta mark ", .mark m, .text " oifname != \"", .ifname iface, .text "\" drop"]
  | .dropAll m why =>
      [.text "        meta mark ", .mark m, .text " drop   # egress unavailable: ", .comment why]

/-- The text of a line. -/
def Template.render (t : Template) : String := String.join (t.pieces.map (·.toText))

/-- A line begins with a blank or with one of four other characters. -/
lemma Template.head?_render (t : Template) :
    ∃ c ∈ [' ', 'a', 'd', 't', '\x7d'], t.render.toList.head? = some c := by
  have hjoin : ∀ {c : Char} {s : String} {ps : List Piece}, s.toList.head? = some c →
      (String.join ((Piece.text s :: ps).map (·.toText))).toList.head? = some c := by
    intro c s ps hs
    rw [List.map_cons, Piece.toText, String.join_cons, String.toList_append, List.head?_append, hs]
    rfl
  cases t with
  | addTable => exact ⟨'a', by decide, hjoin (by decide)⟩
  | deleteTable => exact ⟨'d', by decide, hjoin (by decide)⟩
  | openTable => exact ⟨'t', by decide, hjoin (by decide)⟩
  | closeTable => exact ⟨'\x7d', by decide, hjoin (by decide)⟩
  | type f => cases f <;> exact ⟨' ', by decide, hjoin (by decide)⟩
  | openChain c | base c => cases c <;> exact ⟨' ', by decide, hjoin (by decide)⟩
  | _ => exact ⟨' ', by decide, hjoin (by decide)⟩

/-! ### Lines -/

/-- A piece stays on its line. -/
def Piece.Stays (p : Piece) : Prop := ∀ c ∈ p.toText.toList, isLineChar c = true

lemma Piece.stays_text {s : String} (h : s.toList.all isLineChar = true) : (Piece.text s).Stays :=
  List.all_eq_true.1 h

lemma Piece.stays_field {p : Piece} (h : p.isField = true) : p.Stays := by
  intro c hc
  have hc := not_isWhitespace_nl
    (not_isWhitespace_of_isVisible (isFieldChar_cases (isFieldChar_toText h c hc)).1)
  simp [isLineChar, hc]

lemma mem_intersperse {α : Type} {sep a : α} {as : List α} (h : a ∈ as.intersperse sep) :
    a = sep ∨ a ∈ as := by
  induction as with
  | nil => simp at h
  | cons b as ih =>
      cases as with
      | nil => exact Or.inr h
      | cons b' as =>
          rw [List.intersperse_cons_cons, List.mem_cons, List.mem_cons] at h
          rcases h with rfl | rfl | h
          · exact Or.inr List.mem_cons_self
          · exact Or.inl rfl
          · exact (ih h).imp_right (List.mem_cons_of_mem _)

/-- The fields of a set of elements stay on their line. -/
lemma stays_intersperse {α : Type} {f : α → Piece} (hf : ∀ a, (f a).isField = true) (as : List α) :
    ∀ p ∈ (as.map f).intersperse (.text ", "), p.Stays := by
  intro p hp
  rcases mem_intersperse hp with rfl | hp
  · exact Piece.stays_text (by decide)
  · obtain ⟨a, -, rfl⟩ := List.mem_map.1 hp
    exact Piece.stays_field (hf a)

lemma stays_exclPieces {kw : String} (hkw : kw = "ip" ∨ kw = "ip6") (excl : Option Ident) :
    ∀ p ∈ exclPieces kw excl, p.Stays := by
  intro p hp
  cases excl with
  | none => simp [exclPieces] at hp
  | some i =>
      simp only [exclPieces, List.mem_cons, List.not_mem_nil, or_false] at hp
      rcases hp with rfl | rfl
      · rcases hkw with rfl | rfl <;> exact Piece.stays_text (by decide)
      · exact Piece.stays_field rfl

/-- All pieces of a line stay on it. -/
lemma Template.stays_pieces (t : Template) : ∀ p ∈ t.pieces, p.Stays := by
  cases t with
  | addrs as =>
      simp only [pieces, List.forall_mem_append, List.forall_mem_singleton]
      exact ⟨⟨Piece.stays_text (by decide), stays_intersperse (fun _ => rfl) as⟩,
        Piece.stays_text (by decide)⟩
  | nets ns =>
      simp only [pieces, List.forall_mem_append, List.forall_mem_singleton]
      exact ⟨⟨Piece.stays_text (by decide), stays_intersperse (fun _ => rfl) ns⟩,
        Piece.stays_text (by decide)⟩
  | mark via excl m =>
      simp only [pieces, List.forall_mem_append, List.forall_mem_cons, List.not_mem_nil,
        false_implies, implies_true, and_true]
      exact ⟨⟨⟨Piece.stays_text (by decide), Piece.stays_field rfl⟩,
        stays_exclPieces (Or.inl rfl) excl⟩, Piece.stays_text (by decide), Piece.stays_field rfl⟩
  | drop6 via excl =>
      simp only [pieces, List.forall_mem_append, List.forall_mem_cons, List.not_mem_nil,
        false_implies, implies_true, and_true]
      exact ⟨⟨⟨Piece.stays_text (by decide), Piece.stays_field rfl⟩,
        stays_exclPieces (Or.inr rfl) excl⟩, Piece.stays_text (by decide)⟩
  | dropAll m why =>
      simp only [pieces, List.forall_mem_cons, List.not_mem_nil, false_implies, implies_true,
        and_true]
      exact ⟨Piece.stays_text (by decide), Piece.stays_field rfl, Piece.stays_text (by decide),
        why.property⟩
  | type f =>
      simp only [pieces, List.forall_mem_singleton]
      cases f <;> exact Piece.stays_text (by decide)
  | openChain c =>
      simp only [pieces, List.forall_mem_singleton]
      cases c <;> exact Piece.stays_text (by decide)
  | base c =>
      simp only [pieces, List.forall_mem_singleton]
      cases c <;> exact Piece.stays_text (by decide)
  | _ =>
      intro p hp
      simp only [pieces, List.mem_cons, List.not_mem_nil, or_false] at hp
      rcases hp with rfl | rfl | rfl | rfl | rfl <;>
        first | exact Piece.stays_field rfl | exact Piece.stays_text (by decide)

/-- A line is one line. -/
lemma Template.isLine_render (t : Template) : IsLine t.render := by
  refine isLine_of_isLineChar fun c hc => ?_
  rw [render, String.toList_join, List.mem_flatMap] at hc
  obtain ⟨s, hs, hc⟩ := hc
  obtain ⟨p, hp, rfl⟩ := List.mem_map.1 hs
  exact t.stays_pieces p hp c hc

/-! ### Kinds of lines -/

/-- A line without what its fields hold. -/
inductive Kind
  | addTable
  | deleteTable
  | openTable
  | closeTable
  | openSet
  | type (family : Family)
  | interval
  | addrs
  | nets
  | closeBlock
  | openChain (chain : ChainKind)
  | base (chain : ChainKind)
  | mark (excl : Bool)
  | masqueradeIface
  | masquerade
  | drop6 (excl : Bool)
  | dropIface
  | dropAll
  deriving DecidableEq

/-- The kind of a line. -/
def Template.kind : Template → Kind
  | .addTable => .addTable
  | .deleteTable => .deleteTable
  | .openTable => .openTable
  | .closeTable => .closeTable
  | .openSet _ => .openSet
  | .type f => .type f
  | .interval => .interval
  | .addrs _ => .addrs
  | .nets _ => .nets
  | .closeBlock => .closeBlock
  | .openChain c => .openChain c
  | .base c => .base c
  | .mark _ excl _ => .mark excl.isSome
  | .masqueradeIface _ _ => .masqueradeIface
  | .masquerade _ => .masquerade
  | .drop6 _ excl => .drop6 excl.isSome
  | .dropIface _ _ => .dropIface
  | .dropAll _ _ => .dropAll

/-- The kinds of egresses. -/
inductive EgressKind
  | interface
  | nextHop
  | unavailable
  deriving DecidableEq

/-- What the lines of a gateway depend on beyond their fields: the kind of its egress, whether it
masquerades, and for each family whether it has members and networks that stay direct. -/
structure Shape where
  egress : EgressKind
  snat : Bool
  members4 : Bool
  members6 : Bool
  locals4 : Bool
  locals6 : Bool
  deriving DecidableEq

/-- The lines of a set of addresses. -/
def addrKinds (f : Family) (elems : Bool) : List Kind :=
  [.openSet, .type f] ++ (if elems then [.addrs] else []) ++ [.closeBlock]

/-- The lines of a set of networks to exclude. -/
def exclKinds (f : Family) (excl : Bool) : List Kind :=
  if excl then [.openSet, .type f, .interval, .nets, .closeBlock] else []

namespace Shape

/-- The lines of the sets. -/
def sets (s : Shape) : List Kind :=
  addrKinds .ip s.members4 ++ exclKinds .ip s.locals4 ++
    if s.members6 then addrKinds .ip6 true ++ exclKinds .ip6 s.locals6 else []

/-- The lines of the first chain. -/
def marks (s : Shape) : List Kind := [.mark s.locals4]

/-- The lines of the second chain. -/
def snats (s : Shape) : List Kind :=
  match s.egress with
  | .interface => if s.snat then [.masqueradeIface] else []
  | .nextHop => if s.snat then [.masquerade] else []
  | .unavailable => []

/-- The lines of the third chain. -/
def kills (s : Shape) : List Kind :=
  (if s.members6 then [.drop6 s.locals6] else []) ++
    match s.egress with
    | .interface => [.dropIface]
    | .nextHop => []
    | .unavailable => [.dropAll]

end Shape

/-- The lines of a chain. -/
def chainKinds (c : ChainKind) (rules : List Kind) : List Kind :=
  [.openChain c, .base c] ++ rules ++ [.closeBlock]

/-- The lines of a script for gateways of the given shapes. -/
def skeleton (shapes : List Shape) : List Kind :=
  [.addTable, .deleteTable, .openTable] ++ shapes.flatMap Shape.sets ++
    chainKinds .mark (shapes.flatMap Shape.marks) ++
    (if (shapes.flatMap Shape.snats).isEmpty then []
      else chainKinds .snat (shapes.flatMap Shape.snats)) ++
    chainKinds .killswitch (shapes.flatMap Shape.kills) ++ [.closeTable]

/-! ### Lines as templates -/

/-- The lines are lines of the given kinds. -/
def Renders (ls : List String) (ks : List Kind) : Prop :=
  ∃ ts : List Template, ts.map Template.render = ls ∧ ts.map Template.kind = ks

lemma Renders.nil : Renders [] [] := ⟨[], rfl, rfl⟩

lemma Renders.one {t : Template} {l : String} (h : t.render = l) : Renders [l] [t.kind] :=
  ⟨[t], by rw [List.map_singleton, h], rfl⟩

lemma Renders.append {ls ls' : List String} {ks ks' : List Kind} (h : Renders ls ks)
    (h' : Renders ls' ks') : Renders (ls ++ ls') (ks ++ ks') := by
  obtain ⟨ts, rfl, rfl⟩ := h
  obtain ⟨ts', rfl, rfl⟩ := h'
  exact ⟨ts ++ ts', List.map_append, List.map_append⟩

lemma Renders.unless {ls : List String} {ks : List Kind} (h : Renders ls ks) (c : Bool) :
    Renders (if c then [] else ls) (if c then [] else ks) := by
  cases c
  · exact h
  · exact Renders.nil

lemma Renders.isEmpty_eq {ls : List String} {ks : List Kind} (h : Renders ls ks) :
    ls.isEmpty = ks.isEmpty := by
  obtain ⟨ts, rfl, rfl⟩ := h
  rw [List.isEmpty_map, List.isEmpty_map]

/-- Lines of templates are read back line by line. -/
lemma Renders.lines_unlines {ls : List String} {ks : List Kind} (h : Renders ls ks) :
    Text.lines (unlines ls) = ls := by
  obtain ⟨ts, rfl, -⟩ := h
  refine Text.lines_unlines fun l hl => ?_
  obtain ⟨t, -, rfl⟩ := List.mem_map.1 hl
  exact t.isLine_render

lemma join_toText_intersperse {α : Type} (sep : String) (f : α → Piece) (as : List α) :
    String.join (((as.map f).intersperse (.text sep)).map (·.toText)) =
      sep.intercalate (as.map fun a => (f a).toText) := by
  induction as with
  | nil => rfl
  | cons a as ih =>
      cases as with
      | nil => simp [String.join_cons]
      | cons a' as =>
          rw [List.map_cons, List.map_cons, List.map_cons, List.map_cons,
            List.intersperse_cons_cons, List.map_cons, List.map_cons, String.join_cons,
            String.join_cons, String.intercalate_cons_cons, ← List.map_cons, ih, List.map_cons,
            String.append_assoc]
          rfl

lemma render_addrs (as : List IpAddr) :
    (Template.addrs as).render =
      "        elements = \x7b " ++ ", ".intercalate (as.map showIp) ++ " \x7d" := by
  rw [Template.render, Template.pieces, List.map_append, List.map_append, String.join_append,
    String.join_append, join_toText_intersperse]
  simp [Piece.toText]

lemma render_nets (ns : List IpNetwork) :
    (Template.nets ns).render =
      "        elements = \x7b " ++ ", ".intercalate (ns.map (·.toText)) ++ " \x7d" := by
  rw [Template.render, Template.pieces, List.map_append, List.map_append, String.join_append,
    String.join_append, join_toText_intersperse]
  simp [Piece.toText]

/-! ### The lines of a gateway -/

lemma isAlphanum_sanitize (name : String) :
    ∀ c ∈ (sanitize name).toList, (c.isAlphanum || c == '_') = true := by
  rw [sanitize, String.toList_ofList]
  intro c hc
  obtain ⟨d, -, rfl⟩ := List.mem_map.1 hc
  split
  · next hd => exact hd
  · decide

/-- A replaced name behind one of the four beginnings is a set identifier. -/
def Ident.ofName (b : String) (hb : b ∈ pres) (name : String) : Ident :=
  ⟨b ++ sanitize name, by
    have hchars : ∀ b ∈ pres, b ≠ "" ∧ b.toList.all (fun c => c.isAlphanum || c == '_') = true := by
      decide
    obtain ⟨hne, hall⟩ := hchars b hb
    refine ⟨fun h => hne (String.append_eq_empty_iff.1 h).1, fun c hc => ?_⟩
    rw [String.toList_append, List.mem_append] at hc
    exact hc.elim (List.all_eq_true.1 hall c) (isAlphanum_sanitize name c)⟩

/-- The definition of a set of addresses. -/
lemma renders_addrs (i : Ident) (f : Family) (as : List IpAddr) :
    Renders (emitSet i.val f.typ false (as.map showIp)) (addrKinds f !as.isEmpty) := by
  have hhead : Renders [s!"    set {i.val} \x7b", s!"        type {f.typ}"] [.openSet, .type f] :=
    ⟨[.openSet i, .type f], by
      simp [Template.render, Template.pieces, Piece.toText, String.append_assoc], rfl⟩
  have hclose : Renders ["    \x7d"] [.closeBlock] := Renders.one (t := .closeBlock) (by decide)
  have helems : Renders (if (as.map showIp).isEmpty then [] else
        ["        elements = \x7b " ++ ", ".intercalate (as.map showIp) ++ " \x7d"])
      (if !as.isEmpty then [.addrs] else []) := by
    cases as with
    | nil => exact Renders.nil
    | cons a as => exact Renders.one (render_addrs (a :: as))
  have h := (hhead.append helems).append hclose
  simpa [emitSet, addrKinds] using h

/-- The definition of a set of networks to exclude. -/
lemma renders_nets (i : Ident) (f : Family) (kw : String) (ns : List IpNetwork) :
    Renders (exclClause i.val f.typ kw (ns.map (·.toText))).1 (exclKinds f !ns.isEmpty) := by
  cases ns with
  | nil => exact Renders.nil
  | cons n ns =>
      refine ⟨[.openSet i, .type f, .interval, .nets (n :: ns), .closeBlock], ?_, rfl⟩
      rw [List.map_cons, List.map_cons, List.map_cons, List.map_cons, List.map_singleton,
        render_nets]
      simp [exclClause, emitSet, Template.render, Template.pieces, Piece.toText,
        String.append_assoc]

/-! ### The rules -/

lemma render_mark (via : Ident) (excl : Option Ident) (m : UInt32) :
    (Template.mark via excl m).render =
      "        ip saddr @" ++ via.val ++ String.join ((exclPieces "ip" excl).map (·.toText)) ++
        " meta mark set " ++ ("0x" ++ hex m.toNat) := by
  simp [Template.render, Template.pieces, Piece.toText, String.append_assoc]

lemma render_drop6 (via : Ident) (excl : Option Ident) :
    (Template.drop6 via excl).render =
      "        ip6 saddr @" ++ via.val ++ String.join ((exclPieces "ip6" excl).map (·.toText)) ++
        " drop" := by
  simp [Template.render, Template.pieces, Piece.toText, String.append_assoc]

lemma render_masqueradeIface (m : UInt32) (i : Ifname) :
    (Template.masqueradeIface m i).render =
      "        meta mark " ++ ("0x" ++ hex m.toNat) ++ " oifname \"" ++ i.val ++
        "\" masquerade" := by
  simp [Template.render, Template.pieces, Piece.toText, String.append_assoc]

lemma render_masquerade (m : UInt32) :
    (Template.masquerade m).render =
      "        meta mark " ++ ("0x" ++ hex m.toNat) ++ " masquerade" := by
  simp [Template.render, Template.pieces, Piece.toText, String.append_assoc]

lemma render_dropIface (m : UInt32) (i : Ifname) :
    (Template.dropIface m i).render =
      "        meta mark " ++ ("0x" ++ hex m.toNat) ++ " oifname != \"" ++ i.val ++ "\" drop" := by
  simp [Template.render, Template.pieces, Piece.toText, String.append_assoc]

lemma render_dropAll (m : UInt32) (why : Comment) :
    (Template.dropAll m why).render =
      "        meta mark " ++ ("0x" ++ hex m.toNat) ++ " drop   # egress unavailable: " ++
        why.val := by
  simp [Template.render, Template.pieces, Piece.toText, String.append_assoc]

section Gateway

variable [Libraries]

/-- The kind of an egress. -/
def egressKind : Egress → EgressKind
  | .interface _ => .interface
  | .nextHop _ => .nextHop
  | .unavailable _ => .unavailable

/-- The shape of a gateway. -/
def shapeOf (gp : GatewayPlan) : Shape where
  egress := egressKind gp.egress
  snat := gp.gateway.snatEnabled
  members4 := !(members4 gp).isEmpty
  members6 := !(members6 gp).isEmpty
  locals4 := !(locals4 gp.gateway).isEmpty
  locals6 := !(locals6 gp.gateway).isEmpty

/-- An egress whose texts can stand in a line. -/
def FitEgress : Egress → Prop
  | .interface iface => validIfname iface = true
  | .nextHop _ => True
  | .unavailable why => ∀ c ∈ why.toList, isLineChar c = true

/-- The identifier of the set to exclude, if there is anything to exclude. -/
def exclIdent (i : Ident) (ns : List IpNetwork) : Option Ident :=
  if ns.isEmpty then none else some i

omit [Libraries] in
lemma isSome_exclIdent (i : Ident) (ns : List IpNetwork) :
    (exclIdent i ns).isSome = !ns.isEmpty := by
  rw [exclIdent]
  cases ns <;> rfl

omit [Libraries] in
/-- The clause that excludes networks. -/
lemma render_excl (i : Ident) (typ kw : String) (ns : List IpNetwork) :
    (exclClause i.val typ (kw ++ " daddr") (ns.map (·.toText))).2 =
      String.join ((exclPieces kw (exclIdent i ns)).map (·.toText)) := by
  cases ns with
  | nil => rfl
  | cons n ns => simp [exclClause, exclIdent, exclPieces, Piece.toText, String.append_assoc]

/-- The lines of a gateway are lines of the kinds that belong to its shape. -/
structure RendersGateway (r : Rules) (s : Shape) : Prop where
  sets : Renders r.sets s.sets
  markRules : Renders r.markRules s.marks
  snatRules : Renders r.snatRules s.snats
  killRules : Renders r.killRules s.kills

lemma rendersGateway {gp : GatewayPlan} {r : Rules} (hegress : FitEgress gp.egress)
    (h : gatewayRules gp = .ok r) : RendersGateway r (shapeOf gp) := by
  simp only [gatewayRules, networkToString_eq, bind_eq_ok, pure_eq_ok] at h
  obtain ⟨m, -, rfl⟩ := h
  let via := Ident.ofName "degc_via_" (by decide) gp.gateway.name
  let loc := Ident.ofName "degc_local_" (by decide) gp.gateway.name
  let via6 := Ident.ofName "degc_via6_" (by decide) gp.gateway.name
  let loc6 := Ident.ofName "degc_local6_" (by decide) gp.gateway.name
  refine ⟨?_, ?_, ?_, ?_⟩
  · have h4 := (renders_addrs via .ip (members4 gp)).append
      (renders_nets loc .ip "ip daddr" (locals4 gp.gateway))
    have h6 := ((renders_addrs via6 .ip6 (members6 gp)).append
      (renders_nets loc6 .ip6 "ip6 daddr" (locals6 gp.gateway))).unless (members6 gp).isEmpty
    have hkinds : (shapeOf gp).sets = addrKinds .ip (!(members4 gp).isEmpty) ++
        exclKinds .ip (!(locals4 gp.gateway).isEmpty) ++
        if (members6 gp).isEmpty then []
        else addrKinds .ip6 (!(members6 gp).isEmpty) ++
          exclKinds .ip6 (!(locals6 gp.gateway).isEmpty) := by
      by_cases hm : (members6 gp).isEmpty <;> simp [Shape.sets, shapeOf, hm]
    rw [hkinds]
    exact h4.append h6
  · have hexcl := render_excl loc "ipv4_addr" "ip" (locals4 gp.gateway)
    refine ⟨[.mark via (exclIdent loc (locals4 gp.gateway)) m], ?_, ?_⟩
    · rw [List.map_singleton, render_mark, ← hexcl]
      rfl
    · rw [List.map_singleton, Template.kind, isSome_exclIdent]
      rfl
  · cases he : gp.egress with
    | interface iface =>
        rw [he] at hegress
        simp only [snatRules, Shape.snats, shapeOf, egressKind, he]
        cases gp.gateway.snatEnabled
        · exact Renders.nil
        · exact Renders.one (render_masqueradeIface m ⟨iface, hegress⟩)
    | nextHop ip =>
        simp only [snatRules, Shape.snats, shapeOf, egressKind, he]
        cases gp.gateway.snatEnabled
        · exact Renders.nil
        · exact Renders.one (render_masquerade m)
    | unavailable why =>
        simp only [snatRules, Shape.snats, shapeOf, egressKind, he]
        exact Renders.nil
  · have hexcl := render_excl loc6 "ipv6_addr" "ip6" (locals6 gp.gateway)
    have hdrop6 : Renders
        ["        ip6 saddr @" ++ via6.val ++ (exclClause loc6.val "ipv6_addr" "ip6 daddr"
          ((locals6 gp.gateway).map (·.toText))).2 ++ " drop"]
        [.drop6 (!(locals6 gp.gateway).isEmpty)] := by
      refine ⟨[.drop6 via6 (exclIdent loc6 (locals6 gp.gateway))], ?_, ?_⟩
      · rw [List.map_singleton, render_drop6, ← hexcl]
        rfl
      · rw [List.map_singleton, Template.kind, isSome_exclIdent]
    have hkill : Renders (killRules ("0x" ++ hex m.toNat) gp.egress)
        (match egressKind gp.egress with
          | .interface => [.dropIface]
          | .nextHop => []
          | .unavailable => [.dropAll]) := by
      cases he : gp.egress with
      | interface iface =>
          rw [he] at hegress
          exact Renders.one (render_dropIface m ⟨iface, hegress⟩)
      | nextHop ip => exact Renders.nil
      | unavailable why =>
          rw [he] at hegress
          exact Renders.one (render_dropAll m ⟨why, hegress⟩)
    have hkinds : (shapeOf gp).kills = (if (members6 gp).isEmpty then []
        else [.drop6 (!(locals6 gp.gateway).isEmpty)]) ++
          match egressKind gp.egress with
          | .interface => [.dropIface]
          | .nextHop => []
          | .unavailable => [.dropAll] := by
      by_cases hm : (members6 gp).isEmpty <;> simp [Shape.kills, shapeOf, hm]
    rw [hkinds]
    exact (hdrop6.unless (members6 gp).isEmpty).append hkill

/-! ### The script -/

lemma interface_of_resolveEgress {g : Gateway} {targets : List Target} {iface : String}
    (h : Plan.resolveEgress g targets = .interface iface) : g.egress.interface = some iface := by
  cases hi : g.egress.interface with
  | some i =>
      simp only [Plan.resolveEgress, hi, Egress.interface.injEq] at h
      rw [h]
  | none =>
      simp only [Plan.resolveEgress, hi] at h
      split at h
      · split at h <;> simp at h
      · split at h
        · split at h <;> simp at h
        · simp at h

lemma fitEgress_compile {pfx : String} {gws : Gateways} {targets : List Target}
    (hvalid : gws.validate = .ok ()) :
    ∀ gp ∈ (Plan.compile targets pfx gws).gateways, FitEgress gp.egress := by
  intro gp hgp
  have hv := Gateways.validate_eq_ok.1 hvalid
  have hplain := plainEgress_compile hvalid gp hgp
  cases he : gp.egress with
  | interface iface =>
      rw [Plan.egress_eq hgp] at he
      obtain ⟨g, hg, rfl⟩ := (Plan.mem_gateways_compile hv.names).1 hgp
      exact (Plan.valid_of_mem_merge hv.gateways hg).interface _ (interface_of_resolveEgress he)
  | nextHop ip => trivial
  | unavailable why =>
      rw [he] at hplain
      intro c hc
      simpa [isLineChar] using hplain c hc

/-- The lines of all gateways, part by part. -/
lemma renders_flatMap (part : Rules → List String) (kinds : Shape → List Kind)
    {gps : List GatewayPlan} {rules : List Rules}
    (h : List.Forall₂ (fun gp r => gatewayRules gp = .ok r) gps rules)
    (hpart : ∀ gp ∈ gps, ∀ r, gatewayRules gp = .ok r → Renders (part r) (kinds (shapeOf gp))) :
    Renders (rules.flatMap part) ((gps.map shapeOf).flatMap kinds) := by
  induction h with
  | nil => exact Renders.nil
  | cons hr _ ih =>
      rw [List.forall_mem_cons] at hpart
      exact (hpart.1 _ hr).append (ih hpart.2)

omit [Libraries] in
/-- A chain is written as the lines of a chain. -/
lemma renders_chain (c : ChainKind) (name typ hook priority : String) {rules : List String}
    {ks : List Kind} (hopen : s!"    chain {name} \x7b" = c.openText)
    (hbase : s!"        type {typ} hook {hook} priority {priority}; policy accept;" = c.baseText)
    (h : Renders rules ks) : Renders (chain name typ hook priority rules) (chainKinds c ks) := by
  have hhead : Renders [s!"    chain {name} \x7b",
      s!"        type {typ} hook {hook} priority {priority}; policy accept;"]
      [.openChain c, .base c] := by
    rw [hopen, hbase]
    exact ⟨[.openChain c, .base c], by simp [Template.render, Template.pieces, Piece.toText], rfl⟩
  exact (hhead.append h).append (Renders.one (t := .closeBlock) (by decide))

/-- The script of a plan is written from lines of the kinds that belong to the shapes of its
gateways. -/
lemma buildScript_renders {plan : Plan} {script : String}
    (hplan : ∀ gp ∈ plan.gateways, FitEgress gp.egress) (h : buildScript plan = .ok script) :
    ∃ ls, script = unlines ls ∧ Renders ls (skeleton (plan.gateways.map shapeOf)) := by
  simp only [buildScript, bind_eq_ok, pure_eq_ok] at h
  obtain ⟨rules, hrules, rfl⟩ := h
  have hall := mapM_ok hrules
  have hsets := renders_flatMap (·.sets) Shape.sets hall fun gp hgp r hr =>
    (rendersGateway (hplan gp hgp) hr).sets
  have hmark := renders_flatMap (·.markRules) Shape.marks hall fun gp hgp r hr =>
    (rendersGateway (hplan gp hgp) hr).markRules
  have hsnat := renders_flatMap (·.snatRules) Shape.snats hall fun gp hgp r hr =>
    (rendersGateway (hplan gp hgp) hr).snatRules
  have hkill := renders_flatMap (·.killRules) Shape.kills hall fun gp hgp r hr =>
    (rendersGateway (hplan gp hgp) hr).killRules
  have hhead : Renders
      ["add table inet degc", "delete table inet degc", "table inet degc \x7b"]
      [.addTable, .deleteTable, .openTable] :=
    ⟨[.addTable, .deleteTable, .openTable], by decide, rfl⟩
  have hmark' := renders_chain .mark "degc_mark" "filter" "prerouting" "mangle" (by decide)
    (by decide) hmark
  have hsnat' := (renders_chain .snat "degc_snat" "nat" "postrouting" "srcnat" (by decide)
    (by decide) hsnat).unless (rules.flatMap (·.snatRules)).isEmpty
  have hkill' := renders_chain .killswitch "degc_killswitch" "filter" "forward" "filter"
    (by decide) (by decide) hkill
  have hclose : Renders ["\x7d"] [.closeTable] := Renders.one (t := .closeTable) (by decide)
  have hwhole := ((((hhead.append hsets).append hmark').append hsnat').append hkill').append hclose
  refine ⟨_, rfl, ?_⟩
  rw [hsnat.isEmpty_eq] at hwhole ⊢
  exact hwhole

/-- The script of a plan consists of lines of the kinds that belong to the shapes of its
gateways. -/
theorem renders_buildScript {plan : Plan} {script : String}
    (hplan : ∀ gp ∈ plan.gateways, FitEgress gp.egress) (h : buildScript plan = .ok script) :
    Renders (lines script) (skeleton (plan.gateways.map shapeOf)) := by
  obtain ⟨ls, rfl, hls⟩ := buildScript_renders hplan h
  rwa [hls.lines_unlines]

/-- Nothing but the fields of the lines depends on what the names, labels and addresses are: the
script consists of lines whose kinds follow from the shapes of the gateways, each field is written
with the characters of fields, and what is read from the script are the sets and the rules of the
gateways and nothing else. -/
structure Templated (p : Plan) (script : String) : Prop where
  lines : ∃ ts : List Template, Text.lines script = ts.map Template.render ∧
    ts.map Template.kind = skeleton (p.gateways.map shapeOf) ∧
    ∀ t ∈ ts, ∀ piece ∈ t.pieces, piece.isField = true →
      ∀ c ∈ piece.toText.toList, isFieldChar c = true
  reads : readScript script =
    some (redefine "inet degc" (p.gateways.flatMap setDefs) (chains p))

/-- The script of every plan that is compiled from a valid configuration is made of templates,
whatever the containers and their labels are. -/
theorem templated_compile {pfx : String} {gws : Gateways} {targets : List Target}
    {script : String} (hvalid : gws.validate = .ok ())
    (hscript : buildScript (Plan.compile targets pfx gws) = .ok script) :
    Templated (Plan.compile targets pfx gws) script := by
  obtain ⟨ts, hlines, hkinds⟩ := renders_buildScript (fitEgress_compile hvalid) hscript
  refine ⟨⟨ts, hlines.symm, hkinds, ?_⟩,
    readScript_buildScript (plainEgress_compile hvalid) hscript⟩
  intro t _ piece _ hpiece
  exact isFieldChar_toText hpiece

end Gateway

/-- A gateway that is declared under a name with line feeds and braces in it by a container with
such a name, and a member of it. -/
def forgedTargets : List Target :=
  [.ofLists "gw\"\n\x7d\nflush ruleset" [("degc.gateway", "x; drop\n\x7d")] [],
    .ofLists "app" [("degc.enable", "true"), ("degc.via", "x; drop\n\x7d")]
      [("services", [.v4 0xac120007])]]

/-- The script for such a gateway is made of templates. -/
theorem templated_forged :
    ∃ script, @buildScript .plain (@Plan.compile .plain forgedTargets "degc" []) = .ok script ∧
      @Templated .plain (@Plan.compile .plain forgedTargets "degc" []) script := by
  have hok : (@buildScript .plain (@Plan.compile .plain forgedTargets "degc" [])).isOk = true := by
    decide +kernel
  cases h : @buildScript .plain (@Plan.compile .plain forgedTargets "degc" []) with
  | error e => exact absurd (h ▸ hok) (by simp [Except.isOk, Except.toBool])
  | ok script => exact ⟨script, rfl, @templated_compile .plain _ _ _ _ (by decide) h⟩

end Degc.Nft
