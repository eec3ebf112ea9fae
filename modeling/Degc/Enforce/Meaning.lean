import Degc.Enforce.Nft
import Degc.Kernel.NetfilterText
import Degc.Plan.Resolve

/-!
# What the nftables script says

The script of a plan, read as a packet filter script.  `setDefs` and the rules
below are what one gateway adds, in the terms of the packet filter; the text of
the source is shown to be read as exactly that, line by line.

The main result is `readScript_buildScript`: the script of a compiled plan
redefines the table `inet degc` with these sets and chains.
-/

namespace Degc.Nft

open Net Text Netfilter

variable [Libraries]

/-! ### The parts of a gateway -/

/-- A set of addresses. -/
def addrSet (f : Family) (as : List IpAddr) : ElemSet := ⟨f.typ, false, as.map .single⟩

/-- A set of networks. -/
def netSet (f : Family) (ns : List IpNetwork) : ElemSet := ⟨f.typ, true, ns.map (·.toCidr)⟩

/-- The set of networks to exclude, if there are any. -/
def exclDefs (name : String) (f : Family) (ns : List IpNetwork) : List (String × ElemSet) :=
  if ns.isEmpty then [] else [(name, netSet f ns)]

/-- The match that excludes networks, if there are any. -/
def exclMatch (name : String) (f : Family) (ns : List IpNetwork) : List Expr :=
  if ns.isEmpty then [] else [.daddrNot f name]

/-- The sets a gateway defines. -/
def setDefs (gp : GatewayPlan) : List (String × ElemSet) :=
  [(viaName gp.gateway, addrSet .ip (members4 gp))] ++
    exclDefs (localName gp.gateway) .ip (locals4 gp.gateway) ++
    if (members6 gp).isEmpty then []
    else [(via6Name gp.gateway, addrSet .ip6 (members6 gp))] ++
      exclDefs (local6Name gp.gateway) .ip6 (locals6 gp.gateway)

/-- The mark of a gateway. -/
def markOf (gp : GatewayPlan) : ℕ := gp.gateway.effectiveMark.toNat

/-- The rule that marks what the members of a gateway send out. -/
def markRule (gp : GatewayPlan) : Rule :=
  .saddr .ip (viaName gp.gateway) ::
    (exclMatch (localName gp.gateway) .ip (locals4 gp.gateway) ++ [.setMark (markOf gp)])

/-- The rule that masquerades what a gateway sends out. -/
def snatRule (gp : GatewayPlan) : List Rule :=
  match gp.egress with
  | .interface iface =>
      if gp.gateway.snatEnabled then [[.mark (markOf gp), .oifname iface, .masquerade]] else []
  | .nextHop _ => if gp.gateway.snatEnabled then [[.mark (markOf gp), .masquerade]] else []
  | .unavailable _ => []

/-- The rule that drops the IPv6 traffic of the members of a gateway. -/
def killRule6 (gp : GatewayPlan) : List Rule :=
  if (members6 gp).isEmpty then []
  else [.saddr .ip6 (via6Name gp.gateway) ::
    (exclMatch (local6Name gp.gateway) .ip6 (locals6 gp.gateway) ++ [.drop])]

/-- The rule that drops what a gateway must not send out. -/
def killRule (gp : GatewayPlan) : List Rule :=
  match gp.egress with
  | .interface iface => [[.mark (markOf gp), .oifnameNot iface, .drop]]
  | .unavailable _ => [[.mark (markOf gp), .drop]]
  | .nextHop _ => []

/-- The chains of the table of a plan. -/
def chains (plan : Plan) : List Chain :=
  [⟨"degc_mark", "filter", "prerouting", "mangle", plan.gateways.map markRule⟩] ++
    (if (plan.gateways.flatMap snatRule).isEmpty then []
      else [⟨"degc_snat", "nat", "postrouting", "srcnat", plan.gateways.flatMap snatRule⟩]) ++
    [⟨"degc_killswitch", "filter", "forward", "filter",
      plan.gateways.flatMap fun gp => killRule6 gp ++ killRule gp⟩]

/-! ### Reading the lines -/

section Lines

omit [Libraries]

/-- Reading a list of lines. -/
abbrev ReadsAll : List String → List Line → Prop := List.Forall₂ Reads

lemma ReadsAll.append {as bs : List String} {ls ms : List Line} (h : ReadsAll as ls)
    (h' : ReadsAll bs ms) : ReadsAll (as ++ bs) (ls ++ ms) := List.rel_append h h'

lemma ReadsAll.one {s : String} {l : Line} (h : Reads s l) : ReadsAll [s] [l] := .cons h .nil

lemma reads_close (n : ℕ) : Reads (String.ofList (List.replicate n ' ') ++ "\x7d") .close :=
  reads_unwords n ["\x7d"] (by decide) rfl rfl

lemma reads_set {name : String} (h : IsToken name) : Reads s!"    set {name} \x7b" (.set name) := by
  refine reads_unwords 4 ["set", name, "\x7b"] ?_ ?_ rfl
  · simp only [List.forall_mem_cons]
    exact ⟨by decide, h, by decide, by simp⟩
  · simp [← String.toList_inj, unwords]

lemma reads_type (f : Family) : Reads s!"        type {f.typ}" (.type f.typ) := by
  cases f <;> exact reads_unwords 8 ["type", _] (by decide) (by decide) rfl

lemma reads_elements {α : Type*} {text : α → String} {elem : α → Cidr}
    (hread : ∀ a, readElem (text a) = some (elem a)) (htoken : ∀ a, IsToken (text a)) {as : List α}
    (hne : as ≠ []) :
    Reads ("        elements = \x7b " ++ ", ".intercalate (as.map text) ++ " \x7d")
      (.elements (as.map elem)) := by
  have hcomma := isToken_commaWords (as.map text) (by simpa using fun a _ => htoken a)
  refine reads_unwords 8
    (["elements", "=", "\x7b"] ++ (commaWords (as.map text) ++ ["\x7d"])) ?_ ?_ ?_
  · simp only [List.forall_mem_append]
    exact ⟨by decide, hcomma, by decide⟩
  · have hwords := commaWords_ne_nil (as.map text) (by simpa using hne)
    rw [unwords_append (by simp) (by simp), unwords_append hwords (by simp), ← intercalate_comma,
      ← String.toList_inj]
    simp [unwords]
  · simp [readWords, readElems_show hread hne]

/-- The definition of a set is read as the block of the set. -/
lemma readsAll_emitSet {name : String} (hname : IsToken name) (f : Family) (interval : Bool)
    {α : Type*} (text : α → String) (elem : α → Cidr)
    (hread : ∀ a, readElem (text a) = some (elem a)) (htoken : ∀ a, IsToken (text a))
    (as : List α) :
    ReadsAll (emitSet name f.typ interval (as.map text))
      (setBlock name ⟨f.typ, interval, as.map elem⟩) := by
  have hhead : ReadsAll [s!"    set {name} \x7b", s!"        type {f.typ}"]
      [.set name, .type f.typ] :=
    .cons (reads_set hname) (ReadsAll.one (reads_type f))
  have hflags : ReadsAll (if interval then ["        flags interval"] else [])
      (if interval then [.interval] else []) := by
    cases interval
    · exact .nil
    · exact ReadsAll.one (reads_unwords 8 ["flags", "interval"] (by decide) (by decide) rfl)
  have helems : ReadsAll (if (as.map text).isEmpty then [] else
        ["        elements = \x7b " ++ ", ".intercalate (as.map text) ++ " \x7d"])
      (if (as.map elem).isEmpty then [] else [.elements (as.map elem)]) := by
    cases as with
    | nil => exact .nil
    | cons a as => exact ReadsAll.one (reads_elements hread htoken (by simp))
  exact ((hhead.append hflags).append helems).append (ReadsAll.one (reads_close 4))

/-- The clause that excludes networks, as words. -/
def exclWords (kw name : String) (excl : Bool) : List String :=
  if excl then [kw, "daddr", "!=", "@" ++ name] else []

lemma ReadsAll.unless {as : List String} {ls : List Line} (h : ReadsAll as ls) (c : Bool) :
    ReadsAll (if c then [] else as) (if c then [] else ls) := by
  cases c
  · exact h
  · exact .nil

lemma isToken_mark (n : ℕ) : IsToken ("0x" ++ hex n) := IsToken.append (by decide) (isToken_hex n)

lemma isToken_at {name : String} (h : IsToken name) : IsToken ("@" ++ name) :=
  IsToken.append (by decide) h

lemma isToken_quotes {iface : String} (h : IsToken iface) : IsToken ("\"" ++ iface ++ "\"") :=
  (IsToken.append (by decide) h).append (by decide)

lemma reads_chainName {name : String} (h : IsToken name) :
    Reads s!"    chain {name} \x7b" (.chain name) := by
  refine reads_unwords 4 ["chain", name, "\x7b"] ?_ ?_ rfl
  · simp only [List.forall_mem_cons]
    exact ⟨by decide, h, by decide, by simp⟩
  · simp [← String.toList_inj, unwords]

lemma isToken_exclWords {kw name : String} (hkw : IsToken kw) (h : IsToken name) (excl : Bool) :
    ∀ w ∈ exclWords kw name excl, IsToken w := by
  cases excl
  · simp [exclWords]
  · simp only [exclWords, if_true, List.forall_mem_cons]
    exact ⟨hkw, by decide, by decide, isToken_at h, by simp⟩

/-- The rule that marks is read. -/
lemma reads_markRule {via loc : String} (hvia : IsToken via) (hloc : IsToken loc) (excl : Bool)
    {clause : String} (hclause : clause = if excl then s!" ip daddr != @{loc}" else "") {n : ℕ}
    {mark : String} (hmark : mark = "0x" ++ hex n) :
    Reads s!"        ip saddr @{via}{clause} meta mark set {mark}"
      (.rule (.saddr .ip via :: ((if excl then [.daddrNot .ip loc] else []) ++ [.setMark n]))) := by
  subst hclause hmark
  refine reads_unwords 8 ("ip" :: "saddr" :: ("@" ++ via) ::
    (exclWords "ip" loc excl ++ ["meta", "mark", "set", "0x" ++ hex n])) ?_ ?_ ?_
  · simp only [List.forall_mem_cons, List.forall_mem_append]
    exact ⟨by decide, by decide, isToken_at hvia, isToken_exclWords (by decide) hloc excl,
      by decide, by decide, by decide, isToken_mark n, by simp⟩
  · cases excl <;> simp [← String.toList_inj, unwords, exclWords]
  · cases excl <;> simp [readWords_ip, exclWords, readRule]

/-- The rule that drops IPv6 traffic is read. -/
lemma reads_killRule6 {via loc : String} (hvia : IsToken via) (hloc : IsToken loc) (excl : Bool)
    {clause : String} (hclause : clause = if excl then s!" ip6 daddr != @{loc}" else "") :
    Reads s!"        ip6 saddr @{via}{clause} drop"
      (.rule (.saddr .ip6 via :: ((if excl then [.daddrNot .ip6 loc] else []) ++ [.drop]))) := by
  subst hclause
  refine reads_unwords 8 ("ip6" :: "saddr" :: ("@" ++ via) ::
    (exclWords "ip6" loc excl ++ ["drop"])) ?_ ?_ ?_
  · simp only [List.forall_mem_cons, List.forall_mem_append]
    exact ⟨by decide, by decide, isToken_at hvia, isToken_exclWords (by decide) hloc excl,
      by decide, by simp⟩
  · cases excl <;> simp [← String.toList_inj, unwords, exclWords]
  · cases excl <;> simp [readWords_ip6, exclWords, readRule]

/-- The rules over marked traffic are read. -/
lemma reads_masquerade {n : ℕ} {mark : String} (hmark : mark = "0x" ++ hex n) :
    Reads s!"        meta mark {mark} masquerade" (.rule [.mark n, .masquerade]) := by
  subst hmark
  refine reads_unwords 8 ["meta", "mark", "0x" ++ hex n, "masquerade"] ?_ ?_ ?_
  · simp only [List.forall_mem_cons]
    exact ⟨by decide, by decide, isToken_mark n, by decide, by simp⟩
  · simp [← String.toList_inj, unwords]
  · simp [readWords_meta, readRule]

lemma reads_masqueradeIface {n : ℕ} {mark : String} (hmark : mark = "0x" ++ hex n) {iface : String}
    (h : IsToken iface) :
    Reads s!"        meta mark {mark} oifname \"{iface}\" masquerade"
      (.rule [.mark n, .oifname iface, .masquerade]) := by
  subst hmark
  refine reads_unwords 8 ["meta", "mark", "0x" ++ hex n, "oifname",
    "\"" ++ iface ++ "\"", "masquerade"] ?_ ?_ ?_
  · simp only [List.forall_mem_cons]
    exact ⟨by decide, by decide, isToken_mark n, by decide, isToken_quotes h, by decide, by simp⟩
  · simp [← String.toList_inj, unwords]
  · simp [readWords_meta, readRule]

lemma reads_dropIface {n : ℕ} {mark : String} (hmark : mark = "0x" ++ hex n) {iface : String}
    (h : IsToken iface) :
    Reads s!"        meta mark {mark} oifname != \"{iface}\" drop"
      (.rule [.mark n, .oifnameNot iface, .drop]) := by
  subst hmark
  refine reads_unwords 8 ["meta", "mark", "0x" ++ hex n, "oifname", "!=",
    "\"" ++ iface ++ "\"", "drop"] ?_ ?_ ?_
  · simp only [List.forall_mem_cons]
    exact ⟨by decide, by decide, isToken_mark n, by decide, by decide, isToken_quotes h, by decide,
      by simp⟩
  · simp [← String.toList_inj, unwords]
  · simp [readWords_meta, readRule]

lemma reads_dropAll {n : ℕ} {mark : String} (hmark : mark = "0x" ++ hex n) {why : String}
    (h : ∀ c ∈ why.toList, c ≠ '\n' ∧ c ≠ '\r') :
    Reads s!"        meta mark {mark} drop   # egress unavailable: {why}"
      (.rule [.mark n, .drop]) := by
  subst hmark
  refine reads_comment 8 ["meta", "mark", "0x" ++ hex n, "drop"]
    ("   # egress unavailable: " ++ why) ?_ ?_
    (Or.inr ⟨" egress unavailable: " ++ why, by simp [← String.toList_inj]⟩) ?_ ?_
  · simp only [List.forall_mem_cons]
    exact ⟨by decide, by decide, isToken_mark n, by decide, by simp⟩
  · simp [← String.toList_inj, unwords]
  · rw [String.toList_append, List.forall_mem_append]
    exact ⟨by simp, h⟩
  · simp [readWords_meta, readRule]

/-- A chain is read as the block of the chain. -/
lemma readsAll_chain (name typ hook priority : String) (hname : IsToken name) (htyp : IsToken typ)
    (hhook : IsToken hook) (hpriority : IsToken priority) {lines : List String} (rules : List Rule)
    (h : ReadsAll lines (rules.map .rule)) :
    ReadsAll (chain name typ hook priority lines)
      (chainBlock ⟨name, typ, hook, priority, rules⟩) := by
  have hbase : Reads s!"        type {typ} hook {hook} priority {priority}; policy accept;"
      (.base typ hook priority) := by
    refine reads_unwords 8 ["type", typ, "hook", hook, "priority", priority ++ ";",
      "policy", "accept;"] ?_ ?_ ?_
    · simp only [List.forall_mem_cons]
      exact ⟨by decide, htyp, by decide, hhook, by decide, hpriority.append (by decide), by decide,
        by decide, by simp⟩
    · simp [← String.toList_inj, unwords]
    · simp [readWords, readPriority]
  have hhead : ReadsAll [s!"    chain {name} \x7b",
      s!"        type {typ} hook {hook} priority {priority}; policy accept;"]
      [.chain name, .base typ hook priority] := .cons (reads_chainName hname) (ReadsAll.one hbase)
  exact (hhead.append h).append (ReadsAll.one (reads_close 4))

end Lines

/-! ### Reading the script -/

/-- An egress whose texts do not break the lines they stand in. -/
def PlainEgress : Egress → Prop
  | .interface iface => IsToken iface
  | .nextHop _ => True
  | .unavailable why => ∀ c ∈ why.toList, c ≠ '\n' ∧ c ≠ '\r'

omit [Libraries] in
lemma isToken_sanitize (pre name : String) (h : IsToken pre) : IsToken (pre ++ sanitize name) := by
  have hchars : ∀ c ∈ (sanitize name).toList, isTokenChar c = true := by
    rw [sanitize, String.toList_ofList]
    intro c hc
    obtain ⟨d, -, rfl⟩ := List.mem_map.1 hc
    split
    · next hd =>
        rcases Bool.or_eq_true_iff.1 hd with hd | hd
        · have hne : d ≠ '#' := by rintro rfl; exact absurd hd (by decide)
          simp [isTokenChar, isVisible_of_isAlphanum hd, hne]
        · rw [beq_iff_eq.1 hd]
          decide
    · decide
  refine ⟨⟨by simp [h.1.1], fun c hc => ?_⟩, ?_⟩
  · rw [String.toList_append, List.mem_append] at hc
    rcases hc with hc | hc
    · exact h.1.2 c hc
    · have := hchars c hc
      simp only [isTokenChar, Bool.and_eq_true] at this
      exact not_isWhitespace_of_isVisible this.1
  · rw [String.toList_append, List.mem_append]
    rintro (hc | hc)
    · exact h.2 hc
    · exact absurd (hchars _ hc) (by decide)

omit [Libraries] in
/-- The addresses are read as the set of the addresses. -/
lemma readsAll_addrSet {name : String} (hname : IsToken name) (f : Family) (as : List IpAddr) :
    ReadsAll (emitSet name f.typ false (as.map showIp))
      ([(name, addrSet f as)].flatMap fun d => setBlock d.1 d.2) := by
  simpa [addrSet] using
    readsAll_emitSet hname f false showIp .single (fun a => readElem_showIp a) isToken_showIp as

omit [Libraries] in
/-- The networks to exclude are read as the set of the networks. -/
lemma readsAll_exclClause {name : String} (hname : IsToken name) (f : Family) (kw : String)
    (ns : List IpNetwork) :
    ReadsAll (exclClause name f.typ kw (ns.map (·.toText))).1
      ((exclDefs name f ns).flatMap fun d => setBlock d.1 d.2) := by
  cases ns with
  | nil => exact .nil
  | cons n ns =>
      have := readsAll_emitSet hname f true IpNetwork.toText (fun n => n.toCidr)
        (fun n => readElem_showCidr n.toCidr) (fun n => isToken_showCidr n.toCidr) (n :: ns)
      simpa [exclClause, exclDefs, netSet] using this

omit [Libraries] in
lemma exclClause_snd (name typ kw : String) (cidrs : List String) :
    (exclClause name typ kw cidrs).2 = if !cidrs.isEmpty then s!" {kw} != @{name}" else "" := by
  cases cidrs <;> rfl

/-- The lines of a gateway are read as its sets and rules. -/
structure ReadsGateway (r : Rules) (gp : GatewayPlan) : Prop where
  sets : ReadsAll r.sets ((setDefs gp).flatMap fun d => setBlock d.1 d.2)
  markRules : ReadsAll r.markRules [.rule (markRule gp)]
  snatRules : ReadsAll r.snatRules ((snatRule gp).map .rule)
  killRules : ReadsAll r.killRules ((killRule6 gp ++ killRule gp).map .rule)

lemma readsGateway {gp : GatewayPlan} {r : Rules} (hegress : PlainEgress gp.egress)
    (h : gatewayRules gp = .ok r) : ReadsGateway r gp := by
  simp only [gatewayRules, networkToString_eq, bind_eq_ok, pure_eq_ok] at h
  obtain ⟨m, hm, rfl⟩ := h
  have hmark : m.toNat = markOf gp := by rw [markOf, Gateway.effectiveMark_of_ok hm]
  have hvia : IsToken (viaName gp.gateway) := isToken_sanitize _ _ (by decide)
  have hlocal : IsToken (localName gp.gateway) := isToken_sanitize _ _ (by decide)
  have hvia6 : IsToken (via6Name gp.gateway) := isToken_sanitize _ _ (by decide)
  have hlocal6 : IsToken (local6Name gp.gateway) := isToken_sanitize _ _ (by decide)
  rw [hmark]
  refine ⟨?_, ?_, ?_, ?_⟩
  · simp only [setDefs, List.flatMap_append]
    refine ((readsAll_addrSet hvia .ip (members4 gp)).append
      (readsAll_exclClause hlocal .ip "ip daddr" (locals4 gp.gateway))).append ?_
    have h6 := ((readsAll_addrSet hvia6 .ip6 (members6 gp)).append
      (readsAll_exclClause hlocal6 .ip6 "ip6 daddr" (locals6 gp.gateway))).unless
        (members6 gp).isEmpty
    rw [← List.flatMap_append] at h6
    rw [apply_ite (List.flatMap fun d : String × ElemSet => setBlock d.1 d.2), List.flatMap_nil]
    exact h6
  · refine ReadsAll.one ?_
    have hrule := reads_markRule hvia hlocal (!(locals4 gp.gateway).isEmpty) rfl
      (rfl : "0x" ++ hex (markOf gp) = _)
    simp only [exclClause_snd, List.isEmpty_map, markRule, exclMatch]
    cases h4 : (locals4 gp.gateway).isEmpty <;> simpa [h4] using hrule
  · cases he : gp.egress with
    | interface iface =>
        rw [he] at hegress
        simp only [snatRules, snatRule, he]
        cases gp.gateway.snatEnabled
        · exact .nil
        · exact ReadsAll.one (reads_masqueradeIface rfl hegress)
    | nextHop ip =>
        simp only [snatRules, snatRule, he]
        cases gp.gateway.snatEnabled
        · exact .nil
        · exact ReadsAll.one (reads_masquerade rfl)
    | unavailable why =>
        simp only [snatRules, snatRule, he]
        exact .nil
  · rw [List.map_append]
    refine ReadsAll.append ?_ ?_
    · have hrule := reads_killRule6 hvia6 hlocal6 (!(locals6 gp.gateway).isEmpty) rfl
      simp only [exclClause_snd, List.isEmpty_map, killRule6, exclMatch]
      cases (members6 gp).isEmpty
      · cases h6 : (locals6 gp.gateway).isEmpty <;>
          exact ReadsAll.one (by simpa [h6] using hrule)
      · exact .nil
    · cases he : gp.egress with
      | interface iface =>
          rw [he] at hegress
          simp only [killRules, killRule, he]
          exact ReadsAll.one (reads_dropIface rfl hegress)
      | nextHop ip =>
          simp only [killRules, killRule, he]
          exact .nil
      | unavailable why =>
          rw [he] at hegress
          simp only [killRules, killRule, he]
          exact ReadsAll.one (reads_dropAll rfl hegress)

omit [Libraries] in
lemma mapM_ok {α β : Type} {f : α → Except String β} {as : List α} {bs : List β}
    (h : as.mapM f = .ok bs) : List.Forall₂ (fun a b => f a = .ok b) as bs := by
  induction as generalizing bs with
  | nil => simp_all [pure, Except.pure]
  | cons a as ih =>
      rw [List.mapM_cons] at h
      obtain ⟨b, hb, h⟩ := bind_eq_ok.1 h
      obtain ⟨bs', hbs, h⟩ := bind_eq_ok.1 h
      obtain rfl := pure_eq_ok.1 h
      exact .cons hb (ih hbs)

/-- The lines of all gateways, part by part. -/
lemma readsAll_flatMap {gps : List GatewayPlan} {rules : List Rules} {part : Rules → List String}
    {meaning : GatewayPlan → List Line}
    (h : List.Forall₂ (fun gp r => gatewayRules gp = .ok r) gps rules)
    (hpart : ∀ gp ∈ gps, ∀ r, gatewayRules gp = .ok r → ReadsAll (part r) (meaning gp)) :
    ReadsAll (rules.flatMap part) (gps.flatMap meaning) := by
  induction h with
  | nil => exact .nil
  | cons hr _ ih =>
      rw [List.forall_mem_cons] at hpart
      exact (hpart.1 _ hr).append (ih hpart.2)

omit [Libraries] in
lemma ReadsAll.isEmpty_eq {as : List String} {ls : List Line} (h : ReadsAll as ls) :
    as.isEmpty = ls.isEmpty := by
  cases h <;> rfl

/-- The blocks of the chains of a plan. -/
lemma flatMap_chains (plan : Plan) :
    (chains plan).flatMap chainBlock =
      chainBlock ⟨"degc_mark", "filter", "prerouting", "mangle", plan.gateways.map markRule⟩ ++
        (if (plan.gateways.flatMap snatRule).isEmpty then []
          else chainBlock
            ⟨"degc_snat", "nat", "postrouting", "srcnat", plan.gateways.flatMap snatRule⟩) ++
        chainBlock ⟨"degc_killswitch", "filter", "forward", "filter",
          plan.gateways.flatMap fun gp => killRule6 gp ++ killRule gp⟩ := by
  rw [chains, List.flatMap_append, List.flatMap_append,
    apply_ite (List.flatMap chainBlock)]
  simp

/-- The script of a plan is read as the redefinition of the table with the sets and the rules of
the gateways. -/
theorem readScript_buildScript {plan : Plan} {script : String}
    (hplan : ∀ gp ∈ plan.gateways, PlainEgress gp.egress) (h : buildScript plan = .ok script) :
    readScript script =
      some (redefine "inet degc" (plan.gateways.flatMap setDefs) (chains plan)) := by
  simp only [buildScript, bind_eq_ok, pure_eq_ok] at h
  obtain ⟨rules, hrules, rfl⟩ := h
  have hall := mapM_ok hrules
  have hsets := readsAll_flatMap hall fun gp hgp r hr => (readsGateway (hplan gp hgp) hr).sets
  have hmark := readsAll_flatMap hall fun gp hgp r hr => (readsGateway (hplan gp hgp) hr).markRules
  have hsnat := readsAll_flatMap hall fun gp hgp r hr => (readsGateway (hplan gp hgp) hr).snatRules
  have hkill := readsAll_flatMap hall fun gp hgp r hr => (readsGateway (hplan gp hgp) hr).killRules
  have hhead : ReadsAll ["add table inet degc", "delete table inet degc", "table inet degc \x7b"]
      [.addTable "inet degc", .deleteTable "inet degc", .table "inet degc"] :=
    .cons (reads_unwords 0 ["add", "table", "inet", "degc"] (by decide) (by decide)
      (by decide)) (.cons (reads_unwords 0 ["delete", "table", "inet", "degc"]
        (by decide) (by decide) (by decide)) (ReadsAll.one (reads_unwords 0
          ["table", "inet", "degc", "\x7b"] (by decide) (by decide) (by decide))))
  have hmark' := readsAll_chain "degc_mark" "filter" "prerouting" "mangle" (by decide) (by decide)
    (by decide) (by decide) (plan.gateways.map markRule) (by
      rw [List.map_map, List.map_eq_flatMap]
      exact hmark)
  have hsnat' := (readsAll_chain "degc_snat" "nat" "postrouting" "srcnat" (by decide) (by decide)
    (by decide) (by decide) (plan.gateways.flatMap snatRule) (by
      rw [List.map_flatMap]
      exact hsnat)).unless (rules.flatMap (·.snatRules)).isEmpty
  have hkill' := readsAll_chain "degc_killswitch" "filter" "forward" "filter" (by decide)
    (by decide) (by decide) (by decide)
    (plan.gateways.flatMap fun gp => killRule6 gp ++ killRule gp) (by
      rw [List.map_flatMap]
      exact hkill)
  have hempty :
      (rules.flatMap (·.snatRules)).isEmpty = (plan.gateways.flatMap snatRule).isEmpty := by
    rw [hsnat.isEmpty_eq, ← List.map_flatMap, List.isEmpty_map]
  rw [hempty] at hsnat'
  refine readScript_unlines ?_
  rw [hempty, redefine, flatMap_chains, ← List.append_assoc, ← List.append_assoc,
    List.flatMap_assoc]
  exact ((((hhead.append hsets).append hmark').append hsnat').append hkill').append
    (ReadsAll.one (reads_close 0))

end Degc.Nft
