import Degc.Enforce.Compile
import Degc.Enforce.Templates
import Degc.Text.Blocks

/-!
# What the script and the commands of a plan tell about it

Two plans have the same script and the same commands exactly when their gateways
agree in everything the script and the commands are made of, which is less than
everything the plan says about them.  The main result is `hostState_eq_iff`.
-/

namespace Degc

open Net Text Netfilter
open Std (TreeSet)

/-! ### Blocks of a script -/

lemma setBlock_injective {n n' : String} {s s' : ElemSet} (h : setBlock n s = setBlock n' s') :
    n = n' ∧ s = s' := by
  obtain ⟨typ, interval, elems⟩ := s
  obtain ⟨typ', interval', elems'⟩ := s'
  cases interval <;> cases interval' <;> cases elems <;> cases elems' <;>
    simp_all [setBlock]

lemma chainBlock_injective : Function.Injective chainBlock := by
  rintro ⟨name, typ, hook, priority, rules⟩ ⟨name', typ', hook', priority', rules'⟩ h
  simp only [chainBlock, List.cons_append, List.nil_append, List.cons.injEq, Line.chain.injEq,
    Line.base.injEq] at h
  obtain ⟨rfl, ⟨rfl, rfl, rfl⟩, hrules⟩ := h
  have hrule : Function.Injective Line.rule := fun _ _ h => Line.rule.inj h
  rw [hrule.list_map (List.append_cancel_right hrules)]

/-- A line opens a set or a chain. -/
def Opens (l : Line) : Prop := (∃ n, l = .set n) ∨ ∃ n, l = .chain n

lemma marked_setBlock (d : String × ElemSet) : Blocks.Marked Opens (setBlock d.1 d.2) := by
  refine ⟨.set d.1, .type d.2.typ :: ((if d.2.interval then [.interval] else []) ++
    ((if d.2.elems.isEmpty then [] else [.elements d.2.elems]) ++ [.close])), ?_, Or.inl ⟨_, rfl⟩,
    fun l hl => ?_⟩
  · simp [setBlock]
  · simp only [List.mem_cons, List.mem_append, List.not_mem_nil, or_false] at hl
    rcases hl with rfl | hl | hl | rfl
    · simp [Opens]
    · split at hl <;> simp_all [Opens]
    · split at hl <;> simp_all [Opens]
    · simp [Opens]

lemma marked_chainBlock (c : Chain) : Blocks.Marked Opens (chainBlock c) := by
  refine ⟨.chain c.name, .base c.typ c.hook c.priority :: (c.rules.map .rule ++ [.close]), rfl,
    Or.inr ⟨_, rfl⟩, fun l hl => ?_⟩
  simp only [List.mem_cons, List.mem_append, List.mem_map, List.not_mem_nil, or_false] at hl
  rcases hl with rfl | ⟨r, -, rfl⟩ | rfl <;> simp [Opens]

/-- The definitions and the chains are read off the lines that redefine a table. -/
lemma redefine_injective {key : String} {defs defs' : List (String × ElemSet)}
    {chains chains' : List Chain} (h : redefine key defs chains = redefine key defs' chains') :
    defs = defs' ∧ chains = chains' := by
  simp only [redefine, List.append_assoc] at h
  have h := List.append_cancel_left h
  rw [← List.append_assoc, ← List.append_assoc] at h
  have h := List.append_cancel_right h
  -- the blocks of the sets and of the chains, as one list
  have hblocks : ∀ (defs : List (String × ElemSet)) (chains : List Chain),
      (defs.flatMap fun d => setBlock d.1 d.2) ++ chains.flatMap chainBlock =
        (defs.map (fun d => setBlock d.1 d.2) ++ chains.map chainBlock).flatten := by
    intro defs chains
    rw [List.flatten_append, List.flatMap_def, List.flatMap_def]
  have hmarked : ∀ (defs : List (String × ElemSet)) (chains : List Chain),
      ∀ b ∈ defs.map (fun d => setBlock d.1 d.2) ++ chains.map chainBlock,
        Blocks.Marked Opens b := by
    intro defs chains b hb
    rw [List.mem_append, List.mem_map, List.mem_map] at hb
    rcases hb with ⟨d, -, rfl⟩ | ⟨c, -, rfl⟩
    · exact marked_setBlock d
    · exact marked_chainBlock c
  rw [hblocks, hblocks] at h
  have h := Blocks.flatten_inj_of_marked (hmarked _ _) (hmarked _ _) h
  have hset : ∀ (defs : List (String × ElemSet)), ∀ b ∈ defs.map (fun d => setBlock d.1 d.2),
      ¬ ∃ c, b = chainBlock c := by
    intro defs b hb
    obtain ⟨d, -, rfl⟩ := List.mem_map.1 hb
    rintro ⟨c, hc⟩
    simp [setBlock, chainBlock] at hc
  have hchain : ∀ (chains : List Chain), ∀ b ∈ (chains.map chainBlock).head?,
      ∃ c, b = chainBlock c := by
    intro chains b hb
    cases chains with
    | nil => simp at hb
    | cons c cs => exact ⟨c, by simpa using hb.symm⟩
  obtain ⟨hdefs, hchains⟩ := Blocks.append_inj_of_marked (hset _) (hset _) (hchain _) (hchain _) h
  refine ⟨Function.Injective.list_map (fun d d' hd => ?_) hdefs,
    chainBlock_injective.list_map hchains⟩
  obtain ⟨hname, hset⟩ := setBlock_injective hd
  exact Prod.ext hname hset

/-! ### The sets of a gateway -/

namespace Nft

variable [Libraries]

/-- The elements of the sets whose names begin in a given way. -/
def elemsBeginning (b : String) (defs : List (String × ElemSet)) : List Cidr :=
  (defs.filter fun d => b.toList.isPrefixOf d.1.toList).flatMap (·.2.elems)

omit [Libraries] in
/-- How the name of a set begins. -/
lemma isPrefixOf_pre {a b : String} (ha : a ∈ pres) (hb : b ∈ pres) (s : String) :
    a.toList.isPrefixOf (b ++ s).toList = decide (a = b) := by
  rw [Bool.eq_iff_iff, List.isPrefixOf_iff_prefix, decide_eq_true_eq]
  constructor
  · rintro ⟨t, ht⟩
    refine (pre_inj ha hb (u := String.ofList t) (v := s) ?_).1
    rw [← String.toList_inj, String.toList_append, String.toList_ofList, ht]
  · rintro rfl
    exact ⟨s.toList, (String.toList_append).symm⟩

omit [Libraries] in
lemma elemsBeginning_append (b : String) (ds es : List (String × ElemSet)) :
    elemsBeginning b (ds ++ es) = elemsBeginning b ds ++ elemsBeginning b es := by
  rw [elemsBeginning, List.filter_append, List.flatMap_append]
  rfl

omit [Libraries] in
lemma elemsBeginning_addrSet {a b : String} (ha : a ∈ pres) (hb : b ∈ pres) (s : String)
    (f : Family) (as : List IpAddr) :
    elemsBeginning b [(a ++ s, addrSet f as)] = if b = a then as.map .single else [] := by
  rw [elemsBeginning, List.filter_cons, isPrefixOf_pre hb ha]
  by_cases h : b = a <;> simp [h, addrSet]

omit [Libraries] in
lemma elemsBeginning_exclDefs {a b : String} (ha : a ∈ pres) (hb : b ∈ pres) (s : String)
    (f : Family) (ns : List IpNetwork) :
    elemsBeginning b (exclDefs (a ++ s) f ns) = if b = a then ns.map (·.toCidr) else [] := by
  cases ns with
  | nil => simp [exclDefs, elemsBeginning]
  | cons n ns =>
      rw [elemsBeginning, exclDefs, if_neg (by simp), List.filter_cons, isPrefixOf_pre hb ha]
      by_cases h : b = a <;> simp [h, netSet]

lemma elemsBeginning_setDefs {b : String} (hb : b ∈ pres) (gp : GatewayPlan) :
    elemsBeginning b (setDefs gp) =
      (if b = "degc_via_" then (members4 gp).map .single else []) ++
        (if b = "degc_local_" then (locals4 gp.gateway).map (·.toCidr) else []) ++
        if (members6 gp).isEmpty then []
        else (if b = "degc_via6_" then (members6 gp).map .single else []) ++
          if b = "degc_local6_" then (locals6 gp.gateway).map (·.toCidr) else [] := by
  simp only [setDefs, elemsBeginning_append, viaName, localName, via6Name, local6Name]
  congr 1
  · congr 1
    · exact elemsBeginning_addrSet (by decide) hb _ _ _
    · exact elemsBeginning_exclDefs (by decide) hb _ _ _
  · split
    · rfl
    · rw [elemsBeginning_append]
      congr 1
      · exact elemsBeginning_addrSet (by decide) hb _ _ _
      · exact elemsBeginning_exclDefs (by decide) hb _ _ _

omit [Libraries] in
lemma single_injective : Function.Injective Cidr.single := by
  intro a b h
  simpa [Cidr.single] using congrArg Cidr.addr h

omit [Libraries] in
lemma toCidr_injective : Function.Injective IpNetwork.toCidr := by
  rintro ⟨c, hc⟩ ⟨d, hd⟩ h
  simpa using h

/-- What the sets of a gateway tell about it. -/
lemma setDefs_injective {gp gp' : GatewayPlan} (h : setDefs gp = setDefs gp') :
    sanitize gp.gateway.name = sanitize gp'.gateway.name ∧ members4 gp = members4 gp' ∧
      members6 gp = members6 gp' ∧ locals4 gp.gateway = locals4 gp'.gateway ∧
      (members6 gp ≠ [] → locals6 gp.gateway = locals6 gp'.gateway) := by
  have helems (b : String) (hb : b ∈ pres) := (elemsBeginning_setDefs hb gp).symm.trans
    ((congrArg (elemsBeginning b) h).trans (elemsBeginning_setDefs hb gp'))
  have hvia := helems "degc_via_" (by decide)
  have hloc := helems "degc_local_" (by decide)
  have hvia6 := helems "degc_via6_" (by decide)
  have hloc6 := helems "degc_local6_" (by decide)
  simp only [String.reduceEq, if_true, if_false, List.nil_append, List.append_nil, ite_self]
    at hvia hloc hvia6 hloc6
  have hname : viaName gp.gateway = viaName gp'.gateway := by
    have hhead := congrArg (fun ds => ds.head?.map (·.1)) h
    simpa [setDefs] using hhead
  have hmembers6 : members6 gp = members6 gp' := by
    refine single_injective.list_map ?_
    have hite (as : List IpAddr) :
        (if as.isEmpty then [] else as.map Cidr.single) = as.map Cidr.single := by
      cases as <;> rfl
    rwa [hite, hite] at hvia6
  refine ⟨?_, single_injective.list_map hvia, hmembers6, toCidr_injective.list_map hloc,
    fun hne => ?_⟩
  · simpa [viaName] using hname
  · rw [← hmembers6, if_neg (by simpa using hne), if_neg (by simpa using hne)] at hloc6
    exact toCidr_injective.list_map hloc6

end Nft

/-! ### The commands of a gateway -/

/-- Two egresses are the same, but for the reason why they are unavailable. -/
def AlikeEgress (e e' : Egress) : Prop :=
  e = e' ∨ ∃ why why', e = .unavailable why ∧ e' = .unavailable why'

namespace Route

variable [Libraries]

/-- What the commands of a gateway tell about it: its table, its mark and its egress, but for the
reason why it is unavailable. -/
lemma cmdsOf_injective {gp gp' : GatewayPlan} (h : cmdsOf gp = cmdsOf gp') :
    gp.gateway.tableId = gp'.gateway.tableId ∧
      gp.gateway.effectiveMark = gp'.gateway.effectiveMark ∧
      AlikeEgress gp.egress gp'.egress := by
  simp only [cmdsOf, List.cons.injEq, and_true, floorCmd, ruleCmd, IpCmd.mk.injEq, true_and] at h
  obtain ⟨htable, ⟨hmark, -⟩, hlive⟩ := h
  have htableId : gp.gateway.tableId = gp'.gateway.tableId :=
    UInt32.toNat_inj.1 (repr_injective htable)
  have hmarkOf : Nft.markOf gp = Nft.markOf gp' :=
    hex_injective ((String.append_right_inj "0x").1 hmark)
  refine ⟨htableId, UInt32.toNat_inj.1 hmarkOf, ?_⟩
  rw [htable] at hlive
  cases he : gp.egress <;> cases he' : gp'.egress <;> rw [he, he'] at hlive <;>
    simp [liveCmd, showIp_injective.eq_iff, AlikeEgress] at hlive ⊢
  · exact hlive
  · exact hlive

end Route

/-! ### The rules of a plan -/

variable [Libraries]

/-- Two gateways of plans agree in everything the script and the commands are made of. -/
structure GatewayPlan.SameRules (gp gp' : GatewayPlan) : Prop where
  name : Nft.sanitize gp.gateway.name = Nft.sanitize gp'.gateway.name
  mark : gp.gateway.effectiveMark = gp'.gateway.effectiveMark
  table : gp.gateway.tableId = gp'.gateway.tableId
  egress : gp.egress = gp'.egress
  members : ∀ ip, ip ∈ gp.members ↔ ip ∈ gp'.members
  locals4 : Nft.locals4 gp.gateway = Nft.locals4 gp'.gateway
  /-- Without an IPv6 member the IPv6 networks are not in the script. -/
  locals6 : (∃ ip ∈ gp.members, ip.isIpv6 = true) →
    Nft.locals6 gp.gateway = Nft.locals6 gp'.gateway
  /-- Without an egress there is nothing to masquerade. -/
  snat : (∀ why, gp.egress ≠ .unavailable why) →
    gp.gateway.snatEnabled = gp'.gateway.snatEnabled

/-- The script and the commands of a plan, if it compiles. -/
def hostState (p : Plan) : Option (String × List Route.IpCmd) :=
  (Enforce.compile p).toOption.map fun d => (d.nft, d.ip)

namespace Nft

omit [Libraries] in
lemma mem_members_iff {gp : GatewayPlan} {ip : IpAddr} :
    ip ∈ gp.members ↔ ip ∈ members4 gp ∨ ip ∈ members6 gp := by
  simp only [members4, members6, List.mem_filter, TreeSet.mem_toList, IpAddr.isIpv6_eq_not]
  cases ip.isIpv4 <;> simp

omit [Libraries] in
lemma members6_ne_nil {gp : GatewayPlan} :
    members6 gp ≠ [] ↔ ∃ ip ∈ gp.members, ip.isIpv6 = true := by
  constructor
  · intro h
    obtain ⟨ip, hip⟩ := List.exists_mem_of_ne_nil _ h
    rw [members6, List.mem_filter, TreeSet.mem_toList] at hip
    exact ⟨ip, hip⟩
  · rintro ⟨ip, hip, h6⟩
    refine List.ne_nil_of_mem (a := ip) ?_
    rw [members6, List.mem_filter, TreeSet.mem_toList]
    exact ⟨hip, h6⟩

/-- The lines of a gateway whose mark is a number. -/
def rulesOf (gp : GatewayPlan) : Rules :=
  (gatewayRules gp).toOption.getD ⟨[], [], [], []⟩

lemma gatewayRules_eq {gp : GatewayPlan} (h : gp.gateway.markValue = .ok gp.gateway.effectiveMark) :
    gatewayRules gp = .ok (rulesOf gp) := by
  have hok : ∃ r, gatewayRules gp = .ok r := ⟨_, by rw [gatewayRules, h]; rfl⟩
  obtain ⟨r, hr⟩ := hok
  rw [rulesOf, hr]
  rfl

/-- Gateways that agree in what the script is made of have the same lines. -/
lemma gatewayRules_congr {gp gp' : GatewayPlan} (h : gp.SameRules gp')
    (hmark : gp.gateway.markValue = .ok gp.gateway.effectiveMark)
    (hmark' : gp'.gateway.markValue = .ok gp'.gateway.effectiveMark) :
    gatewayRules gp = gatewayRules gp' := by
  have hlist : gp.members.toList = gp'.members.toList :=
    (TreeSet.Equiv.of_forall_mem_iff fun ip => h.members ip).toList_eq
  have h4 : members4 gp = members4 gp' := by rw [members4, members4, hlist]
  have h6 : members6 gp = members6 gp' := by rw [members6, members6, hlist]
  have hsnat : ∀ mark, snatRules mark gp.gateway.snatEnabled gp.egress =
      snatRules mark gp'.gateway.snatEnabled gp'.egress := by
    intro mark
    rw [← h.egress]
    cases he : gp.egress with
    | unavailable why => rfl
    | _ => rw [h.snat (by simp [he])]
  have hvia : viaName gp.gateway = viaName gp'.gateway := by rw [viaName, viaName, h.name]
  have hlocal : localName gp.gateway = localName gp'.gateway := by
    rw [localName, localName, h.name]
  have hvia6 : via6Name gp.gateway = via6Name gp'.gateway := by rw [via6Name, via6Name, h.name]
  have hlocal6 : local6Name gp.gateway = local6Name gp'.gateway := by
    rw [local6Name, local6Name, h.name]
  rw [gatewayRules, gatewayRules, hmark, hmark', h.mark, h.locals4, hvia, hlocal, hvia6, hlocal6,
    h4, ← h6]
  refine congrArg Except.ok (Rules.mk.injEq .. ▸ ⟨?_, rfl, hsnat _, ?_⟩)
  · by_cases hne : members6 gp = []
    · rw [hne, List.isEmpty_nil, if_pos rfl, if_pos rfl]
    · rw [h.locals6 (members6_ne_nil.1 hne)]
  · rw [h.egress]
    by_cases hne : members6 gp = []
    · rw [hne, List.isEmpty_nil, if_pos rfl, if_pos rfl]
    · rw [h.locals6 (members6_ne_nil.1 hne)]

/-- What the rules over masqueraded traffic tell about a gateway, by its mark. -/
lemma snatEnabled_of_mem {gps : List GatewayPlan} {gp gp' : GatewayPlan} (hgp' : gp' ∈ gps)
    (hmarks : (gps.map fun gp => gp.gateway.effectiveMark).Nodup)
    (hmark : gp.gateway.effectiveMark = gp'.gateway.effectiveMark)
    (hegress : ∀ why, gp.egress ≠ .unavailable why) (hsnat : gp.gateway.snatEnabled = true)
    (hmem : ∀ r ∈ snatRule gp, r ∈ gps.flatMap snatRule) : gp'.gateway.snatEnabled = true := by
  have hfirst : ∀ gp : GatewayPlan, ∀ r ∈ snatRule gp,
      r.head? = some (.mark (markOf gp)) ∧ gp.gateway.snatEnabled = true := by
    intro gp r hr
    rw [snatRule] at hr
    cases he : gp.egress with
    | unavailable why => simp [he] at hr
    | _ =>
        cases hs : gp.gateway.snatEnabled with
        | false => simp [he, hs] at hr
        | true =>
            simp only [he, hs, if_true, List.mem_singleton] at hr
            simp [hr]
  obtain ⟨r, hr⟩ : ∃ r, r ∈ snatRule gp := by
    rw [snatRule]
    cases he : gp.egress with
    | unavailable why => exact absurd he (hegress why)
    | _ => simp [hsnat]
  obtain ⟨gp'', hgp'', hr''⟩ := List.mem_flatMap.1 (hmem r hr)
  -- the rule begins with the mark, which belongs to one gateway
  have hsame : markOf gp = markOf gp'' := by
    simpa [(hfirst gp r hr).1] using (hfirst gp'' r hr'').1
  have heq : gp'' = gp' := List.inj_on_of_nodup_map hmarks hgp'' hgp'
    (by rw [← hmark]; exact (UInt32.toNat_inj.1 hsame).symm)
  exact heq ▸ (hfirst gp'' r hr'').2

omit [Libraries] in
lemma FitEgress.plain {e : Egress} (h : FitEgress e) : PlainEgress e := by
  cases e with
  | interface iface => exact isToken_of_validIfname h
  | nextHop ip => trivial
  | unavailable why => exact fun c hc => by simpa [isLineChar] using h c hc

/-- The lines over marked traffic of a gateway. -/
lemma killRules_rulesOf {gp : GatewayPlan}
    (hmark : gp.gateway.markValue = .ok gp.gateway.effectiveMark) :
    (rulesOf gp).killRules = (if (members6 gp).isEmpty then []
      else [s!"        ip6 saddr @{via6Name gp.gateway}" ++ (exclClause (local6Name gp.gateway)
        "ipv6_addr" "ip6 daddr" ((locals6 gp.gateway).map (·.toText))).2 ++ " drop"]) ++
      killRules ("0x" ++ hex (markOf gp)) gp.egress := by
  rw [rulesOf, gatewayRules, hmark, networkToString_eq]
  rfl

/-- The script of a plan whose marks are numbers. -/
lemma buildScript_eq {p : Plan}
    (hmark : ∀ gp ∈ p.gateways, gp.gateway.markValue = .ok gp.gateway.effectiveMark) :
    buildScript p = .ok (unlines (
      ["add table inet degc", "delete table inet degc", "table inet degc \x7b"] ++
        (p.gateways.map rulesOf).flatMap (·.sets) ++
        chain "degc_mark" "filter" "prerouting" "mangle"
          ((p.gateways.map rulesOf).flatMap (·.markRules)) ++
        (if ((p.gateways.map rulesOf).flatMap (·.snatRules)).isEmpty then []
          else chain "degc_snat" "nat" "postrouting" "srcnat"
            ((p.gateways.map rulesOf).flatMap (·.snatRules))) ++
        chain "degc_killswitch" "filter" "forward" "filter"
          ((p.gateways.map rulesOf).flatMap (·.killRules)) ++
        ["\x7d"])) := by
  rw [buildScript, Route.mapM_of_ok fun gp hgp => gatewayRules_eq (hmark gp hgp)]
  rfl

/-- The reason why a gateway is unavailable stands nowhere but in the third chain. -/
lemma rulesOf_alike {gp : GatewayPlan} {e : Egress} (h : AlikeEgress e gp.egress) :
    (rulesOf { gp with egress := e }).sets = (rulesOf gp).sets ∧
      (rulesOf { gp with egress := e }).markRules = (rulesOf gp).markRules ∧
      (rulesOf { gp with egress := e }).snatRules = (rulesOf gp).snatRules := by
  rcases h with rfl | ⟨why, why', rfl, he⟩
  · exact ⟨rfl, rfl, rfl⟩
  · rw [rulesOf, rulesOf, gatewayRules, gatewayRules]
    cases gp.gateway.markValue with
    | error cause => exact ⟨rfl, rfl, rfl⟩
    | ok m =>
        refine ⟨rfl, rfl, ?_⟩
        simp only [he]
        rfl

/-- The third chain tells the reasons why gateways are unavailable. -/
lemma egress_of_killRules {gp gp' : GatewayPlan}
    (hmark : gp.gateway.markValue = .ok gp.gateway.effectiveMark)
    (hmark' : gp'.gateway.markValue = .ok gp'.gateway.effectiveMark)
    (hm : markOf gp = markOf gp') (h6 : members6 gp = members6 gp')
    (halike : AlikeEgress gp.egress gp'.egress)
    (h : (rulesOf gp).killRules = (rulesOf gp').killRules) : gp.egress = gp'.egress := by
  rcases halike with he | ⟨why, why', he, he'⟩
  · exact he
  · rw [killRules_rulesOf hmark, killRules_rulesOf hmark', he, he', ← h6, hm] at h
    obtain ⟨-, hwhy⟩ := List.append_inj' h rfl
    have hwhy := (List.cons.inj hwhy).1
    have hsame : why = why' := (String.append_right_inj _).1 hwhy
    rw [he, he', hsame]

lemma length_killRules {gp gp' : GatewayPlan}
    (hmark : gp.gateway.markValue = .ok gp.gateway.effectiveMark)
    (hmark' : gp'.gateway.markValue = .ok gp'.gateway.effectiveMark)
    (h6 : members6 gp = members6 gp') (halike : AlikeEgress gp.egress gp'.egress) :
    (rulesOf gp).killRules.length = (rulesOf gp').killRules.length := by
  rw [killRules_rulesOf hmark, killRules_rulesOf hmark', List.length_append, List.length_append,
    ← h6]
  congr 1
  · split <;> rfl
  · rcases halike with he | ⟨why, why', he, he'⟩
    · rw [he]
      cases gp'.egress <;> rfl
    · rw [he, he']
      rfl

/-- The first set of a gateway, and no other one, is named as one of IPv4 members. -/
lemma marked_setDefs (gp : GatewayPlan) :
    Blocks.Marked (fun d => ∃ s, d.1 = "degc_via_" ++ s) (setDefs gp) := by
  refine ⟨_, exclDefs (localName gp.gateway) .ip (locals4 gp.gateway) ++
    if (members6 gp).isEmpty then [] else [(via6Name gp.gateway, addrSet .ip6 (members6 gp))] ++
      exclDefs (local6Name gp.gateway) .ip6 (locals6 gp.gateway), rfl,
    ⟨sanitize gp.gateway.name, rfl⟩, ?_⟩
  rintro d hd ⟨s, hs⟩
  have hname : ∃ b ∈ pres, b ≠ "degc_via_" ∧ d.1 = b ++ sanitize gp.gateway.name := by
    rw [List.mem_append] at hd
    rcases hd with hd | hd
    · rw [exclDefs] at hd
      split at hd
      · simp at hd
      · rw [List.mem_singleton.1 hd]
        exact ⟨"degc_local_", by decide, by decide, rfl⟩
    · split at hd
      · simp at hd
      · rcases List.mem_append.1 hd with hd | hd
        · rw [List.mem_singleton.1 hd]
          exact ⟨"degc_via6_", by decide, by decide, rfl⟩
        · rw [exclDefs] at hd
          split at hd
          · simp at hd
          · rw [List.mem_singleton.1 hd]
            exact ⟨"degc_local6_", by decide, by decide, rfl⟩
  obtain ⟨b, hb, hne, hd⟩ := hname
  exact hne (pre_inj hb (by decide) (hd.symm.trans hs)).1

/-- The sets and the chains of a plan are read off its script. -/
lemma script_injective {p q : Plan} {script : String}
    (hp : ∀ gp ∈ p.gateways, FitEgress gp.egress) (hq : ∀ gp ∈ q.gateways, FitEgress gp.egress)
    (h : buildScript p = .ok script) (h' : buildScript q = .ok script) :
    List.Forall₂ (fun gp gp' => setDefs gp = setDefs gp') p.gateways q.gateways ∧
      p.gateways.flatMap snatRule = q.gateways.flatMap snatRule := by
  have hread := readScript_buildScript (fun gp hgp => (hp gp hgp).plain) h
  rw [readScript_buildScript (fun gp hgp => (hq gp hgp).plain) h', Option.some.injEq] at hread
  obtain ⟨hdefs, hchains⟩ := redefine_injective hread.symm
  constructor
  · -- the first set of a gateway is the one of its IPv4 members
    have hmarked : ∀ (gps : List GatewayPlan), ∀ b ∈ gps.map setDefs,
        Blocks.Marked (fun d => ∃ s, d.1 = "degc_via_" ++ s) b := by
      intro gps b hb
      obtain ⟨gp, -, rfl⟩ := List.mem_map.1 hb
      exact marked_setDefs gp
    rw [List.flatMap_def, List.flatMap_def] at hdefs
    exact Blocks.forall₂_of_map_eq
      (Blocks.flatten_inj_of_marked (hmarked _) (hmarked _) hdefs)
  · simp only [chains, List.cons_append, List.nil_append, List.cons.injEq] at hchains
    have hsnat := hchains.2
    cases hs : (p.gateways.flatMap snatRule).isEmpty <;>
      cases hs' : (q.gateways.flatMap snatRule).isEmpty <;> simp [hs, hs'] at hsnat
    · exact hsnat.1
    · rw [List.isEmpty_iff.1 hs, List.isEmpty_iff.1 hs']

/-- The third chain is read off the script of a plan, when the rest of it is known. -/
lemma killRules_injective {p q : Plan} {script : String}
    (hp : ∀ gp ∈ p.gateways, FitEgress gp.egress) (hq : ∀ gp ∈ q.gateways, FitEgress gp.egress)
    (hmark : ∀ gp ∈ p.gateways, gp.gateway.markValue = .ok gp.gateway.effectiveMark)
    (hmark' : ∀ gp ∈ q.gateways, gp.gateway.markValue = .ok gp.gateway.effectiveMark)
    (h : buildScript p = .ok script) (h' : buildScript q = .ok script)
    (hrest : List.Forall₂ (fun gp gp' => (rulesOf gp).sets = (rulesOf gp').sets ∧
      (rulesOf gp).markRules = (rulesOf gp').markRules ∧
      (rulesOf gp).snatRules = (rulesOf gp').snatRules) p.gateways q.gateways) :
    p.gateways.flatMap (fun gp => (rulesOf gp).killRules) =
      q.gateways.flatMap fun gp => (rulesOf gp).killRules := by
  have hsets := Blocks.flatMap_eq_of_forall₂ (hrest.imp fun _ _ h => h.1)
  have hmarks := Blocks.flatMap_eq_of_forall₂ (hrest.imp fun _ _ h => h.2.1)
  have hsnats := Blocks.flatMap_eq_of_forall₂ (hrest.imp fun _ _ h => h.2.2)
  rw [buildScript_eq hmark] at h
  rw [buildScript_eq hmark', ← h, Except.ok.injEq] at h'
  simp only [List.flatMap_map, hsets, hmarks, hsnats, unlines_append] at h'
  have hchain := (String.append_right_inj _).1 ((String.append_left_inj _).1 h')
  simp only [chain, unlines_append] at hchain
  have hlines := (String.append_right_inj _).1 ((String.append_left_inj _).1 hchain)
  -- the lines of the chain stay on their lines
  have hread : ∀ (p : Plan), (∀ gp ∈ p.gateways, FitEgress gp.egress) →
      (∀ gp ∈ p.gateways, gp.gateway.markValue = .ok gp.gateway.effectiveMark) →
      lines (unlines (p.gateways.flatMap fun gp => (rulesOf gp).killRules)) =
        p.gateways.flatMap fun gp => (rulesOf gp).killRules := by
    intro p hp hmark
    have hall := mapM_ok (Route.mapM_of_ok fun gp hgp => gatewayRules_eq (hmark gp hgp))
    have hkill := renders_flatMap (·.killRules) Shape.kills hall fun gp hgp r hr =>
      (rendersGateway (hp gp hgp) hr).killRules
    rw [List.flatMap_map] at hkill
    exact hkill.lines_unlines
  rw [← hread p hp hmark, ← hread q hq hmark', ← hlines]

end Nft

/-! ### The main result -/

open Nft Route in
/-- Gateways with the same sets and the same commands agree, but for the reasons why they are
unavailable. -/
lemma alike_of_eq {p q : Plan} (hapart : p.mergedGateways.RoutesApart)
    (hapart' : q.mergedGateways.RoutesApart)
    (hsnat : p.gateways.flatMap snatRule = q.gateways.flatMap snatRule) {gp gp' : GatewayPlan}
    (hgp : gp ∈ p.gateways) (hgp' : gp' ∈ q.gateways) (hdefs : setDefs gp = setDefs gp')
    (hcmds : cmdsOf gp = cmdsOf gp') :
    gp.SameRules { gp' with egress := gp.egress } ∧ AlikeEgress gp.egress gp'.egress ∧
      members6 gp = members6 gp' := by
  have hnodup : ∀ {gps : List GatewayPlan}, Gateways.RoutesApart (gps.map (·.gateway)) →
      (gps.map fun gp => gp.gateway.effectiveMark).Nodup := by
    intro gps h
    simpa [Function.comp_def] using h.marks
  obtain ⟨hname, h4, h6, hlocals4, hlocals6⟩ := setDefs_injective hdefs
  obtain ⟨htable, hmarks, halike⟩ := cmdsOf_injective hcmds
  refine ⟨⟨hname, hmarks, htable, rfl, fun ip => ?_, hlocals4,
    fun h => hlocals6 (members6_ne_nil.2 h), fun hegress => ?_⟩, halike, h6⟩
  · rw [mem_members_iff, h4, h6, ← mem_members_iff]
  · have hegress' : ∀ why, gp'.egress ≠ .unavailable why := by
      intro why he
      rcases halike with hsame | ⟨why', _, hsame, -⟩
      · exact hegress why (hsame.trans he)
      · exact hegress why' hsame
    rw [Bool.eq_iff_iff]
    constructor
    · intro hs
      change gp'.gateway.snatEnabled = true
      refine snatEnabled_of_mem hgp' (hnodup hapart') hmarks hegress hs ?_
      rw [← hsnat]
      exact fun r hr => List.mem_flatMap.2 ⟨gp, hgp, hr⟩
    · intro hs
      refine snatEnabled_of_mem hgp (hnodup hapart) hmarks.symm hegress' hs ?_
      rw [hsnat]
      exact fun r hr => List.mem_flatMap.2 ⟨gp', hgp', hr⟩

open Nft Route in
/-- Plans with the same script and the same commands have gateways that agree in everything these
are made of. -/
lemma sameRules_of_eq {p q : Plan} {d d' : Desired}
    (hp : ∀ gp ∈ p.gateways, FitEgress gp.egress) (hq : ∀ gp ∈ q.gateways, FitEgress gp.egress)
    (hd : Enforce.compile p = .ok d) (hd' : Enforce.compile q = .ok d') (hnft : d.nft = d'.nft)
    (hip : d.ip = d'.ip) : List.Forall₂ GatewayPlan.SameRules p.gateways q.gateways := by
  obtain ⟨hapart, hscript, -, -⟩ := compile_eq_ok hd
  obtain ⟨hapart', hscript', -, -⟩ := compile_eq_ok hd'
  have hmark := markValue_of_apart hapart
  have hmark' := markValue_of_apart hapart'
  rw [← hnft] at hscript'
  obtain ⟨hdefs, hsnat⟩ := script_injective hp hq hscript hscript'
  have hcmds : List.Forall₂ (fun gp gp' => cmdsOf gp = cmdsOf gp') p.gateways q.gateways := by
    refine Blocks.forall₂_of_flatMap_eq (hdefs.imp fun _ _ _ => rfl) ?_
    rw [← (compile_ip hd).1, ← (compile_ip hd').1, hip]
  obtain ⟨hlen, hdefs⟩ := List.forall₂_iff_zip.1 hdefs
  obtain ⟨-, hcmds⟩ := List.forall₂_iff_zip.1 hcmds
  have hweak : ∀ {gp gp' : GatewayPlan}, (gp, gp') ∈ p.gateways.zip q.gateways →
      gp.SameRules { gp' with egress := gp.egress } ∧ AlikeEgress gp.egress gp'.egress ∧
        members6 gp = members6 gp' := by
    intro gp gp' hz
    obtain ⟨hgp, hgp'⟩ := List.of_mem_zip hz
    exact alike_of_eq hapart hapart' hsnat hgp hgp' (hdefs hz) (hcmds hz)
  have hrest : List.Forall₂ (fun gp gp' => (rulesOf gp).sets = (rulesOf gp').sets ∧
      (rulesOf gp).markRules = (rulesOf gp').markRules ∧
      (rulesOf gp).snatRules = (rulesOf gp').snatRules) p.gateways q.gateways := by
    refine List.forall₂_iff_zip.2 ⟨hlen, fun {gp gp'} hz => ?_⟩
    obtain ⟨hgp, hgp'⟩ := List.of_mem_zip hz
    obtain ⟨hsame, halike, -⟩ := hweak hz
    have hrules : rulesOf gp = rulesOf { gp' with egress := gp.egress } := by
      rw [rulesOf, rulesOf, gatewayRules_congr hsame (hmark gp hgp) (hmark' gp' hgp')]
    obtain ⟨hsets, hmarks, hsnats⟩ := rulesOf_alike halike
    rw [hrules]
    exact ⟨hsets, hmarks, hsnats⟩
  -- the reasons stand in the third chain
  have hkill := Blocks.forall₂_of_flatMap_eq (List.forall₂_iff_zip.2 ⟨hlen, fun {gp gp'} hz =>
    length_killRules (hmark gp (List.of_mem_zip hz).1) (hmark' gp' (List.of_mem_zip hz).2)
      (hweak hz).2.2 (hweak hz).2.1⟩)
    (killRules_injective hp hq hmark hmark' hscript hscript' hrest)
  refine List.forall₂_iff_zip.2 ⟨hlen, fun {gp gp'} hz => ?_⟩
  obtain ⟨hgp, hgp'⟩ := List.of_mem_zip hz
  obtain ⟨hsame, halike, h6⟩ := hweak hz
  have hegress : gp.egress = gp'.egress := egress_of_killRules (hmark gp hgp) (hmark' gp' hgp')
    (congrArg UInt32.toNat hsame.mark) h6 halike ((List.forall₂_iff_zip.1 hkill).2 hz)
  rw [hegress] at hsame
  exact hsame

open Nft Route in
/-- Plans with gateways that agree have the same script and the same commands. -/
lemma eq_of_sameRules {p q : Plan} {d d' : Desired} (hd : Enforce.compile p = .ok d)
    (hd' : Enforce.compile q = .ok d')
    (h : List.Forall₂ GatewayPlan.SameRules p.gateways q.gateways) :
    d.nft = d'.nft ∧ d.ip = d'.ip := by
  obtain ⟨hapart, hscript, -, -⟩ := compile_eq_ok hd
  obtain ⟨hapart', hscript', -, -⟩ := compile_eq_ok hd'
  have hmark := markValue_of_apart hapart
  have hmark' := markValue_of_apart hapart'
  obtain ⟨hlen, hsame⟩ := List.forall₂_iff_zip.1 h
  have hrules : p.gateways.map rulesOf = q.gateways.map rulesOf := by
    rw [← List.forall₂_eq_eq_eq, List.forall₂_map_left_iff, List.forall₂_map_right_iff]
    refine List.forall₂_iff_zip.2 ⟨hlen, fun {gp gp'} hz => ?_⟩
    obtain ⟨hgp, hgp'⟩ := List.of_mem_zip hz
    rw [rulesOf, rulesOf, gatewayRules_congr (hsame hz) (hmark gp hgp) (hmark' gp' hgp')]
  constructor
  · rw [buildScript_eq hmark, hrules, ← buildScript_eq hmark', hscript'] at hscript
    exact (Except.ok.inj hscript).symm
  · rw [(compile_ip hd).1, (compile_ip hd').1]
    refine Blocks.flatMap_eq_of_forall₂ (h.imp fun gp gp' hs => ?_)
    rw [cmdsOf, cmdsOf, tableText, tableText, markText, markText, markOf, markOf, hs.table,
      hs.mark, hs.egress]

lemma hostState_eq_none {p : Plan} : hostState p = none ↔ ¬ p.mergedGateways.RoutesApart := by
  rw [hostState, Option.map_eq_none_iff]
  constructor
  · intro h hapart
    obtain ⟨d, hd⟩ := exists_compile hapart
    simp [hd, Except.toOption] at h
  · intro h
    cases hc : Enforce.compile p with
    | error e => rfl
    | ok d => exact absurd (Nft.compile_eq_ok hc).1 h

lemma hostState_eq_some {p : Plan} {d : Desired} (h : Enforce.compile p = .ok d) :
    hostState p = some (d.nft, d.ip) := by
  rw [hostState, h]
  rfl

/-- The script and the commands of two plans are the same exactly when neither compiles, or both
do and their gateways agree, one by one, in what the script and the commands are made of. -/
theorem hostState_eq_iff {pfx pfx' : String} {gws gws' : Gateways} {targets targets' : List Target}
    (hvalid : gws.validate = .ok ()) (hvalid' : gws'.validate = .ok ()) :
    hostState (Plan.compile targets pfx gws) = hostState (Plan.compile targets' pfx' gws') ↔
      ((Plan.compile targets pfx gws).mergedGateways.RoutesApart ↔
        (Plan.compile targets' pfx' gws').mergedGateways.RoutesApart) ∧
      ((Plan.compile targets pfx gws).mergedGateways.RoutesApart →
        List.Forall₂ GatewayPlan.SameRules (Plan.compile targets pfx gws).gateways
          (Plan.compile targets' pfx' gws').gateways) := by
  set p := Plan.compile targets pfx gws with hp
  set q := Plan.compile targets' pfx' gws' with hq
  have hfit : ∀ gp ∈ p.gateways, Nft.FitEgress gp.egress := Nft.fitEgress_compile hvalid
  have hfit' : ∀ gp ∈ q.gateways, Nft.FitEgress gp.egress := Nft.fitEgress_compile hvalid'
  by_cases hapart : p.mergedGateways.RoutesApart
  · obtain ⟨d, hd⟩ := exists_compile hapart
    rw [hostState_eq_some hd]
    constructor
    · intro h
      have hapart' : q.mergedGateways.RoutesApart := by
        by_contra hnot
        rw [hostState_eq_none.2 hnot] at h
        simp at h
      obtain ⟨d', hd'⟩ := exists_compile hapart'
      rw [hostState_eq_some hd', Option.some.injEq, Prod.mk.injEq] at h
      exact ⟨iff_of_true hapart hapart', fun _ => sameRules_of_eq hfit hfit' hd hd' h.1 h.2⟩
    · rintro ⟨hiff, hsame⟩
      obtain ⟨d', hd'⟩ := exists_compile (hiff.1 hapart)
      obtain ⟨hnft, hip⟩ := eq_of_sameRules hd hd' (hsame hapart)
      rw [hostState_eq_some hd', hnft, hip]
  · rw [hostState_eq_none.2 hapart, eq_comm, hostState_eq_none]
    simp [hapart]

end Degc
