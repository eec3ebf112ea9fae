import Degc.Enforce.DataPlane

/-!
# When routing changes behind a plan

Between two plans the kernel withdraws routes, as when the interface of a VPN goes
down, and others may change the rules and routes.  The table of the packet filter
stays as the last plan loaded it, and the floors stay behind the live defaults.

The main results are `Loaded.forward_iff`, what the table alone lets through whatever
the rules and routes are, and `Reachable.withdrawn`, that a host on which routes are
withdrawn forwards what members send by the live default that is left, or not at all.
-/

namespace Degc

open Net Text Fib Netfilter

/-! ### Withdrawn routes -/

/-- The kernel withdraws routes. -/
def Host.withdraw (h : Host) (gone : Fib.Route → Bool) : Host :=
  { h with fib := { h.fib with routes := h.fib.routes.filter fun r => !gone r } }

/-- What is withdrawn are routes by a device. -/
def ByDevice (gone : Fib.Route → Bool) : Prop := ∀ r, gone r = true → r.hop.oif.isSome = true

section Withdraw

variable {h₀ h : Host} {gone : Fib.Route → Bool}

lemma mem_withdraw {r : Fib.Route} :
    r ∈ (h.withdraw gone).fib.routes ↔ r ∈ h.fib.routes ∧ gone r = false := by
  simp [Host.withdraw]

/-- What is kept of a host is kept of the host without the routes. -/
lemma Kept.withdraw (hk : Kept h₀.fib h.fib) (gone : Fib.Route → Bool) :
    Kept (h₀.withdraw gone).fib (h.withdraw gone).fib where
  rules := hk.rules
  rules6 := hk.rules6
  tables r hr h4 := by
    have hcomm : ∀ rs : List Fib.Route, (rs.filter fun r' => !gone r').filter (·.table == r.table) =
        (rs.filter (·.table == r.table)).filter fun r' => !gone r' := by
      intro rs
      rw [List.filter_filter, List.filter_filter]
      simp only [Bool.and_comm]
    have htables := hk.tables r (mem_withdraw.1 hr).1 h4
    simp only [Host.withdraw, hcomm, htables]
  routes r hr := by
    obtain ⟨hr, hstays⟩ := mem_withdraw.1 hr
    exact (hk.routes r hr).imp_left fun h₀ => mem_withdraw.2 ⟨h₀, hstays⟩

end Withdraw

variable [Libraries]

/-! ### What the table lets through -/

/-- A plan is loaded: the table of the packet filter is the one of its script. -/
def Loaded (p : Plan) (h : Host) : Prop :=
  ∃ d sets, Compiled p d ∧ h.nft["inet degc"]? = some ⟨sets, Nft.chains p⟩ ∧
    ∀ n, elemsAt sets n = elemsOf (p.gateways.flatMap Nft.setDefs) n

/-- An address is a member of one gateway only, which has its sets for itself. -/
structure OnlyOf (p : Plan) (gp : GatewayPlan) (src : IpAddr) : Prop where
  gateway : gp ∈ p.gateways
  member : src ∈ gp.members
  others : ∀ gp' ∈ p.gateways, src ∈ gp'.members → gp' = gp
  sets : Unshared p gp

omit [Libraries] in
lemma Alone.onlyOf {p : Plan} {gp : GatewayPlan} {src : IpAddr} (h : Alone p src)
    (hgp : gp ∈ p.gateways) (hmem : src ∈ gp.members) : OnlyOf p gp src where
  gateway := hgp
  member := hmem
  others gp' hgp' hmem' := h.one gp hgp gp' hgp' hmem hmem'
  sets := h.sets gp hgp hmem

/-- What an IPv4 member sends to an address that is not direct is marked by its gateway only. -/
lemma OnlyOf.marks_iff {p : Plan} {sets : Sets}
    (hsets : ∀ n, elemsAt sets n = elemsOf (p.gateways.flatMap Nft.setDefs) n) {gp : GatewayPlan}
    {pkt : Packet} (honly : OnlyOf p gp pkt.src) (hsrc : pkt.src.isIpv4 = true)
    (hdst : pkt.dst.isIpv4 = true) (hdirect : Direct gp pkt.dst = false) :
    ∀ gp' ∈ p.gateways, Nft.marks sets gp' pkt = true ↔ gp' = gp := by
  intro gp' hgp'
  constructor
  · intro hmark
    by_contra hne
    -- a gateway with its sets would have the source as a member
    have hleft := marks_of_not_mem hsets fun gp'' hgp'' hname hmem =>
      hne (honly.sets gp' hgp' (honly.others gp'' hgp'' hmem ▸ hname.symm))
    rw [hleft.1] at hmark
    exact absurd hmark (by simp)
  · rintro rfl
    exact (marks_own hsets hgp' honly.sets hsrc hdst).2 ⟨honly.member, hdirect⟩

/-- What is sent by no member, or to direct addresses only, is neither marked nor dropped. -/
lemma marks_of_rest {p : Plan} {sets : Sets}
    (hsets : ∀ n, elemsAt sets n = elemsOf (p.gateways.flatMap Nft.setDefs) n) {pkt : Packet}
    (hfamily : pkt.src.isIpv4 = pkt.dst.isIpv4) (hdirect : ∀ gp ∈ p.gateways,
      pkt.src ∈ gp.members → Unshared p gp ∧ Direct gp pkt.dst = true) :
    ∀ gp ∈ p.gateways, Nft.marks sets gp pkt = false ∧ Nft.drops6 sets gp pkt = false := by
  intro gp hgp
  by_cases hmem : ∃ gp' ∈ p.gateways, Nft.sanitize gp'.gateway.name =
      Nft.sanitize gp.gateway.name ∧ pkt.src ∈ gp'.members
  · obtain ⟨gp', hgp', hname, hmem⟩ := hmem
    obtain ⟨hown, hdirect⟩ := hdirect gp' hgp' hmem
    -- the gateway that has the source as a member has its sets for itself
    obtain rfl := hown gp hgp hname.symm
    exact marks_of_direct hsets hgp hown hfamily hdirect
  · exact marks_of_not_mem hsets fun gp' hgp' hname hmem' => hmem ⟨gp', hgp', hname, hmem'⟩

/-- A host on which a plan is loaded, whatever its rules and routes are, forwards what a member
sends to an address that is not direct only when it is of IPv4, is routed with the mark of the
gateway, and leaves by a device that the gateway lets it leave by. -/
lemma Loaded.forward_iff {p : Plan} {h : Host} (hl : Loaded p h) {gp : GatewayPlan} {pkt : Packet}
    (honly : OnlyOf p gp pkt.src) (hfamily : pkt.src.isIpv4 = pkt.dst.isIpv4)
    (hdirect : Direct gp pkt.dst = false) {r : Fib.Route} :
    h.forward pkt = some r ↔ pkt.src.isIpv4 = true ∧
      h.fib.route (Nft.markOf gp) pkt.dst = some r ∧
      ∃ dev, r.hop.oif = some dev ∧ Nft.Passes gp.egress (some dev) := by
  obtain ⟨d, sets, hc, ht, hsets⟩ := hl
  cases hsrc : pkt.src.isIpv4 with
  | false =>
      have hdst := hfamily.symm.trans hsrc
      have hdrop := forward_drop6 ht hsets (by simp [hsrc]) (by simp [hdst]) honly.gateway
        honly.member honly.sets hdirect
      simp [hdrop]
  | true =>
      have hdst := hfamily.symm.trans hsrc
      have hmarks := honly.marks_iff hsets hsrc hdst hdirect
      rw [forward_marked hc ht honly.gateway hmarks fun gp' _ => drops6_of_isIpv4 hsrc]
      simp

/-- Applying a plan, as far as a run gets, leaves the host as it is or loads the plan. -/
lemma Compiled.loaded_apply {p : Plan} {d : Desired} (hc : Compiled p d) (env : Env) (k : ℕ)
    (h : Host) : (Enforce.apply env.world (d.upTo k) h).1 = h ∨
      Loaded p (Enforce.apply env.world (d.upTo k) h).1 := by
  rcases env.apply_fst (d.upTo k) h with hsame | ⟨-, rs, hload, happly⟩
  · exact Or.inl hsame
  · obtain ⟨sets, ht, hsets⟩ :=
      Nft.table_of_loadText hc.plainEgress (Nft.compile_eq_ok hc.compile).2.1 hload
    exact Or.inr ⟨d, sets, hc, by rw [happly]; exact ht, hsets⟩

/-- A plan that is applied successfully is loaded. -/
lemma Compiled.loaded_of_ok {p : Plan} {d : Desired} (hc : Compiled p d) {env : Env} {h h' : Host}
    (happly : Enforce.apply env.world d h = (h', .ok ())) : Loaded p h' := by
  obtain ⟨-, rs, hload, rfl, -⟩ := env.apply_eq_ok happly
  obtain ⟨sets, ht, hsets⟩ :=
    Nft.table_of_loadText hc.plainEgress (Nft.compile_eq_ok hc.compile).2.1 hload
  exact ⟨d, sets, hc, ht, hsets⟩

/-! ### A plan that was applied -/

/-- What is known of a host on which a plan was applied without harm. -/
structure SetUp (link : IpAddr → String) (h₀ h : Host) (p : Plan) : Prop where
  loaded : Loaded p h
  kept : Kept h₀.fib h.fib
  own : ∀ gp ∈ p.gateways, OwnRules gp h.fib
  converged : ∀ gp ∈ p.gateways, (∀ ip, gp.egress = .nextHop ip → ip.isIpv4 = true) →
    Converged link gp h.fib

/-- Applying a plan leaves no duplicates. -/
lemma Tidy.apply {h : Host} (htidy : Tidy h.fib) {p : Plan} {d : Desired} (hc : Compiled p d)
    (env : Env) (k : ℕ) : Tidy (Enforce.apply env.world (d.upTo k) h).1.fib := by
  rcases env.apply_fst (d.upTo k) h with hsame | ⟨-, rs, -, happly⟩
  · rwa [hsame]
  · rw [happly]
    refine Script.run_invariant (fun c hmem f hf => ?_) htidy
    have hmem' : c ∈ p.gateways.flatMap Route.cmdsOf := hc.ip ▸ List.mem_of_mem_take hmem
    obtain ⟨gp, -, hcmd⟩ := List.mem_flatMap.1 hmem'
    exact hf.effect (Route.effect_of_mem env gp f hcmd)

/-- A run of all commands of a plan, where the failures that are ignored do no harm, sets all its
gateways up. -/
lemma Compiled.diverted_of_goes {p : Plan} {d : Desired} (hc : Compiled p d) {env : Env} {f : Fib}
    (htidy : Tidy f) (hgoes : (Script.run env.runIp d.ip f).2 = true)
    (hharmless : ∀ gp ∈ p.gateways, Route.Harmless env gp f) :
    ∀ gp ∈ p.gateways, Route.Diverted env.link gp (Script.run env.runIp d.ip f).1 := by
  intro gp hgp
  rw [hc.ip] at hgoes ⊢
  have hstops : ¬ Route.Stops env p.gateways := fun hstops => by
    rw [Route.stops_iff.2 hstops] at hgoes
    exact absurd hgoes (by simp)
  exact (Route.diverted_run_iff hc.compile htidy.tagged hstops hgp).2 (hharmless gp hgp)

/-- A plan that is applied successfully to a host with what is kept of a clean one, where the
failures that are ignored do no harm, sets all its gateways up. -/
lemma Kept.setUp {h₀ h h' : Host} (hclean : Clean h₀) (hk : Kept h₀.fib h.fib) (htidy : Tidy h.fib)
    {p : Plan} {d : Desired} (hc : Compiled p d) {env : Env}
    (happly : Enforce.apply env.world d h = (h', .ok ()))
    (hharmless : ∀ gp ∈ p.gateways, Route.Harmless env gp h.fib) : SetUp env.link h₀ h' p := by
  have hk' := hk.apply hclean hc env d.ip.length
  have htidy' := htidy.apply hc env d.ip.length
  rw [Desired.upTo_length, happly] at hk' htidy'
  have hloaded := hc.loaded_of_ok happly
  obtain ⟨hcheck, rs, -, rfl, hgoes⟩ := env.apply_eq_ok happly
  have hfree := (hk.preflight hclean hc).1 hcheck
  refine ⟨hloaded, hk', hc.ownRules hfree env fun c hmem => hc.ip ▸ hmem, fun gp hgp h4 => ?_⟩
  exact converged_of_diverted hk' htidy' (usable_of_free hclean hk hc hgp (hfree gp hgp))
    (hc.diverted_of_goes htidy hgoes hharmless gp hgp) h4

/-- The same on a reached host. -/
lemma Reachable.setUp {h₀ h h' : Host} (hclean : Clean h₀) (hr : Reachable h₀ h) {p : Plan}
    {d : Desired} (hc : Compiled p d) {env : Env}
    (happly : Enforce.apply env.world d h = (h', .ok ()))
    (hharmless : ∀ gp ∈ p.gateways, Route.Harmless env gp h.fib) : SetUp env.link h₀ h' p :=
  (hr.kept hclean).setUp hclean (hr.tidy hclean) hc happly hharmless

/-- Where the programs are let through, no failure does harm. -/
lemma Compiled.harmless_of_lets {p : Plan} {d : Desired} (hc : Compiled p d) {env : Env}
    (hlets : env.Lets d) (f : Fib) : ∀ gp ∈ p.gateways, Route.Harmless env gp f := by
  intro gp hgp
  have hlet : ∀ c ∈ Route.cmdsOf gp, env.ip c.args = .ok () := fun c hmem =>
    hlets.ip c (hc.ip ▸ List.mem_flatMap.2 ⟨gp, hgp, hmem⟩)
  exact ⟨Or.inr (hlet _ (by simp [Route.cmdsOf])),
    fun _ => Or.inr (hlet _ (by simp [Route.cmdsOf]))⟩

/-- A host on which a plan was applied without harm forwards packets as the plan is for. -/
lemma SetUp.forwards {link : IpAddr → String} {h₀ h : Host} {p : Plan} (hconn : Connected h₀)
    (hset : SetUp link h₀ h p) : DataPlane link h₀ h p := by
  obtain ⟨d, sets, hc, ht, hsets⟩ := hset.loaded
  exact dataPlane_of_converged hconn hset.kept hc ht hsets hset.own hset.converged

/-! ### What is left when routes are withdrawn -/

/-- The live default of a gateway, unless it is withdrawn. -/
def liveLeft (link : IpAddr → String) (gone : Fib.Route → Bool) (gp : GatewayPlan) :
    Option Fib.Route :=
  (Route.liveOf link gp).filter fun r => !gone r

/-- The gateway whose egress is unavailable from where its live default is withdrawn. -/
def GatewayPlan.left (link : IpAddr → String) (gone : Fib.Route → Bool) (gp : GatewayPlan) :
    GatewayPlan :=
  if (liveLeft link gone gp).isSome then gp else { gp with egress := .unavailable "withdrawn" }

omit [Libraries] in
lemma liveOf_left (link : IpAddr → String) (gone : Fib.Route → Bool) (gp : GatewayPlan) :
    Route.liveOf link (gp.left link gone) = liveLeft link gone gp := by
  rw [GatewayPlan.left]
  cases hl : liveLeft link gone gp with
  | none => rfl
  | some r =>
      obtain ⟨hlive, -⟩ := Option.filter_eq_some_iff.1 hl
      rw [Option.isSome_some, if_pos rfl, hlive]

omit [Libraries] in
lemma gateway_left (link : IpAddr → String) (gone : Fib.Route → Bool) (gp : GatewayPlan) :
    (gp.left link gone).gateway = gp.gateway := by
  rw [GatewayPlan.left]
  split <;> rfl

/-- The table of a gateway holds its floor and the live default that is left. -/
lemma Converged.withdraw {link : IpAddr → String} {gp : GatewayPlan} {h : Host}
    (hset : Converged link gp h.fib) {gone : Fib.Route → Bool} (hgone : ByDevice gone) :
    Converged link (gp.left link gone) (h.withdraw gone).fib := by
  have hrule : Route.ruleOf (gp.left link gone) = Route.ruleOf gp := by
    simp only [Route.ruleOf, Nft.markOf, Route.tableOf, gateway_left]
  have hfloor : Route.floorOf (gp.left link gone) = Route.floorOf gp := by
    simp only [Route.floorOf, Route.tableOf, gateway_left]
  have htable : Route.tableOf (gp.left link gone) = Route.tableOf gp := by
    simp only [Route.tableOf, gateway_left]
  refine ⟨by rw [hrule]; exact hset.rule, ?_⟩
  -- a floor leaves by no device, and stays
  have hstays : gone (Route.floorOf gp) = false := by
    by_contra hg
    have hdev := hgone _ (Bool.not_eq_false _ ▸ hg)
    simp [Route.floorOf, Hop.oif] at hdev
  have hcut : table4 (Route.tableOf gp) (h.withdraw gone).fib =
      (table4 (Route.tableOf gp) h.fib).filter fun r => !gone r := by
    rw [table4, table4, Host.withdraw, List.filter_filter, List.filter_filter]
    simp only [Bool.and_comm]
  have hperm := hset.routes.filter fun r => !gone r
  rw [List.filter_cons_of_pos (by simp [hstays])] at hperm
  rw [htable, hcut, hfloor, liveOf_left]
  refine hperm.trans (List.Perm.of_eq (congrArg _ ?_))
  rw [liveLeft]
  cases Route.liveOf link gp with
  | none => rfl
  | some r => cases hg : gone r <;> simp [Option.filter, hg]

section Left

variable {link : IpAddr → String} {h₀ h : Host} {p : Plan} {gone : Fib.Route → Bool}

end Left

omit [Libraries] in
/-- Where there is one gateway, with an egress for IPv4, every address is alone. -/
lemma alone_of_one {p : Plan} {e : Egress} (hone : p.gateways.length = 1)
    (hegress : ∀ gp ∈ p.gateways, gp.egress = e) (h4 : ∀ ip, e = .nextHop ip → ip.isIpv4 = true)
    (src : IpAddr) : Alone p src := by
  obtain ⟨g, hg⟩ := List.length_eq_one_iff.1 hone
  have hsame : ∀ gp ∈ p.gateways, ∀ gp' ∈ p.gateways, gp' = gp := by
    rw [hg]
    simp
  exact ⟨fun gp hgp gp' hgp' _ _ => hsame gp hgp gp' hgp',
    fun gp hgp _ gp' hgp' _ => hsame gp hgp gp' hgp',
    fun gp hgp _ ip hip => h4 ip ((hegress gp hgp).symm.trans hip)⟩

end Degc
