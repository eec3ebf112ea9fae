import Degc.Enforce.HalfOpen
import Degc.Plan.Resolve

/-!
# Next hops are of IPv4

The rule of a gateway is one for IPv4, so a next hop is of use only when it is an
IPv4 address.  For the container of a gateway that is what is looked for; an address
in the configuration may be of either family.

The main result `ipv4Only_iff` says for which configurations every gateway that is
available has a live IPv4 default in its table, and every other one is closed.
-/

namespace Degc

open Net Text Fib

/-- The only next hops of a gateway are of IPv6: the address it is configured with, or those of the
container it means. -/
def OnlyIpv6 (targets : List Target) (g : Gateway) : Prop :=
  (∃ nh ip, g.egress.nextHop = some nh ∧ parseIp nh = some ip ∧ ip.isIpv6 = true) ∨
    ∃ sel t, g.egress.container = some sel ∧ targets.find? (Plan.isMatch sel) = some t ∧
      ∀ a ∈ t.addrs, a.isIpv6 = true

variable [Libraries]

/-- A plan was applied successfully, with no failures but of commands that have nothing to do, to
a host that is reached from a clean one. -/
def LeftBy (p : Plan) (env : Env) (h : Host) : Prop :=
  ∃ h₀ h₁ d, Clean h₀ ∧ Reachable h₀ h₁ ∧ Compiled p d ∧ env.Lets d ∧
    Enforce.apply env.world d h₁ = (h, .ok ())

/-- A host has a live IPv4 default by the egress of a gateway in the table of the gateway. -/
def HasLive (gp : GatewayPlan) (h : Host) : Prop :=
  ∃ r ∈ h.fib.routes, r.table = Route.tableOf gp ∧ r.dst = .default4 ∧ r.metric = 1 ∧
    Through gp.egress r

/-- On a host, nothing leaves by a gateway: the only IPv4 route in its table is the floor, and what
is marked for it is dropped. -/
def ClosedOff (gp : GatewayPlan) (h : Host) : Prop :=
  table4 (Route.tableOf gp) h.fib = [Route.floorOf gp] ∧
    ∀ pkt : Netfilter.Packet, pkt.mark = Nft.markOf gp → h.hook "forward" pkt = none

/-- Only IPv4 next hops are routed. -/
structure Ipv4Only (p : Plan) (targets : List Target) : Prop where
  nextHop : ∀ gp ∈ p.gateways, ∀ ip, gp.egress = .nextHop ip → ip.isIpv4 = true
  live : ∀ gp ∈ p.gateways, (∀ why, gp.egress ≠ .unavailable why) →
    ∀ env h, LeftBy p env h → HasLive gp h
  closed : ∀ gp ∈ p.gateways, OnlyIpv6 targets gp.gateway →
    (∃ why, gp.egress = .unavailable why) ∧ ∀ env h, LeftBy p env h → ClosedOff gp h

/-! ### What a plan leaves -/

section LeftBy

variable {p : Plan} {env : Env} {h : Host} {gp : GatewayPlan}

/-- A gateway with a live IPv4 default has it in its table. -/
lemma LeftBy.hasLive (hleft : LeftBy p env h) (hgp : gp ∈ p.gateways)
    (h4 : ∀ ip, gp.egress = .nextHop ip → ip.isIpv4 = true)
    (havailable : ∀ why, gp.egress ≠ .unavailable why) : HasLive gp h := by
  obtain ⟨h₀, h₁, d, hclean, hr, hc, hlets, happly⟩ := hleft
  have hroutes := ((hr.converged hclean hc hlets happly).2.1 gp hgp h4).routes
  cases hl : Route.liveOf env.link gp with
  | none =>
      obtain ⟨why, hwhy⟩ := Route.liveOf_eq_none.1 hl
      exact absurd hwhy (havailable why)
  | some r =>
      have hmem : r ∈ table4 (Route.tableOf gp) h.fib := hroutes.mem_iff.2 (by simp [hl])
      obtain ⟨htable, hmetric, -, -⟩ := Route.liveOf_eq_some hl
      exact ⟨r, (List.mem_filter.1 hmem).1, htable, Route.liveOf_dst hl h4, hmetric,
        through_liveOf hl⟩

/-- A gateway whose egress is not available is closed off. -/
lemma LeftBy.closedOff (hleft : LeftBy p env h) (hgp : gp ∈ p.gateways) {why : String}
    (hwhy : gp.egress = .unavailable why) : ClosedOff gp h := by
  obtain ⟨h₀, h₁, d, hclean, hr, hc, hlets, happly⟩ := hleft
  obtain ⟨⟨rs, t, hload, ht, htable⟩, hset, -⟩ := hr.converged hclean hc hlets happly
  constructor
  · have hroutes := (hset gp hgp (by simp [hwhy])).routes
    rw [Route.liveOf_eq_none.2 ⟨why, hwhy⟩] at hroutes
    exact List.perm_singleton.1 hroutes
  · intro pkt hmark
    obtain ⟨sets, hchains, -⟩ :=
      Nft.table_of_loadText hc.plainEgress (Nft.compile_eq_ok hc.compile).2.1 hload
    rw [Option.eq_none_iff_forall_ne_some]
    intro pkt' hpass
    have hkill := (Nft.hook_kill (htable.trans (ht.symm.trans hchains))).1 hpass
    have := (hkill.2 gp hgp).2 hmark
    rw [hwhy] at this
    exact this

end LeftBy

/-! ### The egresses of a plan -/

section Plan

variable {pfx : String} {gws : Gateways} {targets : List Target}

/-- A next hop is the configured address, or an IPv4 address. -/
lemma resolveEgress_nextHop {g : Gateway} {ip : IpAddr}
    (h : Plan.resolveEgress g targets = .nextHop ip) :
    (∃ nh, g.egress.nextHop = some nh ∧ parseIp nh = some ip) ∨ ip.isIpv4 = true := by
  rw [Plan.resolveEgress] at h
  split at h
  · simp at h
  · split at h
    · next nh hnh =>
        refine Or.inl ⟨nh, hnh, ?_⟩
        cases hip : parseIp nh with
        | none => simp [hip] at h
        | some ip' => simpa [hip] using h
    · split at h
      · next sel _ =>
          cases hip : Plan.gatewayContainerIp sel targets with
          | none => simp [hip] at h
          | some ip' =>
              obtain ⟨u, -, hfind⟩ := Plan.gatewayContainerIp_eq_some.1 hip
              obtain rfl : ip' = ip := by simpa [hip] using h
              exact Or.inr (by simpa using List.find?_some hfind)
      · simp at h

/-- The gateways of a plan with a configured next hop are configured ones. -/
lemma mem_of_nextHop {g : Gateway} (hg : g ∈ (Plan.merge pfx gws targets).1) {nh : String}
    (hnh : g.egress.nextHop = some nh) : g ∈ gws := by
  rcases Plan.mem_merge hg with hg | ⟨t, -, -, hok⟩
  · exact hg
  · simp [(discoveredGateway_ok hok).2.2] at hnh

/-- A valid gateway whose container has only IPv6 addresses is not available. -/
lemma unavailable_of_onlyIpv6 {g : Gateway} (hvalid : g.Valid) {sel : String} {t : Target}
    (hsel : g.egress.container = some sel) (ht : targets.find? (Plan.isMatch sel) = some t)
    (h6 : ∀ a ∈ t.addrs, a.isIpv6 = true) :
    ∃ why, Plan.resolveEgress g targets = .unavailable why := by
  have hegress : g.egress = { container := some sel } := by
    rcases hvalid.egress_cases with ⟨i, he⟩ | ⟨c, he⟩ | ⟨nh, he⟩
    · simp [he] at hsel
    · simpa [he] using hsel
    · simp [he] at hsel
  rw [Plan.resolveEgress_eq_unavailable hegress, Plan.gatewayContainerIp, ht, Option.bind_some,
    List.find?_eq_none]
  intro a ha
  simpa using h6 a ha

/-- For a valid configuration, only IPv4 next hops are routed exactly when every next hop that is
configured is an IPv4 address. -/
theorem ipv4Only_iff (hvalid : gws.validate = .ok ()) :
    Ipv4Only (Plan.compile targets pfx gws) targets ↔
      ∀ g ∈ gws, ∀ nh, g.egress.nextHop = some nh → ∀ ip, parseIp nh = some ip →
        ip.isIpv4 = true := by
  have hv := Gateways.validate_eq_ok.1 hvalid
  have hmem := @Plan.mem_gateways_compile pfx targets _ gws hv.names
  constructor
  · intro h g hg nh hnh ip hip
    have hin : g ∈ (Plan.merge pfx gws targets).1 := Plan.isPrefix_merge.subset hg
    refine h.nextHop _ (hmem.2 ⟨g, hin, rfl⟩) ip ?_
    rcases (hv.gateways g hg).egress_cases with ⟨i, he⟩ | ⟨c, he⟩ | ⟨nh', he⟩
    · simp [he] at hnh
    · simp [he] at hnh
    · obtain rfl : nh' = nh := by simpa [he] using hnh
      simp [Plan.resolveEgress, he, hip]
  · intro h
    have h4 : ∀ gp ∈ (Plan.compile targets pfx gws).gateways, ∀ ip, gp.egress = .nextHop ip →
        ip.isIpv4 = true := by
      intro gp hgp ip hip
      obtain ⟨g, hg, rfl⟩ := hmem.1 hgp
      rcases resolveEgress_nextHop hip with ⟨nh, hnh, hparse⟩ | h4
      · exact h g (mem_of_nextHop hg hnh) nh hnh ip hparse
      · exact h4
    refine ⟨h4, fun gp hgp havailable env host hleft =>
      hleft.hasLive hgp (h4 gp hgp) havailable, fun gp hgp h6 => ?_⟩
    have hwhy : ∃ why, gp.egress = .unavailable why := by
      obtain ⟨g, hg, rfl⟩ := hmem.1 hgp
      rcases h6 with ⟨nh, ip, hnh, hparse, h6⟩ | ⟨sel, t, hsel, ht, h6⟩
      · simp [h g (mem_of_nextHop hg hnh) nh hnh ip hparse] at h6
      · exact unavailable_of_onlyIpv6 (Plan.valid_of_mem_merge hv.gateways hg) hsel ht h6
    obtain ⟨why, hegress⟩ := hwhy
    exact ⟨⟨why, hegress⟩, fun env host hleft => hleft.closedOff hgp hegress⟩

omit [Libraries] in
/-- The gateway of the home network has an IPv4 next hop. -/
theorem ipv4Only_home : @Ipv4Only .plain (homePlan 100 appTargets) appTargets := by
  refine (@ipv4Only_iff .plain "degc" (vpnGateways 100) appTargets (by decide)).2 ?_
  intro g hg nh hnh ip hip
  obtain rfl := List.mem_singleton.1 hg
  obtain rfl : "172.18.0.2" = nh := Option.some.inj hnh
  rw [show parseIp "172.18.0.2" = some (.v4 0xac120002) by decide, Option.some.injEq] at hip
  exact hip ▸ rfl

/-- A configuration of one gateway, which is reached by an IPv6 address. -/
def vpn6Gateways : Gateways :=
  [{ name := "vpn", egress := { nextHop := some "fd00::1" }, mark := some "0x4"
     table := some 100 }]

omit [Libraries] in
/-- The gateway is available, with an IPv6 next hop. -/
theorem not_ipv4Only : @Gateways.validate .plain vpn6Gateways = .ok () ∧
    ¬ @Ipv4Only .plain (@Plan.compile .plain appTargets "degc" vpn6Gateways) appTargets := by
  refine ⟨by decide, fun h => ?_⟩
  have hegress : ∃ gp ∈ (@Plan.compile .plain appTargets "degc" vpn6Gateways).gateways,
      gp.egress = .nextHop (.v6 0xfd000000000000000000000000000001) := by decide
  obtain ⟨gp, hgp, he⟩ := hegress
  have h4 := @Ipv4Only.nextHop .plain _ _ h gp hgp _ he
  exact absurd h4 (by decide)

end Plan

end Degc
