import Degc.Enforce.Converge
import Degc.Enforce.Forward

/-!
# What a plan does with packets

`Plan.forward` says what a plan is for: a packet from a member of a gateway to an
address outside of the networks that stay direct takes the live default of the
gateway, or is dropped when there is none or when it is of IPv6; every other packet
goes the way it would go without the plan.

The main result is `Reachable.dataPlane`: the host on which a plan is applied,
whatever plans were run on it before, forwards packets that way.
-/

namespace Degc

open Net Text Fib Netfilter

variable [Libraries]

/-! ### What a plan is for -/

/-- A gateway excludes an address. -/
def Direct (gp : GatewayPlan) (dst : IpAddr) : Bool :=
  (Nft.locals gp.gateway).any (·.contains dst)

/-- Where a packet is to go, if it goes anywhere, given where it goes without the plan. -/
def Plan.forward (link : IpAddr → String) (direct : Packet → Option Fib.Route) (p : Plan)
    (pkt : Packet) : Option Fib.Route :=
  match p.gateways.find? (·.members.contains pkt.src) with
  | none => direct pkt
  | some gp =>
      if Direct gp pkt.dst then direct pkt
      else if pkt.src.isIpv4 then Route.liveOf link gp else none

omit [Libraries] in
/-- A packet that a host is to forward: it arrives without a mark, its addresses are of one family
and it is not to the host itself. -/
structure Forwarded (h : Host) (pkt : Packet) : Prop where
  mark : pkt.mark = 0
  family : pkt.src.isIpv4 = pkt.dst.isIpv4
  away : lookup h.fib.routes 255 pkt.dst = none

/-- A gateway has its sets for itself. -/
def Unshared (p : Plan) (gp : GatewayPlan) : Prop :=
  ∀ gp' ∈ p.gateways, Nft.sanitize gp'.gateway.name = Nft.sanitize gp.gateway.name → gp' = gp

/-- An address is a member of one gateway at most, which has its sets for itself and, if it has a
next hop, one of IPv4. -/
structure Alone (p : Plan) (src : IpAddr) : Prop where
  one : ∀ gp ∈ p.gateways, ∀ gp' ∈ p.gateways, src ∈ gp.members → src ∈ gp'.members → gp' = gp
  sets : ∀ gp ∈ p.gateways, src ∈ gp.members → Unshared p gp
  nextHop : ∀ gp ∈ p.gateways, src ∈ gp.members → ∀ ip, gp.egress = .nextHop ip → ip.isIpv4 = true

/-- A host forwards packets as a plan is for, and drops what members send to IPv6 addresses that
are not direct. -/
structure DataPlane (link : IpAddr → String) (h₀ h : Host) (p : Plan) : Prop where
  forward : ∀ pkt, Forwarded h₀ pkt → Alone p pkt.src →
    h.forward pkt = p.forward link h₀.forward pkt
  drop6 : ∀ pkt, Forwarded h₀ pkt → pkt.src.isIpv6 = true → ∀ gp ∈ p.gateways,
    pkt.src ∈ gp.members → Unshared p gp → Direct gp pkt.dst = false → h.forward pkt = none

/-! ### The table of a gateway -/

/-- A lookup in the table of a gateway that is as it is to be finds the live default, or the
floor. -/
lemma Converged.lookup_eq {link : IpAddr → String} {gp : GatewayPlan} {f : Fib}
    (h : Converged link gp f) (h4 : ∀ ip, gp.egress = .nextHop ip → ip.isIpv4 = true)
    (a : BitVec 32) :
    lookup f.routes (Route.tableOf gp) (.v4 a) =
      some ((Route.liveOf link gp).getD (Route.floorOf gp)) := by
  have hmem : ∀ r, r ∈ f.routes ∧ r.table = Route.tableOf gp ∧ r.dst.addr.isIpv4 = true ↔
      r = Route.floorOf gp ∨ Route.liveOf link gp = some r := by
    intro r
    have hr := h.routes.mem_iff (a := r)
    simpa [table4] using hr
  have hfloor : (Route.floorOf gp).serves (Route.tableOf gp) (.v4 a) = true := by
    simp [Route.serves, Route.floorOf]
  have hserves : ∀ r : Fib.Route, r.serves (Route.tableOf gp) (.v4 a) = true →
      r.table = Route.tableOf gp ∧ r.dst.addr.isIpv4 = true := by
    intro r hr
    simp only [Fib.Route.serves, Bool.and_eq_true, beq_iff_eq] at hr
    exact ⟨hr.1, Cidr.isIpv4_of_contains hr.2⟩
  cases hl : Route.liveOf link gp with
  | none =>
      refine lookup_eq_some ((hmem _).2 (Or.inl rfl)).1 hfloor fun r hr hs hne => ?_
      rcases (hmem r).1 ⟨hr, hserves r hs⟩ with rfl | hlive
      · exact absurd rfl hne
      · rw [hl] at hlive
        exact absurd hlive (by simp)
  | some l =>
      obtain ⟨htable, hmetric, -, -⟩ := Route.liveOf_eq_some hl
      have hdst := Route.liveOf_dst hl h4
      refine lookup_eq_some ((hmem _).2 (Or.inr hl)).1 ?_ fun r hr hs hne => ?_
      · simp [Fib.Route.serves, htable, hdst]
      · rcases (hmem r).1 ⟨hr, hserves r hs⟩ with rfl | hlive
        · -- the floor is as long, but its metric is higher
          simp only [Option.getD_some, Fib.Route.key, hdst, hmetric, Route.floorOf]
          decide
        · rw [hl] at hlive
          exact absurd (Option.some.inj hlive).symm hne

/-! ### Packets that the plan leaves alone -/

omit [Libraries] in
/-- Without a table of the packet filter, the route decides. -/
lemma Clean.forward_eq_some {h : Host} (hclean : Clean h) {pkt : Packet} {r : Fib.Route} :
    h.forward pkt = some r ↔
      h.fib.route pkt.mark pkt.dst = some r ∧ ∃ dev, r.hop.oif = some dev := by
  have hhook : ∀ name pkt, h.hook name pkt = some pkt := by
    intro name pkt
    rw [Host.hook, hclean.table]
  simp only [Host.forward, hhook, Option.bind_eq_bind, Option.bind_some, Option.pure_def,
    Option.bind_eq_some_iff, Option.some.injEq]
  constructor
  · rintro ⟨r', hr, dev, hdev, rfl⟩
    exact ⟨hr, dev, hdev⟩
  · rintro ⟨hr, dev, hdev⟩
    exact ⟨r, hr, dev, hdev, rfl⟩

section Table

variable {h₀ h : Host} {p : Plan} {d : Desired} {sets : Sets}

/-- What no gateway marks or drops goes the way it goes on the clean host. -/
lemma forward_direct (hconn : Connected h₀) (hk : Kept h₀.fib h.fib) (hc : Compiled p d)
    (ht : h.nft["inet degc"]? = some ⟨sets, Nft.chains p⟩) {pkt : Packet} (hpkt : pkt.mark = 0)
    (hmarks : ∀ gp ∈ p.gateways, Nft.marks sets gp pkt = false)
    (hdrops : ∀ gp ∈ p.gateways, Nft.drops6 sets gp pkt = false) :
    h.forward pkt = h₀.forward pkt := by
  have hnone : p.gateways.filter (Nft.marks sets · pkt) = [] := by
    rw [List.filter_eq_nil_iff]
    intro gp hgp
    simp [hmarks gp hgp]
  have hm : ((p.gateways.filter (Nft.marks sets · pkt)).getLast?.map Nft.markOf).getD pkt.mark =
      0 := by
    rw [hnone, hpkt]
    rfl
  ext r
  rw [Nft.forward_eq_some ht hm, hconn.toClean.forward_eq_some, hpkt, hk.route_unmarked hconn]
  refine and_congr_right fun _ => exists_congr fun dev => and_iff_left_iff_imp.2 fun _ => ?_
  intro gp hgp
  refine ⟨hdrops gp hgp, fun hmark => ?_⟩
  exact absurd hmark (hc.mark gp hgp).1.ne

/-- What a gateway is the only one to mark gets its mark. -/
lemma mark_of_marks {gps : List GatewayPlan} {gp : GatewayPlan} (hgp : gp ∈ gps) {pkt : Packet}
    (hmarks : ∀ gp' ∈ gps, Nft.marks sets gp' pkt = true ↔ gp' = gp) :
    ((gps.filter (Nft.marks sets · pkt)).getLast?.map Nft.markOf).getD pkt.mark =
      Nft.markOf gp := by
  cases hlast : (gps.filter (Nft.marks sets · pkt)).getLast? with
  | none =>
      have hmem : gp ∈ gps.filter (Nft.marks sets · pkt) :=
        List.mem_filter.2 ⟨hgp, (hmarks gp hgp).2 rfl⟩
      rw [List.getLast?_eq_none_iff.1 hlast] at hmem
      exact absurd hmem List.not_mem_nil
  | some gp' =>
      obtain ⟨hgp', hmark⟩ := List.mem_filter.1 (List.mem_of_getLast? hlast)
      rw [(hmarks gp' hgp').1 hmark]
      rfl

/-- What a gateway is the only one to mark is routed with its mark, and leaves when the gateway
lets it. -/
lemma forward_marked (hc : Compiled p d) (ht : h.nft["inet degc"]? = some ⟨sets, Nft.chains p⟩)
    {pkt : Packet} {gp : GatewayPlan} (hgp : gp ∈ p.gateways)
    (hmarks : ∀ gp' ∈ p.gateways, Nft.marks sets gp' pkt = true ↔ gp' = gp)
    (hdrops : ∀ gp' ∈ p.gateways, Nft.drops6 sets gp' pkt = false) {r : Fib.Route} :
    h.forward pkt = some r ↔ h.fib.route (Nft.markOf gp) pkt.dst = some r ∧
      ∃ dev, r.hop.oif = some dev ∧ Nft.Passes gp.egress (some dev) := by
  rw [Nft.forward_eq_some ht (mark_of_marks hgp hmarks)]
  refine and_congr_right fun _ => exists_congr fun dev => and_congr_right fun _ => ?_
  constructor
  · intro hall
    exact (hall gp hgp).2 rfl
  · intro hpass gp' hgp'
    refine ⟨hdrops gp' hgp', fun hmark => ?_⟩
    rwa [← hc.eq_of_mark hgp hgp' hmark]

end Table

/-! ### What a gateway marks and drops -/

omit [Libraries] in
lemma mem_members4 {gp : GatewayPlan} {a : IpAddr} :
    a ∈ Nft.members4 gp ↔ a ∈ gp.members ∧ a.isIpv4 = true := by
  rw [Nft.members4, List.mem_filter, Std.TreeSet.mem_toList]

omit [Libraries] in
lemma mem_members6 {gp : GatewayPlan} {a : IpAddr} :
    a ∈ Nft.members6 gp ↔ a ∈ gp.members ∧ a.isIpv6 = true := by
  rw [Nft.members6, List.mem_filter, Std.TreeSet.mem_toList]

omit [Libraries] in
/-- The networks that have an address are of its family. -/
lemma any_family {f : Family} {ns : List IpNetwork} {a : IpAddr} (ha : f.has a = true) :
    (ns.filter fun n => f.has n.addr).any (·.contains a) = ns.any (·.contains a) := by
  rw [List.any_filter]
  congr 1
  ext n
  cases hn : n.contains a with
  | false => rw [Bool.and_false]
  | true =>
      have hfamily : n.addr.isIpv4 = a.isIpv4 := Cidr.isIpv4_of_contains hn
      have hsame : f.has n.addr = f.has a := by
        cases f <;> simp [Family.has, hfamily]
      rw [hsame, ha, Bool.true_and]

lemma any_locals4 {gp : GatewayPlan} {a : IpAddr} (ha : a.isIpv4 = true) :
    (Nft.locals4 gp.gateway).any (·.contains a) = Direct gp a :=
  any_family (f := .ip) ha

lemma any_locals6 {gp : GatewayPlan} {a : IpAddr} (ha : a.isIpv6 = true) :
    (Nft.locals6 gp.gateway).any (·.contains a) = Direct gp a :=
  any_family (f := .ip6) ha

section Sets

variable {p : Plan} {sets : Sets}

/-- A rule hits what members send to addresses that are not direct, when its sets are of one
gateway. -/
lemma hit_own {f : Family} {via excl : String} {ns : List IpNetwork} {gp : GatewayPlan}
    {pkt : Packet} (hsrc : f.has pkt.src = true) (hdst : f.has pkt.dst = true)
    (hvia : holds sets via pkt.src = true ↔ pkt.src ∈ gp.members)
    (hexcl : holds sets excl pkt.dst = Direct gp pkt.dst)
    (hns : ns.any (·.contains pkt.dst) = Direct gp pkt.dst) :
    Nft.Hit sets f via excl ns pkt = true ↔
      pkt.src ∈ gp.members ∧ Direct gp pkt.dst = false := by
  rw [Nft.Hit, Bool.and_eq_true, Bool.and_eq_true, Bool.or_eq_true, Bool.and_eq_true, hvia, hexcl,
    Bool.not_eq_true']
  constructor
  · rintro ⟨⟨-, hmem⟩, hempty | ⟨-, hdirect⟩⟩
    · -- without networks to exclude, none has the address
      rw [List.isEmpty_iff.1 hempty] at hns
      exact ⟨hmem, hns.symm⟩
    · exact ⟨hmem, hdirect⟩
  · rintro ⟨hmem, hdirect⟩
    exact ⟨⟨hsrc, hmem⟩, Or.inr ⟨hdst, hdirect⟩⟩

/-- A gateway that has its sets for itself marks what its members send to addresses that are not
direct. -/
lemma marks_own (hsets : ∀ n, elemsAt sets n = elemsOf (p.gateways.flatMap Nft.setDefs) n)
    {gp : GatewayPlan} (hgp : gp ∈ p.gateways) (hown : Unshared p gp) {pkt : Packet}
    (hsrc : pkt.src.isIpv4 = true) (hdst : pkt.dst.isIpv4 = true) :
    Nft.marks sets gp pkt = true ↔ pkt.src ∈ gp.members ∧ Direct gp pkt.dst = false := by
  refine hit_own hsrc hdst ?_ ?_ (any_locals4 hdst)
  · rw [Nft.holds_via hsets]
    constructor
    · rintro ⟨gp', hgp', hname, hmem⟩
      rw [hown gp' hgp' hname] at hmem
      exact (mem_members4.1 hmem).1
    · intro hmem
      exact ⟨gp, hgp, rfl, mem_members4.2 ⟨hmem, hsrc⟩⟩
  · have helems : elemsOf (Nft.setDefs gp) ("degc_local_" ++ Nft.sanitize gp.gateway.name) =
        (Nft.locals4 gp.gateway).map (·.toCidr) := (Nft.elemsOf_setDefs gp).2.1
    have hheld := Nft.holds_own hsets hgp hown (b := "degc_local_") (by decide) pkt.dst
    rw [helems, List.any_map] at hheld
    exact hheld.trans (any_locals4 hdst)

/-- A gateway that has its sets for itself drops what its IPv6 members send to addresses that are
not direct. -/
lemma drops6_own (hsets : ∀ n, elemsAt sets n = elemsOf (p.gateways.flatMap Nft.setDefs) n)
    {gp : GatewayPlan} (hgp : gp ∈ p.gateways) (hown : Unshared p gp) {pkt : Packet}
    (hsrc : pkt.src.isIpv6 = true) (hdst : pkt.dst.isIpv6 = true) :
    Nft.drops6 sets gp pkt = true ↔ pkt.src ∈ gp.members ∧ Direct gp pkt.dst = false := by
  rw [Nft.drops6, Bool.and_eq_true]
  by_cases h6 : Nft.members6 gp = []
  · -- without IPv6 members there is no rule, and the source is none
    have hsource : pkt.src ∉ gp.members := by
      intro hmem
      exact absurd h6 (List.ne_nil_of_mem (mem_members6.2 ⟨hmem, hsrc⟩))
    exact iff_of_false (by simp [h6]) fun h => hsource h.1
  · rw [and_iff_right (by simpa using h6)]
    refine hit_own hsrc hdst ?_ ?_ (any_locals6 hdst)
    · rw [Nft.holds_via6 hsets]
      constructor
      · rintro ⟨gp', hgp', hname, hmem⟩
        rw [hown gp' hgp' hname] at hmem
        exact (mem_members6.1 hmem).1
      · intro hmem
        exact ⟨gp, hgp, rfl, mem_members6.2 ⟨hmem, hsrc⟩⟩
    · have helems : elemsOf (Nft.setDefs gp) ("degc_local6_" ++ Nft.sanitize gp.gateway.name) =
          (Nft.locals6 gp.gateway).map (·.toCidr) := (Nft.elemsOf_setDefs gp).2.2.2 h6
      have hheld := Nft.holds_own hsets hgp hown (b := "degc_local6_") (by decide) pkt.dst
      rw [helems, List.any_map] at hheld
      exact hheld.trans (any_locals6 hdst)

/-- No gateway marks what no member of it, or of another gateway with its sets, sends. -/
lemma marks_of_not_mem (hsets : ∀ n, elemsAt sets n = elemsOf (p.gateways.flatMap Nft.setDefs) n)
    {gp : GatewayPlan} {pkt : Packet} (h : ∀ gp' ∈ p.gateways,
      Nft.sanitize gp'.gateway.name = Nft.sanitize gp.gateway.name → pkt.src ∉ gp'.members) :
    Nft.marks sets gp pkt = false ∧ Nft.drops6 sets gp pkt = false := by
  have hvia : holds sets (Nft.viaName gp.gateway) pkt.src = false := by
    rw [← Bool.not_eq_true, Nft.holds_via hsets]
    rintro ⟨gp', hgp', hname, hmem⟩
    exact h gp' hgp' hname (mem_members4.1 hmem).1
  have hvia6 : holds sets (Nft.via6Name gp.gateway) pkt.src = false := by
    rw [← Bool.not_eq_true, Nft.holds_via6 hsets]
    rintro ⟨gp', hgp', hname, hmem⟩
    exact h gp' hgp' hname (mem_members6.1 hmem).1
  constructor
  · simp [Nft.marks, Nft.Hit, hvia]
  · simp [Nft.drops6, Nft.Hit, hvia6]

/-- No gateway marks what comes from an IPv6 address. -/
lemma marks_of_isIpv6 {gp : GatewayPlan} {pkt : Packet} (hsrc : pkt.src.isIpv4 = false) :
    Nft.marks sets gp pkt = false := by
  simp [Nft.marks, Nft.Hit, Family.has, hsrc]

/-- No gateway drops what comes from an IPv4 address as IPv6. -/
lemma drops6_of_isIpv4 {gp : GatewayPlan} {pkt : Packet} (hsrc : pkt.src.isIpv4 = true) :
    Nft.drops6 sets gp pkt = false := by
  simp [Nft.drops6, Nft.Hit, Family.has, hsrc]

/-- A gateway that has its sets for itself leaves alone what is direct. -/
lemma marks_of_direct (hsets : ∀ n, elemsAt sets n = elemsOf (p.gateways.flatMap Nft.setDefs) n)
    {gp : GatewayPlan} (hgp : gp ∈ p.gateways) (hown : Unshared p gp) {pkt : Packet}
    (hfamily : pkt.src.isIpv4 = pkt.dst.isIpv4) (hdirect : Direct gp pkt.dst = true) :
    Nft.marks sets gp pkt = false ∧ Nft.drops6 sets gp pkt = false := by
  cases hsrc : pkt.src.isIpv4 with
  | true =>
      refine ⟨?_, drops6_of_isIpv4 hsrc⟩
      rw [← Bool.not_eq_true, marks_own hsets hgp hown hsrc (hfamily.symm.trans hsrc), hdirect]
      simp
  | false =>
      have hdst := hfamily.symm.trans hsrc
      refine ⟨marks_of_isIpv6 hsrc, ?_⟩
      rw [← Bool.not_eq_true, drops6_own hsets hgp hown (by simp [hsrc]) (by simp [hdst]), hdirect]
      simp

end Sets

/-! ### The data plane -/

section Converged

variable {h₀ h : Host} {p : Plan} {d : Desired} {sets : Sets} {link : IpAddr → String}

/-- What an IPv6 member sends to an address that is not direct is dropped. -/
lemma forward_drop6 (ht : h.nft["inet degc"]? = some ⟨sets, Nft.chains p⟩)
    (hsets : ∀ n, elemsAt sets n = elemsOf (p.gateways.flatMap Nft.setDefs) n) {pkt : Packet}
    (hsrc : pkt.src.isIpv6 = true) (hdst : pkt.dst.isIpv6 = true) {gp : GatewayPlan}
    (hgp : gp ∈ p.gateways) (hmem : pkt.src ∈ gp.members) (hown : Unshared p gp)
    (hdirect : Direct gp pkt.dst = false) : h.forward pkt = none := by
  rw [Option.eq_none_iff_forall_ne_some]
  intro r hr
  obtain ⟨-, dev, -, hall⟩ := (Nft.forward_eq_some ht rfl).1 hr
  have hdrop := (drops6_own hsets hgp hown hsrc hdst).2 ⟨hmem, hdirect⟩
  rw [(hall gp hgp).1] at hdrop
  exact absurd hdrop (by simp)

/-- What an IPv4 member sends to an address that is not direct takes the live default, if there is
one. -/
lemma forward_live (hk : Kept h₀.fib h.fib) (hc : Compiled p d)
    (ht : h.nft["inet degc"]? = some ⟨sets, Nft.chains p⟩) {pkt : Packet}
    (hsrc : pkt.src.isIpv4 = true) (hdst : pkt.dst.isIpv4 = true)
    (haway : lookup h.fib.routes 255 pkt.dst = none) {gp : GatewayPlan} (hgp : gp ∈ p.gateways)
    (hmarks : ∀ gp' ∈ p.gateways, Nft.marks sets gp' pkt = true ↔ gp' = gp)
    (hown : OwnRules gp h.fib) (h4 : ∀ ip, gp.egress = .nextHop ip → ip.isIpv4 = true)
    (hset : Converged link gp h.fib) : h.forward pkt = Route.liveOf link gp := by
  obtain ⟨a, ha⟩ : ∃ a, pkt.dst = .v4 a := by
    cases hd : pkt.dst with
    | v4 a => exact ⟨a, rfl⟩
    | v6 a => exact absurd hdst (by simp [hd, IpAddr.isIpv4])
  have hrule : Route.ruleOf gp ∈ h.fib.rules :=
    List.count_pos_iff.1 (by rw [hset.rule]; exact Nat.one_pos)
  have hlookup := hset.lookup_eq h4 a
  have hroute := hk.route_diverted hown (hc.mark gp hgp).2 hrule (ha ▸ haway)
    (by rw [hlookup]; simp)
  ext r
  rw [forward_marked hc ht hgp hmarks fun gp' _ => drops6_of_isIpv4 hsrc, ha, hroute, hlookup]
  cases hl : Route.liveOf link gp with
  | none =>
      simp only [Option.getD_none, Option.some.injEq, reduceCtorEq, iff_false, not_and]
      rintro rfl ⟨dev, hdev, -⟩
      exact absurd hdev (by simp [Route.floorOf, Hop.oif])
  | some l =>
      simp only [Option.getD_some, Option.some.injEq, and_iff_left_iff_imp]
      rintro rfl
      rw [Route.liveOf] at hl
      cases he : gp.egress with
      | unavailable why => simp [he] at hl
      | interface iface =>
          rw [he] at hl
          obtain rfl := Option.some.inj hl
          exact ⟨iface, rfl, rfl⟩
      | nextHop ip =>
          rw [he] at hl
          obtain rfl := Option.some.inj hl
          exact ⟨link ip, rfl, trivial⟩

/-- What a member sends. -/
lemma forward_member (hconn : Connected h₀) (hk : Kept h₀.fib h.fib) (hc : Compiled p d)
    (ht : h.nft["inet degc"]? = some ⟨sets, Nft.chains p⟩)
    (hsets : ∀ n, elemsAt sets n = elemsOf (p.gateways.flatMap Nft.setDefs) n) {pkt : Packet}
    (hpkt : Forwarded h₀ pkt) (halone : Alone p pkt.src) {gp : GatewayPlan} (hgp : gp ∈ p.gateways)
    (hmem : pkt.src ∈ gp.members) (hown : OwnRules gp h.fib)
    (hset : (∀ ip, gp.egress = .nextHop ip → ip.isIpv4 = true) → Converged link gp h.fib) :
    h.forward pkt = if Direct gp pkt.dst then h₀.forward pkt
      else if pkt.src.isIpv4 then Route.liveOf link gp else none := by
  have hunshared := halone.sets gp hgp hmem
  have h4 := halone.nextHop gp hgp hmem
  -- the other gateways neither have the source as a member nor share a set with one that has
  have hothers : ∀ gp' ∈ p.gateways, gp' ≠ gp →
      Nft.marks sets gp' pkt = false ∧ Nft.drops6 sets gp' pkt = false := by
    intro gp' hgp' hne
    refine marks_of_not_mem hsets fun gp'' hgp'' hname hmem'' => ?_
    obtain rfl : gp'' = gp := halone.one gp hgp gp'' hgp'' hmem hmem''
    exact hne (hunshared gp' hgp' hname.symm)
  cases hdirect : Direct gp pkt.dst with
  | true =>
      have hleft : ∀ gp' ∈ p.gateways,
          Nft.marks sets gp' pkt = false ∧ Nft.drops6 sets gp' pkt = false := by
        intro gp' hgp'
        by_cases heq : gp' = gp
        · rw [heq]
          exact marks_of_direct hsets hgp hunshared hpkt.family hdirect
        · exact hothers gp' hgp' heq
      rw [if_pos rfl]
      exact forward_direct hconn hk hc ht hpkt.mark (fun gp' hgp' => (hleft gp' hgp').1)
        fun gp' hgp' => (hleft gp' hgp').2
  | false =>
      rw [if_neg (by simp)]
      cases hsrc : pkt.src.isIpv4 with
      | true =>
          have hdst := hpkt.family.symm.trans hsrc
          have haway : lookup h.fib.routes 255 pkt.dst = none := by
            rw [hk.lookup_eq hconn (Or.inr rfl)]
            exact hpkt.away
          have hmarks : ∀ gp' ∈ p.gateways, Nft.marks sets gp' pkt = true ↔ gp' = gp := by
            intro gp' hgp'
            constructor
            · intro hmark
              by_contra hne
              rw [(hothers gp' hgp' hne).1] at hmark
              exact absurd hmark (by simp)
            · rintro rfl
              exact (marks_own hsets hgp hunshared hsrc hdst).2 ⟨hmem, hdirect⟩
          rw [if_pos rfl]
          exact forward_live hk hc ht hsrc hdst haway hgp hmarks hown h4 (hset h4)
      | false =>
          have hdst := hpkt.family.symm.trans hsrc
          rw [if_neg (by simp)]
          exact forward_drop6 ht hsets (by simp [hsrc]) (by simp [hdst]) hgp hmem hunshared hdirect

/-- A host with the table of a plan forwards packets as the plan is for when its gateways are as
they are to be. -/
lemma dataPlane_of_converged (hconn : Connected h₀) (hk : Kept h₀.fib h.fib) (hc : Compiled p d)
    (ht : h.nft["inet degc"]? = some ⟨sets, Nft.chains p⟩)
    (hsets : ∀ n, elemsAt sets n = elemsOf (p.gateways.flatMap Nft.setDefs) n)
    (hown : ∀ gp ∈ p.gateways, OwnRules gp h.fib)
    (hset : ∀ gp ∈ p.gateways, (∀ ip, gp.egress = .nextHop ip → ip.isIpv4 = true) →
      Converged link gp h.fib) : DataPlane link h₀ h p where
  forward pkt hpkt halone := by
    rw [Plan.forward]
    cases hfind : p.gateways.find? (·.members.contains pkt.src) with
    | none =>
        have hleft : ∀ gp ∈ p.gateways,
            Nft.marks sets gp pkt = false ∧ Nft.drops6 sets gp pkt = false := by
          intro gp _
          refine marks_of_not_mem hsets fun gp' hgp' _ hmem => ?_
          exact List.find?_eq_none.1 hfind gp' hgp' (Std.TreeSet.contains_iff_mem.2 hmem)
        exact forward_direct hconn hk hc ht hpkt.mark (fun gp hgp => (hleft gp hgp).1)
          fun gp hgp => (hleft gp hgp).2
    | some gp =>
        have hgp := List.mem_of_find?_eq_some hfind
        have hcontains := List.find?_some hfind
        exact forward_member hconn hk hc ht hsets hpkt halone hgp
          (Std.TreeSet.contains_iff_mem.1 hcontains) (hown gp hgp) (hset gp hgp)
  drop6 pkt hpkt hsrc gp hgp hmem hunshared hdirect := by
    refine forward_drop6 ht hsets hsrc ?_ hgp hmem hunshared hdirect
    rw [IpAddr.isIpv6_eq_not] at hsrc ⊢
    rwa [← hpkt.family]

end Converged

/-- On a connected host, whatever plans were run on it before, a plan whose check passes and whose
programs are let through is applied, and packets are forwarded as the plan is for. -/
theorem Reachable.dataPlane {h₀ h : Host} (hconn : Connected h₀) (hr : Reachable h₀ h) {p : Plan}
    {d : Desired} (hc : Compiled p d) {env : Env} (hlets : env.Lets d)
    (hcheck : Env.preflight h d.guards = .ok ()) :
    (Enforce.apply env.world d h).2 = .ok () ∧
      DataPlane env.link h₀ (Enforce.apply env.world d h).1 p := by
  have hclean := hconn.toClean
  obtain ⟨rs, hload, happly⟩ := hc.apply_of_lets hlets hcheck
  have hr' := hr.apply hc env d.ip.length
  rw [Desired.upTo_length, happly] at hr'
  rw [happly]
  obtain ⟨sets, ht, hsets⟩ :=
    Nft.table_of_loadText hc.plainEgress (Nft.compile_eq_ok hc.compile).2.1 hload
  have hfree := (hc.preflight ((hr.kept hclean).devs hclean)).1 hcheck
  refine ⟨rfl, dataPlane_of_converged hconn (hr'.kept hclean) hc ht hsets ?_
    (hr.converged hclean hc hlets happly).2.1⟩
  exact hc.ownRules hfree env fun c hmem => hc.ip ▸ hmem

omit [Libraries] in
/-- On the host in the home network, after a plan without members, what the member of the next plan
sends to an address outside leaves by the gateway, and what it sends to the home network does
not. -/
theorem dataPlane_homePlan : ∃ d h, @Compiled .plain (homePlan 100 appTargets) d ∧
    @Reachable .plain homeHost h ∧
    (@Enforce.apply .plain _ Env.allOk.world d h).1.forward
        ⟨.v4 0xac120007, .v4 0x01010101, 0, none⟩ =
      some ⟨100, .default4, .via (.v4 0xac120002) "eth0", 194, 1⟩ ∧
    (@Enforce.apply .plain _ Env.allOk.world d h).1.forward
        ⟨.v4 0xac120007, .v4 0xc0a80014, 0, none⟩ =
      some ⟨254, ⟨.v4 0xc0a80000, 24⟩, .dev "eth0", 2, 0⟩ := by
  obtain ⟨d, hc⟩ := exists_compiled appTargets "degc" (vpnGateways 100) (by decide) (by decide)
  obtain ⟨-, h, -, happlied⟩ := applied_homePlan
  have hcheck := @Applied.preflight .plain _ _ connected_homeHost.toClean _ happlied _ _ hc
    (by decide) (by decide)
  have hr := @Applied.reachable .plain _ _ _ happlied
  obtain ⟨-, hplane⟩ := @Reachable.dataPlane .plain _ _ connected_homeHost hr _ _ hc _
    (Env.lets_allOk d) hcheck
  obtain ⟨g, hg⟩ : ∃ g, (homePlan 100 appTargets).gateways = [g] :=
    List.length_eq_one_iff.1 (by decide)
  have hsame : ∀ gp ∈ (homePlan 100 appTargets).gateways,
      ∀ gp' ∈ (homePlan 100 appTargets).gateways, gp' = gp := by
    rw [hg]
    simp
  have hegress : ∀ gp ∈ (homePlan 100 appTargets).gateways,
      gp.egress = .nextHop (.v4 0xac120002) := by
    decide
  have halone : @Alone (homePlan 100 appTargets) (.v4 0xac120007) := by
    refine ⟨fun gp hgp gp' hgp' _ _ => hsame gp hgp gp' hgp',
      fun gp hgp _ gp' hgp' _ => hsame gp hgp gp' hgp', fun gp hgp _ ip hip => ?_⟩
    rw [hegress gp hgp] at hip
    obtain rfl := Egress.nextHop.inj hip
    rfl
  refine ⟨d, h, hc, hr, ?_, ?_⟩
  · rw [@DataPlane.forward .plain _ _ _ _ hplane _ ⟨rfl, rfl, by decide⟩ halone]
    decide +kernel
  · rw [@DataPlane.forward .plain _ _ _ _ hplane _ ⟨rfl, rfl, by decide⟩ halone]
    decide +kernel

end Degc
