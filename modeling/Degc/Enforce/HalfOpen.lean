import Degc.Enforce.DataPlane
import Degc.Enforce.Floor

/-!
# While a plan is applied

The table of the packet filter is replaced first, and the rules and routes follow one
by one.  In between, a packet can be marked already for a gateway whose rule is not
there yet, and then goes to the main table, or whose table still has the live default
of an earlier plan.

The main result is `History.closed`: when every plan finds the gateways that mark
anything prepared, nothing that is marked leaves by the main table's default or by
another egress, wherever a run is killed or stops.
-/

namespace Degc

open Net Text Fib Netfilter

variable [Libraries]

/-! ### Packets that are marked -/

omit [Libraries] in
/-- A route goes by an egress. -/
def Through : Egress → Fib.Route → Prop
  | .interface iface, r => r.hop.oif = some iface
  | .nextHop ip, r => ∃ dev, r.hop = .via ip dev
  | .unavailable _, _ => False

omit [Libraries] in
/-- A route goes by the egress of a gateway, or by the one it had under the plan before. -/
def ByEgress (old : Option Plan) (gp : GatewayPlan) (r : Fib.Route) : Prop :=
  Through gp.egress r ∨ ∃ q, old = some q ∧ ∃ gp' ∈ q.gateways,
    gp'.gateway.name = gp.gateway.name ∧ Through gp'.egress r

/-- The table that is installed marks the packets between two addresses for a gateway, whatever
mark they arrive with. -/
def Host.Marks (h : Host) (gp : GatewayPlan) (src dst : BitVec 32) : Prop :=
  ∀ m, ∃ pkt, h.hook "prerouting" ⟨.v4 src, .v4 dst, m, none⟩ = some pkt ∧
    pkt.mark = Nft.markOf gp

/-- What is marked for a gateway of a plan is dropped or leaves by an egress of the gateway, and not
by the default of the main table. -/
def Closed (old : Option Plan) (p : Plan) (h : Host) : Prop :=
  ∀ gp ∈ p.gateways, ∀ src dst : BitVec 32, lookup h.fib.routes 255 (.v4 dst) = none →
    h.Marks gp src dst → ∀ m r, h.forward ⟨.v4 src, .v4 dst, m, none⟩ = some r →
      ByEgress old gp r ∧ ¬ (r.table = 254 ∧ r.dst = .default4)

/-! ### Plans one after the other -/

/-- The plans that are applied one after the other, each when a condition holds of the plan before
it, the plan and the host: the plan before the last one, the last one whose script was loaded, and
the host behind any number of its commands, whatever fails.  A plan that fails before its script is
loaded changes nothing. -/
inductive History (C : Option Plan → Plan → Host → Prop) (h₀ : Host) :
    Option Plan → Option Plan → Host → Prop
  | start : History C h₀ none none h₀
  | apply {old cur : Option Plan} {h : Host} {p : Plan} {d : Desired}
      (hh : History C h₀ old cur h) (hc : Compiled p d) (hcond : C cur p h)
      (hcheck : Env.preflight h d.guards = .ok ()) (env : Env) (hnft : env.nft d.nft = .ok ())
      (k : ℕ) : History C h₀ cur (some p) (Enforce.apply env.world (d.upTo k) h).1

lemma History.reachable {C : Option Plan → Plan → Host → Prop} {h₀ h : Host}
    {old cur : Option Plan} (hh : History C h₀ old cur h) : Reachable h₀ h := by
  induction hh with
  | start => exact .start
  | apply _ hc _ _ env _ k ih => exact ih.apply hc env k

/-- A gateway marks what one address sends to another: a gateway with its sets has the one as a
member, and none with its sets has the other as direct. -/
def Plan.marked (p : Plan) (src dst : BitVec 32) (gp : GatewayPlan) : Bool :=
  let shared := p.gateways.filter fun gp' =>
    Nft.sanitize gp'.gateway.name == Nft.sanitize gp.gateway.name
  (shared.any fun gp' => (Nft.members4 gp').contains (.v4 src)) &&
    ((Nft.locals4 gp.gateway).isEmpty || !shared.any (Direct · (.v4 dst)))

/-- The gateway for which a plan marks what one address sends to another. -/
def Plan.marker (p : Plan) (src dst : BitVec 32) : Option GatewayPlan :=
  (p.gateways.filter (p.marked src dst)).getLast?

/-- A host is prepared for what a gateway marks to an address.  Unless the egress is unavailable,
the rule of the gateway is there, or the main table lets the address be reached by the egress only
and not by a default; and for a next hop there is no live default of an earlier plan. -/
def Ready (old : Option Plan) (h : Host) (gp : GatewayPlan) (dst : BitVec 32) : Egress → Prop
  | .interface iface => Route.ruleOf gp ∈ h.fib.rules ∨ ∀ r : Fib.Route,
      lookup h.fib.routes 254 (.v4 dst) = some r → r.dst = .default4 → r.hop.oif ≠ some iface
  | .nextHop ip => (Route.ruleOf gp ∈ h.fib.rules ∨ ∀ r : Fib.Route,
      lookup h.fib.routes 254 (.v4 dst) = some r → r.hop.oif ≠ none →
        Through (.nextHop ip) r ∧ r.dst ≠ .default4) ∧
    ∀ r ∈ h.fib.routes, r.table = Route.tableOf gp → r.dst = .default4 → r.metric = 1 →
      ByEgress old gp r
  | .unavailable _ => True

/-- A host is prepared for all that a plan marks for it to forward. -/
def Prepared (old : Option Plan) (p : Plan) (h : Host) : Prop :=
  ∀ src dst gp, p.marker src dst = some gp → lookup h.fib.routes 255 (.v4 dst) = none →
    Ready old h gp dst gp.egress

/-! ### What is marked -/

section Marks

variable {h : Host} {p : Plan} {d : Desired} {sets : Sets}

/-- The rule of a gateway marks what the plan says. -/
lemma marks_eq_marked (hsets : ∀ n, elemsAt sets n = elemsOf (p.gateways.flatMap Nft.setDefs) n)
    (gp : GatewayPlan) (src dst : BitVec 32) (m : ℕ) :
    Nft.marks sets gp ⟨.v4 src, .v4 dst, m, none⟩ = p.marked src dst gp := by
  have hvia := Nft.holds_via hsets gp.gateway (.v4 src)
  have hlocal := Nft.holds_local hsets gp.gateway (.v4 dst)
  have hdirect : ∀ gp' : GatewayPlan,
      (Nft.locals4 gp'.gateway).any (·.contains (.v4 dst)) = Direct gp' (.v4 dst) :=
    fun gp' => any_locals4 rfl
  have hmember : holds sets (Nft.viaName gp.gateway) (.v4 src) =
      (p.gateways.filter fun gp' => Nft.sanitize gp'.gateway.name ==
        Nft.sanitize gp.gateway.name).any fun gp' => (Nft.members4 gp').contains (.v4 src) := by
    rw [Bool.eq_iff_iff, hvia]
    simp [List.any_eq_true]
  have hexcluded : holds sets (Nft.localName gp.gateway) (.v4 dst) =
      (p.gateways.filter fun gp' => Nft.sanitize gp'.gateway.name ==
        Nft.sanitize gp.gateway.name).any (Direct · (.v4 dst)) := by
    rw [Bool.eq_iff_iff, hlocal]
    simp [List.any_eq_true, hdirect]
  rw [Nft.marks, Nft.Hit, Plan.marked, hmember, hexcluded]
  rfl

/-- What is marked for a gateway of a compiled plan is what the plan marks for it. -/
lemma Host.Marks.marker (hc : Compiled p d)
    (ht : h.nft["inet degc"]? = some ⟨sets, Nft.chains p⟩)
    (hsets : ∀ n, elemsAt sets n = elemsOf (p.gateways.flatMap Nft.setDefs) n) {gp : GatewayPlan}
    (hgp : gp ∈ p.gateways) {src dst : BitVec 32} (hmarks : h.Marks gp src dst) :
    p.marker src dst = some gp := by
  have hsome : ∀ m, ((p.marker src dst).map Nft.markOf).getD m = Nft.markOf gp := by
    intro m
    obtain ⟨pkt, hpkt, hmark⟩ := hmarks m
    rw [Nft.hook_mark ht] at hpkt
    rw [← hmark, ← Option.some.inj hpkt, Plan.marker]
    simp only [marks_eq_marked hsets]
  -- the mark is not the one of the packet, which may be any
  have hother := hsome (Nft.markOf gp + 1)
  cases hlast : p.marker src dst with
  | none =>
      rw [hlast] at hother
      simp at hother
  | some gp' =>
      rw [hlast] at hother
      have hgp' := (List.mem_filter.1 (List.mem_of_getLast? hlast)).1
      rw [hc.eq_of_mark hgp hgp' hother.symm]

end Marks

/-! ### The routes behind a run -/

/-- Running commands of gateways adds floors and live defaults of the gateways only. -/
lemma routes_of_run (env : Env) {gps : List GatewayPlan} {cs : List Route.IpCmd}
    (hcs : ∀ c ∈ cs, c ∈ gps.flatMap Route.cmdsOf) (f : Fib) :
    ∀ r ∈ (Script.run env.runIp cs f).1.routes, r ∈ f.routes ∨
      ∃ gp ∈ gps, r = Route.floorOf gp ∨ Route.liveOf env.link gp = some r := by
  refine Script.run_invariant (P := fun f' : Fib => ∀ r ∈ f'.routes, r ∈ f.routes ∨
    ∃ gp ∈ gps, r = Route.floorOf gp ∨ Route.liveOf env.link gp = some r) (fun c hc f' hf' => ?_)
    fun _ hr => Or.inl hr
  obtain ⟨gp, hgp, hcmd⟩ := List.mem_flatMap.1 (hcs c hc)
  intro r hr
  rcases (Route.effect_of_mem env gp f' hcmd).mem_routes hr with hr | hnew
  · exact hf' r hr
  · exact Or.inr ⟨gp, hgp, hnew⟩

omit [Libraries] in
/-- The live default of a gateway goes by its egress. -/
lemma through_liveOf {link : IpAddr → String} {gp : GatewayPlan} {r : Fib.Route}
    (h : Route.liveOf link gp = some r) : Through gp.egress r := by
  rw [Route.liveOf] at h
  cases he : gp.egress with
  | unavailable why => simp [he] at h
  | interface iface =>
      rw [he] at h
      obtain rfl := Option.some.inj h
      rfl
  | nextHop ip =>
      rw [he] at h
      obtain rfl := Option.some.inj h
      exact ⟨link ip, rfl⟩

/-! ### Every state of a run -/

section Run

variable {h₀ h : Host} {old : Option Plan} {p : Plan} {d : Desired} {env : Env}
  {cs : List Route.IpCmd}

/-- What is routed by the table of a gateway goes by an egress of the gateway, if the gateway lets
it leave. -/
lemma byEgress_of_table (hconn : Connected h₀) (hk' : Kept h₀.fib (Script.run env.runIp cs h.fib).1)
    (hc : Compiled p d) (hcs : ∀ c ∈ cs, c ∈ p.gateways.flatMap Route.cmdsOf) {gp : GatewayPlan}
    (hgp : gp ∈ p.gateways) (husable : Usable h₀.fib gp) {a : BitVec 32}
    (hready : Ready old h gp a gp.egress) {r : Fib.Route}
    (hr : lookup (Script.run env.runIp cs h.fib).1.routes (Route.tableOf gp) (.v4 a) = some r)
    {dev : String} (hdev : r.hop.oif = some dev) (hpass : Nft.Passes gp.egress (some dev)) :
    ByEgress old gp r ∧ r.table ≠ 254 := by
  obtain ⟨hmem, hserves⟩ := mem_of_lookup hr
  simp only [Fib.Route.serves, Bool.and_eq_true, beq_iff_eq] at hserves
  obtain ⟨htable, hcontains⟩ := hserves
  have h4 : r.dst.addr.isIpv4 = true := Cidr.isIpv4_of_contains hcontains
  obtain ⟨hdst, hkind⟩ := (hk'.ourRoute husable hmem htable h4).v4 h4
  constructor
  · have hmetric : r.metric = 1 := by
      refine hkind.resolve_left ?_
      rintro ⟨-, hhop⟩
      rw [hhop] at hdev
      exact absurd hdev (by simp [Hop.oif])
    rcases routes_of_run env hcs h.fib r hmem with hold | ⟨gp', hgp', rfl | hlive⟩
    · cases he : gp.egress with
      | unavailable why => simp [he, Nft.Passes] at hpass
      | interface iface =>
          refine Or.inl ?_
          rw [he] at hpass ⊢
          exact hdev.trans hpass
      | nextHop ip =>
          rw [he] at hready
          exact hready.2 r hold htable hdst hmetric
    · exact absurd hdev (by simp [Route.floorOf, Hop.oif])
    · have hsame := (Route.liveOf_eq_some hlive).1.symm.trans htable
      rw [hc.eq_of_table hgp' hgp hsame] at hlive
      exact Or.inl (through_liveOf hlive)
  · obtain ⟨r₀, hr₀, hmain, hdst₀⟩ := hconn.main
    have hapart := husable.apart r₀ hr₀ (by rw [hdst₀]; rfl)
    rw [htable]
    exact fun h => hapart (hmain.trans h.symm)

/-- What is routed by the main table because the rule of a gateway is not there goes by the egress
of the gateway and not by the default, if the gateway lets it leave. -/
lemma byEgress_of_main (hconn : Connected h₀) (hk : Kept h₀.fib h.fib) {gp : GatewayPlan}
    (hrule : Route.ruleOf gp ∉ h.fib.rules) {a : BitVec 32} (hready : Ready old h gp a gp.egress)
    {r : Fib.Route} (hr : lookup h₀.fib.routes 254 (.v4 a) = some r) {dev : String}
    (hdev : r.hop.oif = some dev) (hpass : Nft.Passes gp.egress (some dev)) :
    ByEgress old gp r ∧ r.dst ≠ .default4 := by
  rw [← hk.lookup_eq hconn (Or.inl rfl)] at hr
  cases he : gp.egress with
  | unavailable why => simp [he, Nft.Passes] at hpass
  | nextHop ip =>
      rw [he] at hready
      obtain ⟨hthrough, hdst⟩ := hready.1.resolve_left hrule r hr (by simp [hdev])
      exact ⟨Or.inl (he ▸ hthrough), hdst⟩
  | interface iface =>
      rw [he] at hready hpass
      refine ⟨Or.inl ?_, fun hdst => ?_⟩
      · rw [he]
        exact hdev.trans hpass
      · exact hready.resolve_left hrule r hr hdst (hdev.trans hpass)

end Run

/-- A plan that passes the check and whose script is let through, as far as its commands are run. -/
lemma Compiled.apply_upTo {p : Plan} {d : Desired} (hc : Compiled p d) {h : Host}
    (hcheck : Env.preflight h d.guards = .ok ()) {env : Env} (hnft : env.nft d.nft = .ok ())
    (k : ℕ) : ∃ rs, loadText d.nft h.nft = some rs ∧
      (Enforce.apply env.world (d.upTo k) h).1 =
        ⟨rs, (Script.run env.runIp (d.ip.take k) h.fib).1⟩ := by
  obtain ⟨rs, hload⟩ :=
    Nft.exists_loadText hc.plainEgress (Nft.compile_eq_ok hc.compile).2.1 h.nft
  refine ⟨rs, hload, ?_⟩
  rw [env.apply_of_nft (d := d.upTo k) hcheck hnft hload, (env.routeApply_eq _ _).1]
  rfl

/-- While a plan is applied for which the host was prepared, nothing that is marked for a gateway
leaves by the default of the main table or by another egress. -/
lemma closed_of_prepared {h₀ h : Host} (hconn : Connected h₀) (hr : Reachable h₀ h) {p : Plan}
    {d : Desired} (hc : Compiled p d) {old : Option Plan} (hprep : Prepared old p h)
    (hcheck : Env.preflight h d.guards = .ok ()) {env : Env} (hnft : env.nft d.nft = .ok ())
    (k : ℕ) : Closed old p (Enforce.apply env.world (d.upTo k) h).1 := by
  have hclean := hconn.toClean
  have hk := hr.kept hclean
  have hr' := hr.apply hc env k
  obtain ⟨rs, hload, happly⟩ := hc.apply_upTo hcheck hnft k
  rw [happly] at hr' ⊢
  have hk' := hr'.kept hclean
  have hcs : ∀ c ∈ d.ip.take k, c ∈ p.gateways.flatMap Route.cmdsOf :=
    fun c hmem => hc.ip ▸ List.mem_of_mem_take hmem
  have hfree := (hc.preflight (hk.devs hclean)).1 hcheck
  obtain ⟨sets, ht, hsets⟩ :=
    Nft.table_of_loadText hc.plainEgress (Nft.compile_eq_ok hc.compile).2.1 hload
  intro gp hgp src dst haway hmarks m r hforward
  have husable := usable_of_free hclean hk hc hgp (hfree gp hgp)
  have hown := hc.ownRules hfree env hcs gp hgp
  have hmarker := hmarks.marker hc ht hsets hgp
  have hmark : ((p.gateways.filter (Nft.marks sets · ⟨.v4 src, .v4 dst, m, none⟩)).getLast?.map
      Nft.markOf).getD m = Nft.markOf gp := by
    rw [Plan.marker] at hmarker
    simp only [marks_eq_marked hsets, hmarker]
    rfl
  have haway' : lookup h.fib.routes 255 (.v4 dst) = none := by
    rw [hk.lookup_eq hconn (Or.inr rfl), ← hk'.lookup_eq hconn (Or.inr rfl)]
    exact haway
  have hready := hprep src dst gp hmarker haway'
  obtain ⟨hroute, dev, hdev, hall⟩ := (Nft.forward_eq_some ht hmark).1 hforward
  have hpass := (hall gp hgp).2 rfl
  by_cases hrule : Route.ruleOf gp ∈ (Script.run env.runIp (d.ip.take k) h.fib).1.rules
  · -- the rule is there, and so is a floor: the table of the gateway decides
    have hfloor : HasFloor (Route.tableOf gp) (Script.run env.runIp (d.ip.take k) h.fib).1 :=
      (hr'.floored _ hrule).resolve_left (hclean.ruleOf_not_mem gp)
    rw [hk'.route_diverted hown (hc.mark gp hgp).2 hrule haway (hfloor.lookup_ne_none dst)]
      at hroute
    obtain ⟨hby, htable⟩ := byEgress_of_table hconn hk' hc hcs hgp husable hready hroute hdev hpass
    exact ⟨hby, fun h => htable h.1⟩
  · -- the rule is not there, and was not before: the main table decides
    have hold : Route.ruleOf gp ∉ h.fib.rules := fun h => hrule ((rules_of_run env hcs _).1 _ h)
    rw [hk'.route_undiverted hconn hown (hc.mark gp hgp).2 hrule haway] at hroute
    obtain ⟨hby, hdst⟩ := byEgress_of_main hconn hk hold hready hroute hdev hpass
    exact ⟨hby, fun h => hdst h.2⟩

/-- When every plan finds the host prepared, nothing that is marked for a gateway of the plan whose
table is installed leaves by the default of the main table or by another egress than those of the
gateway under this plan and under the one before it, wherever the run is. -/
theorem History.closed {h₀ h : Host} (hconn : Connected h₀) {old : Option Plan} {p : Plan}
    (hh : History Prepared h₀ old (some p) h) : Closed old p h := by
  cases hh with
  | apply hh hc hprep hcheck env hnft k =>
      exact closed_of_prepared hconn hh.reachable hc hprep hcheck hnft k

/-- A host is prepared for a gateway whose name, mark and table are those of one that is as it is to
be. -/
lemma ready_of_converged {link : IpAddr → String} {q : Plan} {gp gp' : GatewayPlan} {h : Host}
    (hgp' : gp' ∈ q.gateways) (hname : gp'.gateway.name = gp.gateway.name)
    (hrule : Route.ruleOf gp' = Route.ruleOf gp) (hset : Converged link gp' h.fib)
    (dst : BitVec 32) : Ready (some q) h gp dst gp.egress := by
  have hmem : Route.ruleOf gp ∈ h.fib.rules := by
    rw [← hrule]
    exact List.count_pos_iff.1 (by rw [hset.rule]; exact Nat.one_pos)
  cases gp.egress with
  | unavailable why => trivial
  | interface iface => exact Or.inl hmem
  | nextHop ip =>
      refine ⟨Or.inl hmem, fun r hr htable hdst hmetric => Or.inr ⟨q, rfl, gp', hgp', hname, ?_⟩⟩
      have hsame : Route.tableOf gp' = Route.tableOf gp := congrArg Rule.table hrule
      have htable4 : r ∈ table4 (Route.tableOf gp') h.fib := by
        refine List.mem_filter.2 ⟨hr, ?_⟩
        rw [htable, hsame, hdst, beq_self_eq_true]
        rfl
      rcases List.mem_cons.1 (hset.routes.mem_iff.1 htable4) with rfl | hlive
      · exact absurd hmetric (show (9999 : ℕ) ≠ 1 by decide)
      · exact through_liveOf (Option.mem_toList.1 hlive)

/-! ### A member in the home network -/

section Home

omit [Libraries]

/-- The gateway of the home network with a member. -/
@[reducible] def appGateway : GatewayPlan := (homePlan 100 appTargets).gateways.get ⟨0, by decide⟩

lemma eq_appGateway : ∀ gp ∈ (homePlan 100 appTargets).gateways, gp = appGateway := by
  obtain ⟨g, hg⟩ : ∃ g, (homePlan 100 appTargets).gateways = [g] :=
    List.length_eq_one_iff.1 (by decide)
  have hmem : appGateway ∈ (homePlan 100 appTargets).gateways := List.get_mem _ _
  rw [hg] at hmem ⊢
  intro gp hgp
  rw [List.mem_singleton.1 hgp, List.mem_singleton.1 hmem]

/-- A plan without members is applied first, and the one with the member is killed behind its
script: what the member sends does not leave by the default of the main table. -/
theorem closed_homePlan : ∃ h, @History .plain (@Prepared .plain) homeHost
    (some (homePlan 100 [])) (some (homePlan 100 appTargets)) h ∧
    @Closed .plain (some (homePlan 100 [])) (homePlan 100 appTargets) h := by
  obtain ⟨d, hc⟩ := exists_compiled [] "degc" (vpnGateways 100) (by decide) (by decide)
  obtain ⟨d', hc'⟩ := exists_compiled appTargets "degc" (vpnGateways 100) (by decide) (by decide)
  have hclean := connected_homeHost.toClean
  have hcheck : @Env.preflight .plain homeHost d.guards = .ok () :=
    @Applied.preflight .plain _ _ hclean _ (@Applied.start .plain _) _ _ hc (by decide) (by decide)
  obtain ⟨rs, -, happly⟩ := @Compiled.apply_of_lets .plain _ _ hc _ (Env.lets_allOk d) _ hcheck
  have happlied := @Applied.apply .plain _ _ _ _ _ _ _ (@Applied.start .plain _) hc happly
  have hcheck' := @Applied.preflight .plain _ _ hclean _ happlied _ _ hc' (by decide) (by decide)
  -- without members, nothing can be marked
  have hprep : @Prepared .plain none (homePlan 100 []) homeHost := by
    intro src dst gp hmarker
    have hmarked := (List.mem_filter.1 (List.mem_of_getLast? hmarker)).2
    have hnone : ∀ gp ∈ (homePlan 100 []).gateways, Nft.members4 gp = [] := by decide
    simp only [Plan.marked, Bool.and_eq_true, List.any_eq_true] at hmarked
    obtain ⟨⟨gp', hgp', hmem⟩, -⟩ := hmarked
    rw [hnone gp' (List.mem_filter.1 hgp').1] at hmem
    exact absurd hmem (by simp)
  have hh := @History.apply .plain _ _ _ _ _ _ _ (@History.start .plain _ _) hc hprep hcheck
    Env.allOk rfl d.ip.length
  rw [Desired.upTo_length, happly] at hh
  -- the gateway is as it is to be, and only has a member more
  have hprep' : @Prepared .plain (some (homePlan 100 [])) (homePlan 100 appTargets)
      ⟨rs, (Script.run Env.allOk.runIp d.ip homeHost.fib).1⟩ := by
    intro src dst gp hmarker _
    obtain rfl := eq_appGateway gp (List.mem_filter.1 (List.mem_of_getLast? hmarker)).1
    have hmem : (homePlan 100 []).gateways.get ⟨0, by decide⟩ ∈ (homePlan 100 []).gateways :=
      List.get_mem _ _
    refine @ready_of_converged .plain _ _ _ _ _ hmem (by decide) (by decide)
      ((@Reachable.converged .plain _ _ _ hclean (@Reachable.start .plain _) _ _ hc _
        (Env.lets_allOk d) happly).2.1 _ hmem fun ip hip => ?_) dst
    have hegress : ((homePlan 100 []).gateways.get ⟨0, by decide⟩).egress =
        .nextHop (.v4 0xac120002) := by decide
    rw [hegress] at hip
    obtain rfl := Egress.nextHop.inj hip
    rfl
  have hh' := @History.apply .plain _ _ _ _ _ _ _ hh hc' hprep' hcheck' Env.allOk rfl 0
  exact ⟨_, hh', @History.closed .plain _ _ connected_homeHost _ _ hh'⟩

/-- The first plan of a gateway with a member is killed behind its script: what the member sends
leaves by the default of the main table. -/
theorem not_closed : Clean homeHost ∧ ∃ h, @History .plain (fun _ _ _ => True) homeHost none
    (some (homePlan 100 appTargets)) h ∧ ¬ @Closed .plain none (homePlan 100 appTargets) h := by
  obtain ⟨d, hc⟩ := exists_compiled appTargets "degc" (vpnGateways 100) (by decide) (by decide)
  have hclean := connected_homeHost.toClean
  have hcheck : @Env.preflight .plain homeHost d.guards = .ok () := by
    refine (@Kept.preflight .plain _ _ hclean hclean.kept _ _ hc).2 fun gp hgp => ?_
    exact @Clean.free .plain _ hclean gp (by rw [eq_appGateway gp hgp]; decide)
  obtain ⟨rs, hload, happly⟩ := @Compiled.apply_upTo .plain _ _ hc _ hcheck Env.allOk rfl 0
  obtain ⟨sets, ht, hsets⟩ := @Nft.table_of_loadText .plain _ _
    (@Compiled.plainEgress .plain _ _ hc)
    (@Nft.compile_eq_ok .plain _ _ (@Compiled.compile .plain _ _ hc)).2.1 _ _ hload
  refine ⟨hclean, _, @History.apply .plain _ _ _ _ _ _ _ (@History.start .plain _ _) hc trivial
    hcheck Env.allOk rfl 0, fun hclosed => ?_⟩
  rw [happly] at hclosed
  have hgp : appGateway ∈ (homePlan 100 appTargets).gateways := List.get_mem _ _
  have hmember : IpAddr.v4 0xac120007 ∈ appGateway.members := by decide
  have hdirect : @Direct .plain appGateway (.v4 0x01010101) = false := by decide
  have hmarks : ∀ m, ∀ gp ∈ (homePlan 100 appTargets).gateways,
      @Nft.marks .plain sets gp ⟨.v4 0xac120007, .v4 0x01010101, m, none⟩ = true ↔
        gp = appGateway := by
    intro m gp hgp'
    obtain rfl := eq_appGateway gp hgp'
    exact iff_of_true ((@marks_own .plain _ _ hsets _ hgp
      (fun gp' hgp'' _ => eq_appGateway gp' hgp'')
      _ rfl rfl).2 ⟨hmember, hdirect⟩) rfl
  have hegress : appGateway.egress = .nextHop (.v4 0xac120002) := by decide
  have haway : lookup homeHost.fib.routes 255 (.v4 0x01010101) = none := by decide
  have hroute : homeHost.fib.route (@Nft.markOf .plain appGateway) (.v4 0x01010101) =
      some ⟨254, .default4, .via (.v4 0xc0a80001) "eth0", 3, 0⟩ := by decide
  -- neither the rule nor the routes are there, so that the main table decides
  have hforward : (⟨rs, homeHost.fib⟩ : Host).forward ⟨.v4 0xac120007, .v4 0x01010101, 0, none⟩ =
      some ⟨254, .default4, .via (.v4 0xc0a80001) "eth0", 3, 0⟩ := by
    refine (@forward_marked .plain ⟨rs, homeHost.fib⟩ _ _ _ hc ht _ _ hgp (hmarks 0)
      (fun _ _ => @drops6_of_isIpv4 .plain _ _ _ rfl) _).2 ⟨hroute, "eth0", rfl, ?_⟩
    rw [hegress]
    trivial
  refine (hclosed appGateway hgp 0xac120007 0x01010101 haway (fun m => ?_) 0 _ hforward).2
    ⟨rfl, rfl⟩
  exact ⟨_, @Nft.hook_mark .plain ⟨rs, homeHost.fib⟩ _ _ ht _,
    @mark_of_marks .plain _ _ _ hgp _ (hmarks m)⟩

end Home

end Degc
