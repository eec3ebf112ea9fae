import Degc.Enforce.Diverted
import Degc.Enforce.Lockout
import Degc.Enforce.Tidy

/-!
# Convergence

What a plan leaves when it is applied does not depend on the plans before it, as
far as its gateways go: the table of the packet filter is the one of its script,
and a gateway has its rule once and, in its table, the floor and the live default.
The rule is one for IPv4 and looks the IPv4 routes of the table up.

The main result is `Reachable.converged`, which also says that applying the plan a
second time changes nothing.
-/

namespace Degc

open Net Text Fib

/-- The IPv4 routes of a table. -/
def table4 (table : ℕ) (f : Fib) : List Fib.Route :=
  f.routes.filter fun r => r.table == table && r.dst.addr.isIpv4

/-- Two hosts are the same up to the order of their routes. -/
structure Host.Same (h h' : Host) : Prop where
  nft : ∀ key : String, h.nft[key]? = h'.nft[key]?
  rules : h.fib.rules = h'.fib.rules
  rules6 : h.fib.rules6 = h'.fib.rules6
  routes : h.fib.routes.Perm h'.fib.routes

variable [Libraries]

/-- A gateway has its rule once, and its table holds the floor and the live default. -/
structure Converged (link : IpAddr → String) (gp : GatewayPlan) (f : Fib) : Prop where
  rule : f.rules.count (Route.ruleOf gp) = 1
  routes : (table4 (Route.tableOf gp) f).Perm
    (Route.floorOf gp :: (Route.liveOf link gp).toList)

/-! ### The table of a gateway -/

omit [Libraries] in
/-- Where the routes of a key are tagged and the keys of tagged routes are apart, a route is the
only one of its key. -/
lemma slot_eq_of_tagged {f : Fib} (htidy : Tidy f) {r : Fib.Route} (hr : r ∈ f.routes)
    (htagged : ∀ r' ∈ slot r.table r.dst r.metric f.routes, r'.proto = 194) :
    slot r.table r.dst r.metric f.routes = [r] := by
  have hproto : r.proto = 194 := htagged r (mem_slot.2 ⟨hr, rfl, rfl, rfl⟩)
  have hslot := htidy.tagged.slot_eq (List.mem_filter.2 ⟨hr, beq_iff_eq.2 hproto⟩)
  rw [← hslot, slot, slot, List.filter_filter]
  refine List.filter_congr fun r' hr' => ?_
  cases h : (r'.table == r.table && r'.dst == r.dst && r'.metric == r.metric) with
  | false => rfl
  | true => simp [htagged r' (List.mem_filter.2 ⟨hr', h⟩)]

/-- The IPv4 routes in the table of a gateway that may be set up are floors and live defaults. -/
lemma Kept.ourRoute {f₀ f : Fib} (hk : Kept f₀ f) {gp : GatewayPlan} (hgp : Usable f₀ gp)
    {r : Fib.Route} (hr : r ∈ f.routes) (htable : r.table = Route.tableOf gp)
    (h4 : r.dst.addr.isIpv4 = true) : OurRoute r :=
  (hk.routes r hr).resolve_left fun h₀ => hgp.apart r h₀ h4 htable

/-- The floor of a gateway that is set up is the only route of its key. -/
lemma slot_floor {f₀ f : Fib} (hk : Kept f₀ f) (htidy : Tidy f) {gp : GatewayPlan}
    (hgp : Usable f₀ gp) (hfloor : Route.floorOf gp ∈ f.routes) :
    slot (Route.tableOf gp) .default4 9999 f.routes = [Route.floorOf gp] := by
  refine slot_eq_of_tagged htidy hfloor fun r hr => ?_
  obtain ⟨hr, htable, hdst, -⟩ := mem_slot.1 hr
  exact (hk.ourRoute hgp hr htable (by rw [hdst]; rfl)).proto

/-- The live default of a gateway that is set up, if it is one of IPv4, is the only route of its
key. -/
lemma slot_live {f₀ f : Fib} (hk : Kept f₀ f) {gp : GatewayPlan} (hgp : Usable f₀ gp)
    {link : IpAddr → String} (hset : Route.Diverted link gp f)
    (h4 : ∀ ip, gp.egress = .nextHop ip → ip.isIpv4 = true) :
    slot (Route.tableOf gp) .default4 1 f.routes = (Route.liveOf link gp).toList := by
  cases hl : Route.liveOf link gp with
  | none =>
      refine List.eq_nil_iff_forall_not_mem.2 fun r hr => ?_
      obtain ⟨hr, htable, hdst, hmetric⟩ := mem_slot.1 hr
      have hours := hk.ourRoute hgp hr htable (by rw [hdst]; rfl)
      have hlive := Route.isLive_iff.2 ⟨htable, hdst, hours.proto, hmetric⟩
      rw [hset.none hl r hr] at hlive
      exact absurd hlive (by simp)
  | some r =>
      have hdst := Route.liveOf_dst hl h4
      obtain ⟨htable, hmetric, -, -⟩ := Route.liveOf_eq_some hl
      have hslot := hset.live r hl
      rwa [htable, hmetric, hdst] at hslot

omit [Libraries] in
/-- Where all IPv4 routes of a table are defaults, those of a metric are the ones of its key. -/
lemma filter_table4 {t m : ℕ} {f : Fib} {p : Fib.Route → Bool}
    (hdst : ∀ r ∈ f.routes, r.table = t → r.dst.addr.isIpv4 = true → r.dst = .default4)
    (hp : ∀ r ∈ f.routes, r.table = t → r.dst.addr.isIpv4 = true →
      (p r = true ↔ r.metric = m)) :
    (table4 t f).filter p = slot t .default4 m f.routes := by
  rw [table4, slot, List.filter_filter]
  refine List.filter_congr fun r hr => ?_
  rw [Bool.eq_iff_iff]
  simp only [Bool.and_eq_true, beq_iff_eq]
  constructor
  · rintro ⟨hpr, htable, h4⟩
    exact ⟨⟨htable, hdst r hr htable h4⟩, (hp r hr htable h4).1 hpr⟩
  · rintro ⟨⟨htable, hdefault⟩, hmetric⟩
    have h4 : r.dst.addr.isIpv4 = true := by rw [hdefault]; rfl
    exact ⟨(hp r hr htable h4).2 hmetric, htable, h4⟩

/-- What is set up on a reached host is all that there is. -/
lemma converged_of_diverted {f₀ f : Fib} (hk : Kept f₀ f) (htidy : Tidy f) {gp : GatewayPlan}
    (hgp : Usable f₀ gp) {link : IpAddr → String} (hset : Route.Diverted link gp f)
    (h4 : ∀ ip, gp.egress = .nextHop ip → ip.isIpv4 = true) : Converged link gp f where
  rule := List.count_eq_one_of_mem htidy.rules hset.rule
  routes := by
    -- the routes of the table are cut by their metric: floors, and live defaults
    have hcut := List.filter_append_perm (fun r : Fib.Route => r.metric == 9999)
      (table4 (Route.tableOf gp) f)
    have hours : ∀ r ∈ f.routes, r.table = Route.tableOf gp → r.dst.addr.isIpv4 = true →
        r.dst = .default4 ∧ (r.metric = 9999 ∨ r.metric = 1) := fun r hr htable hfam => by
      obtain ⟨hdst, hkind⟩ := (hk.ourRoute hgp hr htable hfam).v4 hfam
      exact ⟨hdst, hkind.imp And.left id⟩
    have hfloor := filter_table4 (m := 9999) (p := fun r => r.metric == 9999)
      (fun r hr ht h4 => (hours r hr ht h4).1) fun r _ _ _ => beq_iff_eq
    have hlive := filter_table4 (m := 1) (p := fun r => !(r.metric == 9999))
      (fun r hr ht h4 => (hours r hr ht h4).1) fun r hr ht h4 => by
        have hmetric := (hours r hr ht h4).2
        rw [Bool.not_eq_true', beq_eq_false_iff_ne]
        omega
    rw [slot_floor hk htidy hgp hset.floor] at hfloor
    rw [slot_live hk hgp hset h4] at hlive
    rw [hfloor, hlive] at hcut
    exact hcut.symm

/-! ### A second time -/

/-- A command of a gateway that is set up changes nothing but the order of the routes. -/
lemma same_of_effect {link : IpAddr → String} {gp : GatewayPlan} {f₁ f f' : Fib}
    (hset : Route.Diverted link gp f₁)
    (hfloor : slot (Route.tableOf gp) .default4 9999 f₁.routes = [Route.floorOf gp])
    (hrules : f.rules = f₁.rules) (hroutes : f.routes.Perm f₁.routes)
    (he : Route.Effect gp f link f') :
    f'.rules = f.rules ∧ f'.rules6 = f.rules6 ∧ f'.routes.Perm f.routes := by
  -- the routes of a key are a filter, which a permutation keeps where it is one route
  have hslot : ∀ r : Fib.Route, slot r.table r.dst r.metric f₁.routes = [r] →
      slot r.table r.dst r.metric f.routes = [r] := by
    intro r hr
    have hperm : (slot r.table r.dst r.metric f.routes).Perm
        (slot r.table r.dst r.metric f₁.routes) := hroutes.filter _
    rw [hr] at hperm
    exact List.perm_singleton.1 hperm
  have hsame : f'.rules = f.rules ∧ f'.rules6 = f.rules6 := by
    cases he with
    | rule hnew => exact absurd (hrules ▸ hset.rule) hnew
    | _ => exact ⟨rfl, rfl⟩
  refine ⟨hsame.1, hsame.2, ?_⟩
  rcases he.routes_cases with heq | ⟨r, rfl | hlive, heq⟩ | ⟨hnone, heq⟩ <;> rw [heq]
  · exact replaceRoute_perm (hslot _ hfloor)
  · exact replaceRoute_perm (hslot r (hset.live r hlive))
  · have hleft : ∀ r ∈ f.routes, ¬ Route.isLive gp r = true := by
      intro r hr
      rw [hset.none hnone r (hroutes.mem_iff.1 hr)]
      simp
    rw [List.eraseP_of_forall_not hleft]

/-- Running the commands of gateways that are set up changes nothing but the order of the
routes. -/
lemma same_of_run (env : Env) {gps : List GatewayPlan} {f : Fib}
    (hset : ∀ gp ∈ gps, Route.Diverted env.link gp f)
    (hfloor : ∀ gp ∈ gps, slot (Route.tableOf gp) .default4 9999 f.routes = [Route.floorOf gp]) :
    (Script.run env.runIp (gps.flatMap Route.cmdsOf) f).1.rules = f.rules ∧
      (Script.run env.runIp (gps.flatMap Route.cmdsOf) f).1.rules6 = f.rules6 ∧
      (Script.run env.runIp (gps.flatMap Route.cmdsOf) f).1.routes.Perm f.routes := by
  refine Script.run_invariant (P := fun f' : Fib => f'.rules = f.rules ∧ f'.rules6 = f.rules6 ∧
    f'.routes.Perm f.routes) (fun c hc f' hf' => ?_) ⟨rfl, rfl, List.Perm.refl _⟩
  obtain ⟨gp, hgp, hc⟩ := List.mem_flatMap.1 hc
  obtain ⟨hrules, hrules6, hroutes⟩ := hf'
  have hone := same_of_effect (hset gp hgp) (hfloor gp hgp) hrules hroutes
    (Route.effect_of_mem env gp f' hc)
  exact ⟨hone.1.trans hrules, hone.2.1.trans hrules6, hone.2.2.trans hroutes⟩

/-- A plan that is applied successfully, with no failures but of commands that have nothing to do,
leaves the table of its script, its gateways as they are to be, and a host on which applying it
again, whatever fails then, changes nothing. -/
theorem Reachable.converged {h₀ h h' : Host} (hclean : Clean h₀) (hr : Reachable h₀ h) {p : Plan}
    {d : Desired} (hc : Compiled p d) {env : Env} (hlets : env.Lets d)
    (happly : Enforce.apply env.world d h = (h', .ok ())) :
    (∃ rs t, Netfilter.loadText d.nft ∅ = some rs ∧ rs["inet degc"]? = some t ∧
      h'.nft["inet degc"]? = some t) ∧
    (∀ gp ∈ p.gateways, (∀ ip, gp.egress = .nextHop ip → ip.isIpv4 = true) →
      Converged env.link gp h'.fib) ∧
    ∀ env' : Env, env'.link = env.link →
      Host.Same (Enforce.apply env'.world d h').1 h' := by
  have hr' : Reachable h₀ h' := by
    have hnext := hr.apply hc env d.ip.length
    rwa [Desired.upTo_length, happly] at hnext
  have hk' := hr'.kept hclean
  have htidy' := hr'.tidy hclean
  obtain ⟨hcheck, rs, hload, rfl, hgoes⟩ := env.apply_eq_ok happly
  rw [hc.ip] at hgoes hk' htidy' ⊢
  have husable : ∀ gp ∈ p.gateways, Usable h₀.fib gp := fun gp hgp =>
    usable_of_free hclean (hr.kept hclean) hc hgp
      (((hr.kept hclean).preflight hclean hc).1 hcheck gp hgp)
  have hset : ∀ gp ∈ p.gateways, Route.Diverted env.link gp
      (Script.run env.runIp (p.gateways.flatMap Route.cmdsOf) h.fib).1 := by
    intro gp hgp
    have hgo : ¬ Route.Stops env p.gateways := fun hstops => by
      rw [Route.stops_iff.2 hstops] at hgoes
      exact absurd hgoes (by simp)
    have hlet : ∀ c ∈ Route.cmdsOf gp, env.ip c.args = .ok () := fun c hmem =>
      hlets.ip c (hc.ip ▸ List.mem_flatMap.2 ⟨gp, hgp, hmem⟩)
    refine (Route.diverted_run_iff hc.compile (hr.tidy hclean).tagged hgo hgp).2 ⟨Or.inr ?_, ?_⟩
    · exact hlet _ (by simp [Route.cmdsOf])
    · exact fun _ => Or.inr (hlet _ (by simp [Route.cmdsOf]))
  have hscript := (Nft.compile_eq_ok hc.compile).2.1
  refine ⟨?_, fun gp hgp h4 => converged_of_diverted hk' htidy' (husable gp hgp) (hset gp hgp) h4,
    fun env' hlink => ?_⟩
  · obtain ⟨rs₀, hload₀⟩ := Nft.exists_loadText hc.plainEgress hscript ∅
    obtain ⟨sets, htable, -⟩ := Nft.table_of_loadText hc.plainEgress hscript hload₀
    have hsame := (Nft.loadText_congr hc.plainEgress hscript hload hload₀).1
    exact ⟨rs₀, _, hload₀, htable, hsame.trans htable⟩
  · rcases env'.apply_fst d _ with hsame | ⟨-, rs', hload', happly'⟩
    · rw [hsame]
      exact ⟨fun _ => rfl, rfl, rfl, List.Perm.refl _⟩
    · rw [happly', hc.ip]
      obtain ⟨hrules, hrules6, hroutes⟩ := same_of_run env' (hlink ▸ hset) fun gp hgp =>
        slot_floor hk' htidy' (husable gp hgp) (hset gp hgp).floor
      refine ⟨fun key => ?_, hrules, hrules6, hroutes⟩
      by_cases hkey : key = "inet degc"
      · subst hkey
        exact (Nft.loadText_congr hc.plainEgress hscript hload' hload).1
      · exact (Nft.loadText_congr hc.plainEgress hscript hload' hload).2 key hkey

omit [Libraries] in
/-- After a plan whose gateway had no members, the next plan leaves the gateway as it is to be. -/
theorem converged_homePlan : ∃ d h h', @Compiled .plain (homePlan 100 appTargets) d ∧
    @Applied .plain homeHost [(homePlan 100 [], .allOk)] h ∧
    @Enforce.apply .plain _ Env.allOk.world d h = (h', .ok ()) ∧
    ∀ gp ∈ (homePlan 100 appTargets).gateways, @Converged .plain Env.allOk.link gp h'.fib := by
  obtain ⟨d, hc⟩ := exists_compiled appTargets "degc" (vpnGateways 100) (by decide) (by decide)
  obtain ⟨-, h, -, happlied⟩ := applied_homePlan
  have hclean := connected_homeHost.toClean
  have hcheck := @Applied.preflight .plain _ _ hclean _ happlied _ _ hc (by decide) (by decide)
  obtain ⟨rs, -, happly⟩ := @Compiled.apply_of_lets .plain _ _ hc _ (Env.lets_allOk d) _ hcheck
  have hdone := (@Reachable.converged .plain _ _ _ hclean (@Applied.reachable .plain _ _ _ happlied)
    _ _ hc _ (Env.lets_allOk d) happly).2.1
  refine ⟨d, h, _, hc, happlied, happly, fun gp hgp => hdone gp hgp ?_⟩
  have hegress : gp.egress = .nextHop (.v4 0xac120002) := by
    have hall : ∀ gp ∈ (homePlan 100 appTargets).gateways,
        gp.egress = .nextHop (.v4 0xac120002) := by
      decide
    exact hall gp hgp
  intro ip hip
  rw [hegress] at hip
  obtain rfl := Egress.nextHop.inj hip
  rfl

end Degc
