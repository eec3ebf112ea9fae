import Degc.Enforce.Preflight

/-!
# The hosts that are reached

Plans are applied to a clean host one after the other.  Each time programs may
fail, and the run may be killed behind any of the commands; the rules and routes
stay where they are until the next plan is applied.

The main result is `Reachable.kept`: what is added to the clean host are rules from
single marks, behind the rule of the local table, and routes with the protocol tag,
in tables where the host has no IPv4 route of its own.
-/

namespace Degc

open Net Text Fib

/-! ### Clean hosts -/

/-- A host with the usual policy rules and without routes outside of the usual tables. -/
structure Clean (h : Host) : Prop where
  table : h.nft["inet degc"]? = none
  rules : h.fib.rules = [localRule, mainRule, defaultRule]
  rules6 : h.fib.rules6 = [localRule, mainRule]
  tables : ∀ r ∈ h.fib.routes, r.table = 254 ∨ r.table = 255
  proto : ∀ r ∈ h.fib.routes, r.proto ≠ 194
  devs : ∀ r ∈ h.fib.routes, ∀ d ∈ r.hop.oif, IsWord d

/-- A clean host that is connected: the main table has a default, and the local table the host's
own addresses. -/
structure Connected (h : Host) : Prop extends Clean h where
  main : ∃ r ∈ h.fib.routes, r.table = 254 ∧ r.dst = .default4
  own : ∃ r ∈ h.fib.routes, r.table = 255 ∧ r.dst.addr.isIpv4 = true

/-! ### What is kept -/

/-- A rule from one mark. -/
def OurRule (r : Rule) : Prop :=
  r.prio = 100 ∧ ∃ m, 0 < m ∧ m < 2 ^ 32 ∧ r.mark = some (m, fullMask)

/-- A route with the protocol tag; those of IPv4 are floors and live defaults. -/
structure OurRoute (r : Route) : Prop where
  proto : r.proto = 194
  devs : ∀ d ∈ r.hop.oif, IsWord d
  v4 : r.dst.addr.isIpv4 = true →
    r.dst = .default4 ∧ (r.metric = 9999 ∧ r.hop = .blackhole ∨ r.metric = 1)

/-- What is kept of the rules and routes of a host. -/
structure Kept (f₀ f : Fib) : Prop where
  rules : ∃ ms, f.rules = localRule :: (ms ++ [mainRule, defaultRule]) ∧ ∀ r ∈ ms, OurRule r
  rules6 : f.rules6 = f₀.rules6
  tables : ∀ r ∈ f₀.routes, r.dst.addr.isIpv4 = true →
    f.routes.filter (·.table == r.table) = f₀.routes.filter (·.table == r.table)
  routes : ∀ r ∈ f.routes, r ∈ f₀.routes ∨ OurRoute r

lemma Clean.kept {h : Host} (hclean : Clean h) : Kept h.fib h.fib where
  rules := ⟨[], hclean.rules, by simp⟩
  rules6 := rfl
  tables := fun _ _ _ => rfl
  routes := fun _ hr => Or.inl hr

/-- A clean host has no rule of a gateway. -/
lemma Clean.ruleOf_not_mem [Libraries] {h : Host} (hclean : Clean h) (gp : GatewayPlan) :
    Route.ruleOf gp ∉ h.fib.rules := by
  rw [hclean.rules]
  simp [Route.ruleOf, localRule, mainRule, defaultRule]

lemma ourRoute_floor (gp : GatewayPlan) : OurRoute (Route.floorOf gp) where
  proto := rfl
  devs := by simp [Route.floorOf, Hop.oif]
  v4 := fun _ => ⟨rfl, Or.inl ⟨rfl, rfl⟩⟩

lemma ourRoute_live {link : IpAddr → String} (hlink : ∀ a, IsWord (link a)) {gp : GatewayPlan}
    (hegress : Nft.PlainEgress gp.egress) {r : Route} (hr : Route.liveOf link gp = some r) :
    OurRoute r := by
  obtain ⟨-, hmetric, hproto, hdst⟩ := Route.liveOf_eq_some hr
  refine ⟨hproto, ?_, fun h4 => ?_⟩
  · simp only [Route.liveOf] at hr
    split at hr
    · next iface he =>
        obtain rfl := Option.some.inj hr
        rw [he] at hegress
        simpa [Hop.oif] using hegress.1
    · next ip _ =>
        obtain rfl := Option.some.inj hr
        simpa [Hop.oif] using hlink ip
    · simp at hr
  · rcases hdst with hdst | hdst
    · exact ⟨hdst, Or.inr hmetric⟩
    · rw [hdst] at h4
      exact absurd h4 (by decide)

/-! ### Plans -/

variable [Libraries]

/-- A plan compiled from a valid configuration and some containers, and its desired state. -/
def Compiled (p : Plan) (d : Desired) : Prop :=
  ∃ pfx gws targets, Gateways.validate gws = .ok () ∧ p = Plan.compile targets pfx gws ∧
    Enforce.compile p = .ok d

lemma Compiled.valid {p : Plan} {d : Desired} (h : Compiled p d) :
    ∀ gp ∈ p.gateways, gp.gateway.Valid := by
  obtain ⟨pfx, gws, targets, hvalid, rfl, -⟩ := h
  intro gp hgp
  have hv := Gateways.validate_eq_ok.1 hvalid
  obtain ⟨g, hg, rfl⟩ := (Plan.mem_gateways_compile hv.names).1 hgp
  exact Plan.valid_of_mem_merge hv.gateways hg

lemma Compiled.plainEgress {p : Plan} {d : Desired} (h : Compiled p d) :
    ∀ gp ∈ p.gateways, Nft.PlainEgress gp.egress := by
  obtain ⟨pfx, gws, targets, hvalid, rfl, -⟩ := h
  exact Nft.plainEgress_compile hvalid

lemma Compiled.compile {p : Plan} {d : Desired} (h : Compiled p d) :
    Enforce.compile p = .ok d := by
  obtain ⟨_, _, _, -, -, hd⟩ := h
  exact hd

/-- The marks of the gateways of a plan are proper marks. -/
lemma Compiled.mark {p : Plan} {d : Desired} (h : Compiled p d) :
    ∀ gp ∈ p.gateways, 0 < Nft.markOf gp ∧ Nft.markOf gp < 2 ^ 32 := by
  intro gp hgp
  refine ⟨Nat.pos_of_ne_zero fun h0 => ?_, UInt32.toNat_lt _⟩
  exact (h.valid gp hgp).markValue.2 (UInt32.toNat_inj.1 h0)

lemma Compiled.ip {p : Plan} {d : Desired} (h : Compiled p d) :
    d.ip = p.gateways.flatMap Route.cmdsOf :=
  (Route.compile_ip h.compile).1

/-- Where the check passes and the programs are let through, a plan is applied. -/
lemma Compiled.apply_of_lets {p : Plan} {d : Desired} (hc : Compiled p d) {env : Env}
    (hlets : env.Lets d) {h : Host} (hcheck : Env.preflight h d.guards = .ok ()) :
    ∃ rs, Netfilter.loadText d.nft h.nft = some rs ∧
      Enforce.apply env.world d h = (⟨rs, (Script.run env.runIp d.ip h.fib).1⟩, .ok ()) := by
  obtain ⟨rs, hload⟩ :=
    Nft.exists_loadText hc.plainEgress (Nft.compile_eq_ok hc.compile).2.1 h.nft
  have hgoes : (Script.run env.runIp d.ip h.fib).2 = true := by
    have hflag : ∀ c ∈ d.ip, ∀ f, (env.runIp c f).2 = (fun _ => true) c := by
      intro c hmem f
      rw [hc.ip] at hmem
      obtain ⟨gp, -, hcmd⟩ := List.mem_flatMap.1 hmem
      by_contra hstop
      refine Route.not_fatal (Or.inl (hlets.ip c ?_))
        ((Route.runIp_snd hcmd f).1 (by simpa using hstop))
      exact hc.ip ▸ hmem
    rw [Script.run_snd_of_flag hflag]
    simp
  exact ⟨rs, hload, env.apply_of_lets hlets hcheck hload hgoes⟩

/-- A gateway that may be set up: its mark is proper, the devices its egress names are words, and
the host has no IPv4 route of its own in its table. -/
structure Usable (f₀ : Fib) (gp : GatewayPlan) : Prop where
  mark : 0 < Nft.markOf gp ∧ Nft.markOf gp < 2 ^ 32
  egress : Nft.PlainEgress gp.egress
  apart : ∀ r ∈ f₀.routes, r.dst.addr.isIpv4 = true → r.table ≠ Route.tableOf gp

/-- What a command does keeps it. -/
lemma Kept.effect {f₀ f f' : Fib} (hk : Kept f₀ f) {gp : GatewayPlan} (hgp : Usable f₀ gp)
    {link : IpAddr → String} (hlink : ∀ a, IsWord (link a)) (he : Route.Effect gp f link f') :
    Kept f₀ f' where
  rules := by
    obtain ⟨ms, hms, hours⟩ := hk.rules
    cases he with
    | rule h =>
        -- the rule goes behind those of its priority and before the two last ones of the host
        have hbefore : ∀ b ∈ localRule :: ms, b.prio ≤ 100 := by
          refine List.forall_mem_cons.2 ⟨by decide, fun r hr => ?_⟩
          exact (hours r hr).1.le
        have hafter : ∀ a ∈ [mainRule, defaultRule].head?, (Route.ruleOf gp).prio < a.prio := by
          simp [mainRule, Route.ruleOf]
        have hinsert := insertRule_append hbefore hafter
        refine ⟨ms ++ [Route.ruleOf gp], ?_, ?_⟩
        · simpa [hms] using hinsert
        · simp only [List.forall_mem_append, List.forall_mem_singleton]
          exact ⟨hours, rfl, Nft.markOf gp, hgp.mark.1, hgp.mark.2, rfl⟩
    | _ => exact ⟨ms, hms, hours⟩
  rules6 := by cases he <;> exact hk.rules6
  tables := fun r hr h4 => (he.filter_table (hgp.apart r hr h4).symm).trans (hk.tables r hr h4)
  routes := fun r hr => by
    rcases he.mem_routes hr with hr | rfl | hl
    · exact hk.routes r hr
    · exact Or.inr (ourRoute_floor gp)
    · exact Or.inr (ourRoute_live hlink hgp.egress hl)

/-- On a clean host a gateway may use its mark, and its table when the host has no IPv4 route
there. -/
lemma Clean.free {h : Host} (hclean : Clean h) {gp : GatewayPlan}
    (htable : ∀ r ∈ h.fib.routes, r.dst.addr.isIpv4 = true → r.table ≠ Route.tableOf gp) :
    Route.Free h.fib gp where
  routes := fun r hr ht h4 => absurd ht (htable r hr h4)
  rules := fun r hr m hmark => by
    rw [hclean.rules] at hr
    simp only [List.mem_cons, List.not_mem_nil, or_false] at hr
    rcases hr with rfl | rfl | rfl <;> simp [localRule, mainRule, defaultRule] at hmark

/-- A gateway that passes the check of a host may be set up. -/
lemma usable_of_free {h₀ h : Host} (hclean : Clean h₀) (hk : Kept h₀.fib h.fib) {p : Plan}
    {d : Desired} (hc : Compiled p d) {gp : GatewayPlan} (hgp : gp ∈ p.gateways)
    (hfree : Route.Free h.fib gp) : Usable h₀.fib gp where
  mark := hc.mark gp hgp
  egress := hc.plainEgress gp hgp
  apart := fun r hr h4 ht => by
    have hmem : r ∈ h.fib.routes.filter (·.table == r.table) := by
      rw [hk.tables r hr h4]
      exact List.mem_filter.2 ⟨hr, by simp⟩
    exact hclean.proto r hr (hfree.routes r (List.mem_filter.1 hmem).1 ht h4)

/-! ### Reachable hosts -/

omit [Libraries] in
/-- A desired state as far as it is applied by a run that is killed behind a number of
commands. -/
def Desired.upTo (d : Desired) (k : ℕ) : Desired := { d with ip := d.ip.take k }

omit [Libraries] in
@[simp] lemma Desired.upTo_length (d : Desired) : d.upTo d.ip.length = d := by
  simp [Desired.upTo]

/-- A host that is reached from another one by applying plans, whatever fails and wherever a run
is killed. -/
inductive Reachable (h₀ : Host) : Host → Prop
  | start : Reachable h₀ h₀
  | apply {h : Host} {p : Plan} {d : Desired} (hr : Reachable h₀ h) (hc : Compiled p d) (env : Env)
      (k : ℕ) : Reachable h₀ (Enforce.apply env.world (d.upTo k) h).1

omit [Libraries] in
lemma Kept.devs {h₀ h : Host} (hclean : Clean h₀) (hk : Kept h₀.fib h.fib) :
    ∀ r ∈ h.fib.routes, ∀ dev ∈ r.hop.oif, IsWord dev := fun r hr =>
  (hk.routes r hr).elim (hclean.devs r) (·.devs)

/-- What the check says on a host whose devices have names that are words. -/
lemma Compiled.preflight {h : Host} (hdev : ∀ r ∈ h.fib.routes, ∀ dev ∈ r.hop.oif, IsWord dev)
    {p : Plan} {d : Desired} (hc : Compiled p d) :
    Env.preflight h d.guards = .ok () ↔ ∀ gp ∈ p.gateways, Route.Free h.fib gp := by
  rw [(Route.compile_ip hc.compile).2]
  exact Route.preflight_eq_ok hdev

/-- What the check says on a reached host. -/
lemma Kept.preflight {h₀ h : Host} (hclean : Clean h₀) (hk : Kept h₀.fib h.fib) {p : Plan}
    {d : Desired} (hc : Compiled p d) :
    Env.preflight h d.guards = .ok () ↔ ∀ gp ∈ p.gateways, Route.Free h.fib gp :=
  hc.preflight (hk.devs hclean)

/-- A run of commands of usable gateways keeps it. -/
lemma Kept.run {f₀ f : Fib} (hk : Kept f₀ f) {gps : List GatewayPlan}
    (hgps : ∀ gp ∈ gps, Usable f₀ gp) (env : Env) {cs : List Route.IpCmd}
    (hcs : ∀ c ∈ cs, c ∈ gps.flatMap Route.cmdsOf) : Kept f₀ (Script.run env.runIp cs f).1 := by
  refine Script.run_invariant (fun c hc f hk => ?_) hk
  obtain ⟨gp, hgp, hc⟩ := List.mem_flatMap.1 (hcs c hc)
  exact hk.effect (hgps gp hgp) env.isWord_link (Route.effect_of_mem env gp f hc)

/-- Applying a plan keeps it. -/
lemma Kept.apply {h₀ h : Host} (hclean : Clean h₀) (hk : Kept h₀.fib h.fib) {p : Plan} {d : Desired}
    (hc : Compiled p d) (env : Env) (k : ℕ) :
    Kept h₀.fib (Enforce.apply env.world (d.upTo k) h).1.fib := by
  rcases env.apply_fst (d.upTo k) h with hsame | ⟨hcheck, rs, -, happly⟩
  · rwa [hsame]
  · have hfree := (hk.preflight hclean hc).1 hcheck
    have husable := fun gp hgp => usable_of_free hclean hk hc hgp (hfree gp hgp)
    rw [happly]
    refine hk.run husable env fun c hmem => ?_
    rw [← (Route.compile_ip hc.compile).1]
    exact List.mem_of_mem_take hmem

/-- Plans on gateways whose tables are not used by a clean host are applied to it. -/
lemma Clean.apply_of_lets {h : Host} (hclean : Clean h) {p : Plan} {d : Desired} (hc : Compiled p d)
    {env : Env} (hlets : env.Lets d) (htables : ∀ gp ∈ p.gateways, ∀ r ∈ h.fib.routes,
      r.dst.addr.isIpv4 = true → r.table ≠ Route.tableOf gp) :
    ∃ rs, Netfilter.loadText d.nft h.nft = some rs ∧
      Enforce.apply env.world d h = (⟨rs, (Script.run env.runIp d.ip h.fib).1⟩, .ok ()) :=
  hc.apply_of_lets hlets ((hclean.kept.preflight hclean hc).2 fun gp hgp =>
    hclean.free (htables gp hgp))

/-- In every reached host it is kept. -/
theorem Reachable.kept {h₀ h : Host} (hclean : Clean h₀) (hr : Reachable h₀ h) :
    Kept h₀.fib h.fib := by
  induction hr with
  | start => exact hclean.kept
  | apply _ hc env k ih => exact ih.apply hclean hc env k

/-! ### A home network -/

section Home

omit [Libraries]

/-- A host in a home network, behind a router. -/
def homeHost : Host where
  nft := ∅
  fib :=
    { rules := [localRule, mainRule, defaultRule]
      rules6 := [localRule, mainRule]
      routes := [⟨255, .single (.v4 0xc0a8000a), .host "eth0", 2, 0⟩,
        ⟨254, ⟨.v4 0xc0a80000, 24⟩, .dev "eth0", 2, 0⟩,
        ⟨254, .default4, .via (.v4 0xc0a80001) "eth0", 3, 0⟩] }

lemma connected_homeHost : Connected homeHost where
  table := by decide
  rules := rfl
  rules6 := rfl
  tables := by decide
  proto := by decide
  devs := by decide
  main := by decide
  own := by decide

/-- A configuration of one gateway, which is reached by an address. -/
def vpnGateways (table : UInt32) : Gateways :=
  [{ name := "vpn", egress := { nextHop := some "172.18.0.2" }, mark := some "0x4",
     table := some table }]

/-- A container that opts in. -/
def appTargets : List Target :=
  [.ofLists "app" [("degc.enable", "true")] [("services", [.v4 0xac120007])]]

/-- The plan of the gateway. -/
@[reducible] def homePlan (table : UInt32) (targets : List Target) : Plan :=
  @Plan.compile .plain targets "degc" (vpnGateways table)

lemma exists_compiled (targets : List Target) (pfx : String) (gws : Gateways)
    (hvalid : @Gateways.validate .plain gws = .ok ())
    (hok : (@Enforce.compile .plain (@Plan.compile .plain targets pfx gws)).isOk = true) :
    ∃ d, @Compiled .plain (@Plan.compile .plain targets pfx gws) d := by
  cases h : @Enforce.compile .plain (@Plan.compile .plain targets pfx gws) with
  | error e => exact absurd (h ▸ hok) (by simp [Except.isOk, Except.toBool])
  | ok d => exact ⟨d, pfx, gws, targets, hvalid, rfl, h⟩

end Home

end Degc
