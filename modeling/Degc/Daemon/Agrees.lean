import Degc.Daemon
import Degc.Enforce.Snat

/-!
# When nothing is on its way

With the loop idle, the channel empty, the stream read and nothing lost since the last
list, the last answer of Docker shows the containers that run.  If the last reconcile
succeeded, and others took nothing away since, everything that it left agrees with the
plan of these containers.

The main result is `Reaches.agrees`: the packet filter, the way of packets, the
fingerprint and the gauges are those of the plan of the containers that run.
-/

namespace Degc.Daemon

open Net Text Netfilter

variable [Libraries]

/-! ### Quiet states -/

omit [Libraries] in
/-- Nothing is on its way, what was missed or lost, or changed silently, was before the last list,
and others took nothing away since the last attempt that succeeded. -/
structure Quiet (s : Daemon) : Prop where
  idle : s.loop.main = .idle
  signal : s.loop.signal = false
  sending : ∀ items live, s.loop.watcher ≠ .sending items live
  read : Reconcile.numbers s.loop.watcher.unread = []
  lost : ∀ n, n ∈ s.loop.missed ∨ n ∈ s.loop.dropped → n ≤ s.loop.seen
  silent : s.heard = s.silent
  drifted : s.drifted = false

/-- In a quiet state, the last list shows every relevant event. -/
lemma Quiet.seen {h₀ : Host} {s : Daemon} (hquiet : Quiet s) (hs : Known h₀ s) :
    s.loop.seen = s.loop.occurred := by
  by_contra hne
  have hlt : s.loop.seen < s.loop.occurred := lt_of_le_of_ne hs.seen.1 hne
  rcases hs.loop.covered.events _ hlt le_rfl with hmissed | hdropped | hunread | ha
  · exact absurd (hquiet.lost _ (Or.inl hmissed)) (by omega)
  · exact absurd (hquiet.lost _ (Or.inr hdropped)) (by omega)
  · simp [hquiet.read] at hunread
  · rcases ha with ⟨items, live, ha⟩ | ha | ha | ha
    · exact hquiet.sending items live ha
    · simp [hquiet.signal] at ha
    · simp [hquiet.idle] at ha
    · simp [hquiet.idle] at ha

/-! ### What a reconcile that succeeds leaves -/

/-- The plan of the containers that run. -/
def plan (s : Daemon) : Plan :=
  Plan.compile (s.running.map (·.target)) s.config.labelPrefix s.gateways

/-- The failures that are ignored do no harm to an attempt. -/
def NoHarm (a : Attempt) (p : Plan) : Prop :=
  ∀ gp ∈ p.gateways, Route.Harmless a.env gp a.host.fib

/-- Everything that a reconcile leaves agrees with a plan. -/
structure Agrees (h₀ : Host) (s : Daemon) (a : Attempt) (p : Plan) : Prop where
  fingerprint : s.lastFp = some (Reconcile.planSummary p)
  gauges : Obs.Gauges (some (a.unixNow, Reconcile.statsOf p)) s.metrics
  loaded : s.dryRun = false → Loaded p s.host
  plane : s.dryRun = false → NoHarm a p → DataPlane a.env.link h₀ s.host p
  /-- The gauge of a gateway says whether what its members send out is forwarded. -/
  probe : s.dryRun = false → NoHarm a p → ∀ pkt, Forwarded h₀ pkt → Alone p pkt.src →
    ∀ gp ∈ p.gateways, pkt.src ∈ gp.members → Direct gp pkt.dst = false →
      pkt.src.isIpv4 = true →
      ((s.host.forward pkt).isSome = true ↔
        s.metrics.gatewayAvailable ⟨gp.gateway.name⟩ = some 1)

/-- An attempt that succeeded applied a plan. -/
lemma outcome_ok {s : Daemon} {a : Attempt} (h : (s.outcome a).stats.isOk = true) :
    ∃ targets d, listTargets a.answer = .ok targets ∧
      Enforce.compile (Plan.compile targets s.config.labelPrefix s.gateways) = .ok d ∧
      (select s.dryRun a.env.world).apply d a.host = ((s.outcome a).host, .ok ()) ∧
      (s.outcome a).lastFp =
        some (Reconcile.planSummary (Plan.compile targets s.config.labelPrefix s.gateways)) ∧
      (s.outcome a).stats =
        .ok (Reconcile.statsOf (Plan.compile targets s.config.labelPrefix s.gateways)) := by
  rcases Reconcile.reconcileApply_cases (select s.dryRun a.env.world) s.config.labelPrefix
    s.gateways a.trigger a.answer a.host a.lastFp with ⟨-, e, ho⟩ |
      ⟨targets, d, hanswer, hd, ⟨e, ho⟩ | ⟨hok, ho⟩⟩
  · rw [outcome, ho] at h
    exact absurd h (by simp [Except.isOk, Except.toBool])
  · rw [outcome, ho] at h
    exact absurd h (by simp [Except.isOk, Except.toBool])
  · refine ⟨targets, d, hanswer, hd, ?_, ?_, ?_⟩
    · rw [outcome, ho]
      exact Prod.ext rfl hok
    · rw [outcome, ho]
      exact Reconcile.logPlan_snd _ _ _
    · rw [outcome, ho]

/-- Outside of a dry run, the host is what applying the plan of such an attempt left. -/
lemma apply_of_select {s : Daemon} {a : Attempt} {d : Desired}
    (happly : (select s.dryRun a.env.world).apply d a.host = ((s.outcome a).host, .ok ()))
    (hhost : s.host = (s.outcome a).host) (hdry : s.dryRun = false) :
    Enforce.apply a.env.world d a.host = (s.host, .ok ()) := by
  rw [select_apply, hdry, if_neg (by simp)] at happly
  rw [happly, hhost]

/-- An attempt whose plan is applied succeeds. -/
lemma outcome_of_ok {s : Daemon} {a : Attempt} {targets : List Target} {d : Desired} {h : Host}
    (hanswer : listTargets a.answer = .ok targets)
    (hd : Enforce.compile (Plan.compile targets s.config.labelPrefix s.gateways) = .ok d)
    (happly : (select s.dryRun a.env.world).apply d a.host = (h, .ok ())) :
    (s.outcome a).stats =
      .ok (Reconcile.statsOf (Plan.compile targets s.config.labelPrefix s.gateways)) := by
  simp only [outcome, Reconcile.reconcileApply, hanswer, hd, happly]

omit [Libraries] in
/-- Where the keys of a list are apart, the value of a key is found from either end. -/
lemma lookup_reverse_map {α : Type} {f : α → String} {g : α → Bool} {as : List α}
    (hnodup : (as.map f).Nodup) {a : α} (ha : a ∈ as) :
    (as.map fun a => (f a, g a)).reverse.lookup (f a) = some (g a) := by
  obtain ⟨before, after, rfl⟩ := List.append_of_mem ha
  have hafter : ∀ a' ∈ after, f a' ≠ f a := by
    intro a' ha' heq
    rw [List.map_append, List.map_cons, List.nodup_append] at hnodup
    exact (List.nodup_cons.1 hnodup.2.1).1 (heq ▸ List.mem_map_of_mem ha')
  rw [List.lookup_eq_some_iff]
  refine ⟨(after.map fun a => (f a, g a)).reverse, (before.map fun a => (f a, g a)).reverse, ?_, ?_⟩
  · simp
  · intro kv hkv
    rw [List.mem_reverse, List.mem_map] at hkv
    obtain ⟨a', ha', rfl⟩ := hkv
    simpa using (hafter a' ha').symm

/-- The gauge of a gateway says whether its egress is available. -/
lemma gauge_available {pfx : String} {gws : Gateways} {targets : List Target}
    (hnames : (gws.map (·.name)).Nodup) {now : ℕ} {m : Obs.Metrics}
    (hgauges : Obs.Gauges (some (now, Reconcile.statsOf (Plan.compile targets pfx gws))) m)
    {gp : GatewayPlan} (hgp : gp ∈ (Plan.compile targets pfx gws).gateways) :
    m.gatewayAvailable ⟨gp.gateway.name⟩ = some (if gp.egress.isAvailable then 1 else 0) := by
  have hnodup : ((Plan.compile targets pfx gws).gateways.map (·.gateway.name)).Nodup := by
    have hmerged := @Plan.nodup_names_merge _ pfx gws targets hnames
    rwa [← Plan.mergedGateways_compile, Plan.mergedGateways, List.map_map] at hmerged
  have hlookup := lookup_reverse_map (g := fun gp => gp.egress.isAvailable) hnodup hgp
  have hstats : (Reconcile.statsOf (Plan.compile targets pfx gws)).gateways =
      (Plan.compile targets pfx gws).gateways.map
        fun gp => (gp.gateway.name, gp.egress.isAvailable) := by
    refine List.map_congr_left fun gp _ => ?_
    cases gp.egress <;> rfl
  rw [hgauges.available, Option.bind_some, hstats, hlookup]
  rfl

/-- What an attempt that succeeded leaves agrees with the plan of the containers that Docker
listed, unless others took something away. -/
lemma agrees_of_ok {h₀ : Host} (hconn : Connected h₀) {s : Daemon} (hs : Known h₀ s)
    (hdrift : s.drifted = false) {a : Attempt}
    (hlast : s.attempts.getLast? = some a) (hok : (s.outcome a).stats.isOk = true) :
    ∃ targets, listTargets a.answer = .ok targets ∧
      Agrees h₀ s a (Plan.compile targets s.config.labelPrefix s.gateways) := by
  obtain ⟨hr, hhost, hfp⟩ := hs.last a hlast
  obtain ⟨before, hattempts⟩ := List.getLast?_eq_some_iff.1 hlast
  obtain ⟨targets, d, hanswer, hd, happly, hsummary, hstats⟩ := outcome_ok hok
  have hnames := (Gateways.validate_eq_ok.1 hs.valid).names
  have hc : Compiled (Plan.compile targets s.config.labelPrefix s.gateways) d :=
    ⟨_, _, targets, hs.valid, rfl, hd⟩
  have hgauges := hs.shows.toGauges
  rw [hattempts, List.map_append, List.map_singleton, Obs.lastStats_append, recorded,
    hstats] at hgauges
  have hsystem := apply_of_select happly (hhost hdrift)
  have hplane : s.dryRun = false →
      NoHarm a (Plan.compile targets s.config.labelPrefix s.gateways) →
      DataPlane a.env.link h₀ s.host (Plan.compile targets s.config.labelPrefix s.gateways) :=
    fun hdry hharm => (hr.setUp hconn.toClean hc (hsystem hdry) hharm).forwards hconn
  refine ⟨targets, hanswer, hfp.trans hsummary, hgauges, fun hdry => hc.loaded_of_ok (hsystem hdry),
    hplane, fun hdry hharm pkt hpkt halone gp hgp hmem hdirect hsrc => ?_⟩
  have hforward := (hplane hdry hharm).forward pkt hpkt halone
  rw [Plan.forward, find?_member halone hgp hmem] at hforward
  simp only [hdirect, hsrc, Bool.false_eq_true, if_false, if_true] at hforward
  rw [hforward, gauge_available hnames hgauges hgp, Route.liveOf]
  cases gp.egress <;> simp [Egress.isAvailable]

/-- Where the last list shows everything, the last attempt was about the containers that run. -/
lemma listed_of_seen {h₀ : Host} {s : Daemon} (hs : Known h₀ s) (hmain : s.loop.main = .idle)
    (hseen : s.loop.seen = s.loop.occurred) (hheard : s.heard = s.silent) {a : Attempt}
    (hlast : s.attempts.getLast? = some a) {targets : List Target}
    (hanswer : listTargets a.answer = .ok targets) : targets = s.running.map (·.target) := by
  have hcurrent : a.answer = s.answer := hs.answer (by simp [hmain]) a hlast
  cases hcs : s.answer with
  | error e =>
      rw [hcurrent, hcs] at hanswer
      cases hanswer
  | ok cs =>
      rw [hcurrent, hcs, hs.fresh hseen hheard cs hcs] at hanswer
      exact (Except.ok.inj hanswer).symm

/-- Where the last list shows everything, what an attempt that succeeded leaves agrees with the plan
of the containers that run. -/
lemma agrees_of_seen {h₀ : Host} (hconn : Connected h₀) {s : Daemon} (hs : Known h₀ s)
    (hmain : s.loop.main = .idle) (hseen : s.loop.seen = s.loop.occurred)
    (hheard : s.heard = s.silent) (hdrift : s.drifted = false) {a : Attempt}
    (hlast : s.attempts.getLast? = some a) (hok : (s.outcome a).stats.isOk = true) :
    Agrees h₀ s a s.plan := by
  obtain ⟨targets, hanswer, hagrees⟩ := agrees_of_ok hconn hs hdrift hlast hok
  obtain rfl := listed_of_seen hs hmain hseen hheard hlast hanswer
  exact hagrees

/-- Whatever the order of the steps was, in a quiet state after a reconcile that succeeded
everything agrees with the plan of the containers that run. -/
theorem Reaches.agrees {h₀ : Host} (hconn : Connected h₀) {s : Daemon} (hs : Reaches h₀ s)
    (hquiet : Quiet s) {a : Attempt} (hlast : s.attempts.getLast? = some a)
    (hok : (s.outcome a).stats.isOk = true) : Agrees h₀ s a s.plan :=
  agrees_of_seen hconn hs.known hquiet.idle (hquiet.seen hs.known) hquiet.silent hquiet.drifted
    hlast hok

/-! ### In the home network -/

section Home

omit [Libraries]

/-- What Docker lists of a container that opts in. -/
def appContainer : ContainerSummary where
  names := some ["/app"]
  labels := some (.ofList [("degc.enable", "true")])
  networkSettings := some
    ⟨some (.ofList [("services", ({ ipAddress := some "172.18.0.7" } : EndpointSettings))])⟩

/-- The environment of the daemon in the home network, where only the address of the server is
set. -/
def homeVar (key : String) : Except VarError String :=
  if key = "DEGC_METRICS_ADDR" then .ok "0.0.0.0:9101" else .error .notPresent

/-- The daemon in the home network, when Docker has answered. -/
@[reducible] def listedDaemon : Daemon :=
  { Daemon.start (.fromEnv homeVar) (vpnGateways 100) false [appContainer] homeHost with
    loop := { main := .applying .startup }
    answer := .ok [appContainer] }

/-- The same, when the first reconcile is over. -/
def appliedDaemon : Daemon := @applied .plain listedDaemon .startup .allOk 0

/-- The loop when the watcher is subscribed. -/
def subscribedLoop : Reconcile.State := { main := .idle, watcher := .listening [] true }

/-- The same, when the watcher is subscribed. -/
def subscribedDaemon : Daemon := { appliedDaemon with loop := subscribedLoop }

/-- After the first reconcile the watcher subscribes. -/
lemma Reaches.subscribe [Libraries] {h₀ : Host} {s : Daemon} (hs : Reaches h₀ s)
    (hloop : s.loop = { main := .starting }) : Reaches h₀ { s with loop := subscribedLoop } := by
  have hwatched : Reaches h₀ { s with loop := { main := .idle, watcher := .connecting } } := by
    refine hs.step (by simp [hloop]) (.plain ?_ ⟨by simp [hloop], by simp [hloop], by simp [hloop]⟩)
    rw [hloop]
    exact .watch rfl
  exact hwatched.step (by simp) (.plain (.connect rfl)
    ⟨rfl, by simp [subscribedLoop], by simp [subscribedLoop]⟩)

/-- The file with the gateway is loaded. -/
lemma loadGateways_home : @loadGateways .plain (fun _ => .ok (vpnGateways 100)) (fun _ => .ok "")
    (.fromEnv homeVar) = .ok (vpnGateways 100) := by
  have hvalid : @Gateways.validate .plain (vpnGateways 100) = .ok () := by decide
  exact @parseGateways_of_valid .plain _ ((@Gateways.validate_eq_ok .plain _ _).1 hvalid) ""

lemma reaches_applied : @Reaches .plain homeHost appliedDaemon := by
  have hstart := @Reaches.start .plain homeHost _ (@Meddled.start .plain homeHost) _ _ _ _
    loadGateways_home false [appContainer]
  have hlisted : @Reaches .plain homeHost listedDaemon := by
    refine @Reaches.step .plain _ _ _ hstart (by simp [Daemon.start]) ?_
    exact @Step.list .plain _ .startup rfl (.ok [appContainer]) fun cs h => (Except.ok.inj h).symm
  exact @Reaches.step .plain _ _ _ hlisted (by simp)
    (@Step.applied .plain listedDaemon .startup rfl .allOk 0)

/-- The first reconcile succeeds. -/
lemma stats_applied : ((@outcome .plain listedDaemon
    (listedDaemon.attempt .startup .allOk 0)).stats).isOk = true := by
  obtain ⟨d, hc⟩ := exists_compiled [appContainer.target] "degc" (vpnGateways 100) (by decide)
    (by decide +kernel)
  obtain ⟨rs, -, happly⟩ := @Clean.apply_of_lets .plain _ connected_homeHost.toClean _ _ hc _
    (Env.lets_allOk d) (by decide +kernel)
  have hstats := @outcome_of_ok .plain listedDaemon (listedDaemon.attempt .startup .allOk 0) _ _ _
    rfl (@Compiled.compile .plain _ _ hc) happly
  rw [hstats]
  rfl

lemma isOk_subscribed : (@outcome .plain subscribedDaemon
    (listedDaemon.attempt .startup .allOk 0)).stats.isOk = true := by
  rw [@outcome_congr .plain subscribedDaemon listedDaemon rfl rfl rfl, stats_applied]

lemma reaches_subscribed : @Reaches .plain homeHost subscribedDaemon := by
  refine @Reaches.subscribe .plain _ _ reaches_applied ?_
  rw [appliedDaemon, @applied_loop .plain, stats_applied]
  rfl

lemma quiet_subscribed : Quiet subscribedDaemon where
  idle := rfl
  signal := rfl
  sending items live := by
    have hw : subscribedDaemon.loop.watcher = .listening [] true := rfl
    simp [hw]
  read := rfl
  lost n hn := by
    have hnone : subscribedDaemon.loop.missed = [] ∧ subscribedDaemon.loop.dropped = [] :=
      ⟨rfl, rfl⟩
    rw [hnone.1, hnone.2] at hn
    simp at hn
  silent := rfl
  drifted := rfl

/-- No failure did harm to the first reconcile. -/
lemma noHarm_listed : @NoHarm .plain (listedDaemon.attempt .startup .allOk 0)
    (homePlan 100 [appContainer.target]) := by
  obtain ⟨d, hc⟩ := exists_compiled [appContainer.target] "degc" (vpnGateways 100) (by decide)
    (by decide +kernel)
  exact @Compiled.harmless_of_lets .plain _ _ hc _ (Env.lets_allOk d) _

/-- Where the plan is set up, what the container sends to an address outside leaves by the
gateway. -/
lemma forward_appContainer {h : Host} (hplane : @DataPlane .plain Env.allOk.link homeHost h
    (homePlan 100 [appContainer.target])) :
    h.forward ⟨.v4 0xac120007, .v4 0x01010101, 0, none⟩ =
      some ⟨100, .default4, .via (.v4 0xac120002) "eth0", 194, 1⟩ := by
  have hone : (homePlan 100 [appContainer.target]).gateways.length = 1 := by decide +kernel
  have hegress : ∀ gp ∈ (homePlan 100 [appContainer.target]).gateways,
      gp.egress = .nextHop (.v4 0xac120002) := by decide +kernel
  have halone : Alone (homePlan 100 [appContainer.target]) (.v4 0xac120007) :=
    alone_of_one hone hegress (by rintro ip ⟨⟩; rfl) _
  have hforward := @DataPlane.forward .plain _ _ _ _ hplane
    ⟨.v4 0xac120007, .v4 0x01010101, 0, none⟩ ⟨rfl, rfl, by decide⟩ halone
  exact hforward.trans (by decide +kernel)

/-- In the home network, what the container sends to an address outside leaves by the gateway, and
the gauge of the gateway says so. -/
theorem agrees_subscribed : @Reaches .plain homeHost subscribedDaemon ∧
    subscribedDaemon.host.forward ⟨.v4 0xac120007, .v4 0x01010101, 0, none⟩ =
      some ⟨100, .default4, .via (.v4 0xac120002) "eth0", 194, 1⟩ ∧
    subscribedDaemon.metrics.gatewayAvailable ⟨"vpn"⟩ = some 1 := by
  have hagrees := @Reaches.agrees .plain _ connected_homeHost _ reaches_subscribed quiet_subscribed
    (listedDaemon.attempt .startup .allOk 0) rfl isOk_subscribed
  have hplan : @plan .plain subscribedDaemon = homePlan 100 [appContainer.target] := rfl
  rw [hplan] at hagrees
  have hplane := @Agrees.plane .plain _ _ _ _ hagrees rfl noHarm_listed
  obtain ⟨gp, hgp, hname, hegress⟩ : ∃ gp ∈ (homePlan 100 [appContainer.target]).gateways,
      gp.gateway.name = "vpn" ∧ gp.egress = .nextHop (.v4 0xac120002) := by decide +kernel
  have hgauge := @gauge_available .plain _ _ _ (by decide) _ _
    (@Agrees.gauges .plain _ _ _ _ hagrees) _ hgp
  rw [hname, hegress] at hgauge
  exact ⟨reaches_subscribed, forward_appContainer hplane, hgauge⟩

end Home

end Degc.Daemon
