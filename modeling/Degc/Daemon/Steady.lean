import Degc.Daemon.Heals
import Degc.Daemon.Logged

/-!
# A daemon with nothing to do

Events and ticks lead to reconciles also where nothing has changed.  Such a reconcile runs
the same commands again, and each of them may fail; it changes nothing on the host but the
order of the routes, and logs no change.  The backend repeats its warnings, or in a dry run
the desired state.

The main result is `Reaches.steady`.
-/

namespace Degc

open Net Text Fib Netfilter

/-! ### Hosts that are the same -/

section Same

variable {h h' h'' : Host}

lemma Host.Same.refl (h : Host) : h.Same h where
  nft _ := rfl
  rules := rfl
  rules6 := rfl
  routes := List.Perm.refl _

lemma Host.Same.trans (hsame : h.Same h') (hsame' : h'.Same h'') : h.Same h'' where
  nft key := (hsame.nft key).trans (hsame'.nft key)
  rules := hsame.rules.trans hsame'.rules
  rules6 := hsame.rules6.trans hsame'.rules6
  routes := hsame.routes.trans hsame'.routes

variable [Libraries] {link : IpAddr → String} {gp : GatewayPlan}

/-- A gateway that is set up on a host is set up on every host that is the same. -/
lemma Host.Same.diverted (hsame : h'.Same h) (hset : Route.Diverted link gp h.fib) :
    Route.Diverted link gp h'.fib where
  rule := hsame.rules ▸ hset.rule
  floor := hsame.routes.mem_iff.2 hset.floor
  live r hr := by
    have hslot : (slot r.table r.dst r.metric h'.fib.routes).Perm
        (slot r.table r.dst r.metric h.fib.routes) := hsame.routes.filter _
    rw [hset.live r hr] at hslot
    exact List.perm_singleton.1 hslot
  none hl r hr := hset.none hl r (hsame.routes.mem_iff.1 hr)

lemma Host.Same.converges (hsame : h'.Same h) (hset : Converged link gp h.fib) :
    Converged link gp h'.fib where
  rule := hsame.rules ▸ hset.rule
  routes := (hsame.routes.filter _).trans hset.routes

end Same

/-! ### A plan in place -/

variable [Libraries]

/-- A plan is set up, and its table is the one that loading its script leaves. -/
structure InPlace (link : IpAddr → String) (h₀ h : Host) (p : Plan) : Prop extends
    SetUp link h₀ h p where
  tidy : Tidy h.fib
  usable : ∀ gp ∈ p.gateways, Usable h₀.fib gp
  diverted : ∀ gp ∈ p.gateways, Route.Diverted link gp h.fib
  table : ∀ d rs rs', Compiled p d → loadText d.nft rs = some rs' →
    rs'["inet degc"]? = h.nft["inet degc"]?

section InPlace

variable {h₀ h h' : Host} {link : IpAddr → String} {p : Plan} {d : Desired}

/-- Whatever was done before, a plan that is applied successfully, where the failures that are
ignored do no harm, is in place. -/
lemma Meddled.inPlace (hclean : Clean h₀) (hr : Meddled h₀ h) (hc : Compiled p d) {env : Env}
    (happly : Enforce.apply env.world d h = (h', .ok ()))
    (hharmless : ∀ gp ∈ p.gateways, Route.Harmless env gp h.fib) : InPlace env.link h₀ h' p := by
  obtain ⟨hk, htidy⟩ := hr.kept hclean
  have htidy' := htidy.apply hc env d.ip.length
  rw [Desired.upTo_length, happly] at htidy'
  have hset := hr.setUp hclean hc happly hharmless
  have hdiverted := hr.diverted hclean hc happly hharmless
  obtain ⟨hcheck, rs', hload', rfl, hgoes⟩ := env.apply_eq_ok happly
  have hfree := (hk.preflight hclean hc).1 hcheck
  refine ⟨hset, htidy', fun gp hgp => usable_of_free hclean hk hc hgp (hfree gp hgp),
    hdiverted, fun d' rs₁ rs₁' hc' hload => ?_⟩
  obtain rfl := Except.ok.inj (hc'.compile.symm.trans hc.compile)
  exact (Nft.loadText_congr hc.plainEgress (Nft.compile_eq_ok hc.compile).2.1 hload hload').1

/-- A plan that is in place is in place on every host that is reached and the same. -/
lemma InPlace.of_same (hclean : Clean h₀) (hp : InPlace link h₀ h p) (hr : Meddled h₀ h')
    (hsame : h'.Same h) : InPlace link h₀ h' p where
  loaded := by
    obtain ⟨d, sets, hc, ht, hsets⟩ := hp.loaded
    exact ⟨d, sets, hc, (hsame.nft _).trans ht, hsets⟩
  kept := (hr.kept hclean).1
  own gp hgp := by
    rw [OwnRules, hsame.rules]
    exact hp.own gp hgp
  converged gp hgp h4 := hsame.converges (hp.converged gp hgp h4)
  tidy := (hr.kept hclean).2
  usable := hp.usable
  diverted gp hgp := hsame.diverted (hp.diverted gp hgp)
  table d rs rs' hc hload := (hp.table d rs rs' hc hload).trans (hsame.nft _).symm

/-- Applying a plan that is in place leaves the host the same, whatever fails. -/
lemma InPlace.apply (hp : InPlace link h₀ h p) (hc : Compiled p d) {env : Env}
    (hlink : env.link = link) : (Enforce.apply env.world d h).1.Same h := by
  rcases env.apply_fst d h with hsame | ⟨-, rs, hload, happly⟩
  · rw [hsame]
    exact .refl h
  · rw [happly, hc.ip]
    obtain ⟨hrules, hrules6, hroutes⟩ := same_of_run env (hlink ▸ hp.diverted) fun gp hgp =>
      slot_floor hp.kept hp.tidy (hp.usable gp hgp) (hp.diverted gp hgp).floor
    refine ⟨fun key => ?_, hrules, hrules6, hroutes⟩
    by_cases hkey : key = "inet degc"
    · subst hkey
      exact hp.table d _ _ hc hload
    · exact (Nft.loadText_congr hc.plainEgress (Nft.compile_eq_ok hc.compile).2.1 hload hload).2
        key hkey

end InPlace

namespace Daemon

/-! ### Runs in which nothing changes -/

/-- A run in which the containers stay as they are, others take nothing away, and the host finds the
same devices.  Events, ticks and failures come as they like. -/
inductive Undisturbed (link : IpAddr → String) (s : Daemon) : Daemon → Prop
  | refl : Undisturbed link s s
  | step {t u : Daemon} (hrun : Undisturbed link s t) (hmain : t.loop.main ≠ .exited)
      (hst : Step t u) (hrunning : u.running = t.running) (hdrift : u.drifted = false)
      (hlink : ∀ a, u.attempts.getLast? = some a → a.env.link = link) : Undisturbed link s u

/-- What an undisturbed run leaves as it was. -/
structure Steady (s t : Daemon) : Prop where
  settings : t.config = s.config ∧ t.gateways = s.gateways ∧ t.dryRun = s.dryRun
  running : t.running = s.running
  /-- Docker answers with the containers that run, or not at all. -/
  answer : ∀ cs, t.answer = .ok cs → cs = s.running
  host : t.host.Same s.host
  fingerprint : t.lastFp = some (Reconcile.planSummary s.plan)
  /-- No change is logged, and the backend repeats what it logs of the plan. -/
  log : ∃ lines, t.log = s.log ++ lines ∧ ∀ l ∈ lines, l.level = .debug ∧ l.target = .main ∨
    ∃ d, Compiled s.plan d ∧ l ∈ backendLines s.dryRun d
  stats : ∃ now, Obs.lastStats (t.attempts.map t.recorded) = some (now, Reconcile.statsOf s.plan)

section Steady

variable {h₀ : Host} {link : IpAddr → String} {s t u : Daemon}

lemma Undisturbed.reaches (hs : Reaches h₀ s) (hrun : Undisturbed link s t) : Reaches h₀ t := by
  induction hrun with
  | refl => exact hs
  | step _ hmain hst _ _ _ ih => exact ih.step hmain hst

/-- An attempt, if it gets as far as the host, is about the plan of the containers that run. -/
lemma Steady.targets (ht : Steady s t) {targets : List Target}
    (hanswer : listTargets t.answer = .ok targets) :
    Plan.compile targets t.config.labelPrefix t.gateways = s.plan := by
  obtain ⟨hconfig, hgateways, -⟩ := ht.settings
  cases hcs : t.answer with
  | error e =>
      rw [hcs] at hanswer
      cases hanswer
  | ok cs =>
      rw [hcs, ht.answer cs hcs] at hanswer
      rw [← Except.ok.inj hanswer, hconfig, hgateways, plan]

/-- The host after an attempt is the one before it, or the plan is applied to it. -/
lemma Steady.host_outcome (ht : Steady s t) (hvalid : t.gateways.validate = .ok ()) {a : Attempt}
    (hanswer : a.answer = t.answer) : (t.outcome a).host = a.host ∨ t.dryRun = false ∧
      ∃ d, Compiled s.plan d ∧ (t.outcome a).host = (Enforce.apply a.env.world d a.host).1 := by
  rcases Reconcile.reconcileApply_cases (select t.dryRun a.env.world) t.config.labelPrefix
    t.gateways a.trigger a.answer a.host a.lastFp with ⟨-, e, ho⟩ | ⟨targets, d, hlist, hd, hcases⟩
  · left
    rw [outcome, ho]
  · have hplan := ht.targets (hanswer ▸ hlist)
    have hc : Compiled s.plan d := ⟨_, _, targets, hvalid, hplan.symm, hplan ▸ hd⟩
    have hhost : (t.outcome a).host = ((select t.dryRun a.env.world).apply d a.host).1 := by
      rcases hcases with ⟨e, ho⟩ | ⟨-, ho⟩ <;> rw [outcome, ho]
    rw [hhost, select_apply]
    cases hdry : t.dryRun with
    | true => exact Or.inl rfl
    | false => exact Or.inr ⟨rfl, d, hc, rfl⟩

/-- What the backend logs where nothing has changed is about the plan. -/
lemma Steady.mem_backendLog (ht : Steady s t) (hvalid : t.gateways.validate = .ok ()) {a : Attempt}
    (hanswer : a.answer = t.answer) {l : LogLine} (hl : l ∈ t.backendLog t.dryRun a) :
    ∃ d, Compiled s.plan d ∧ l ∈ backendLines s.dryRun d := by
  obtain ⟨d, hd, hl⟩ := List.mem_flatMap.1 hl
  rw [Option.mem_toList, desired] at hd
  cases hlist : listTargets a.answer with
  | error e => simp [hlist, Except.toOption] at hd
  | ok targets =>
      have hplan := ht.targets (hanswer ▸ hlist)
      simp only [hlist, Except.toOption, Option.bind_some, hplan] at hd
      cases hc : Enforce.compile s.plan with
      | error e => simp [hc] at hd
      | ok d' =>
          obtain rfl : d' = d := by simpa [hc] using hd
          exact ⟨d', ⟨_, _, targets, hvalid, hplan.symm, hc⟩, ht.settings.2.2 ▸ hl⟩

/-- A reconcile where nothing has changed logs no change, and shows what was shown. -/
lemma Steady.told (ht : Steady s t) (hvalid : t.gateways.validate = .ok ()) {a : Attempt}
    (hanswer : a.answer = t.answer) (hfp : a.lastFp = t.lastFp) :
    (t.outcome a).lastFp = t.lastFp ∧
      (∀ l ∈ (t.outcome a).lines, l.level = .debug ∧ l.target = .main ∨
        ∃ d, Compiled s.plan d ∧ l ∈ backendLines s.dryRun d) ∧
      ((t.recorded a).outcome = none ∨
        (t.recorded a).outcome = some (Reconcile.statsOf s.plan)) := by
  rcases outcome_lines t a with ⟨hfail, hlines, hsame⟩ | ⟨hok, targets, hlist, hlines, hsame⟩
  · refine ⟨hsame.trans hfp, fun l hl => ?_, Or.inl ?_⟩
    · exact Or.inr (ht.mem_backendLog hvalid hanswer (hlines ▸ hl))
    · rw [← isSome_recorded] at hfail
      simpa using hfail
  · obtain ⟨targets', d, hlist', -, -, -, hstats⟩ := outcome_ok hok
    have hplan := ht.targets (hanswer ▸ hlist)
    have hplan' := ht.targets (hanswer ▸ hlist')
    -- the fingerprint is the one of the plan, so that no change is noticed
    have hlog : Reconcile.logPlan a.trigger a.lastFp s.plan =
        ([{ level := .debug, trigger := some a.trigger,
            text := s!"reconciled, no change: {Reconcile.planSummary s.plan}" }], t.lastFp) := by
      rw [Reconcile.logPlan, hfp, if_pos ht.fingerprint]
    rw [hplan, hlog] at hlines hsame
    refine ⟨hsame, fun l hl => ?_, Or.inr ?_⟩
    · rw [hlines, List.mem_append] at hl
      refine hl.symm.imp (fun hl => ?_) (ht.mem_backendLog hvalid hanswer)
      obtain rfl := List.mem_singleton.1 hl
      exact ⟨rfl, rfl⟩
    · rw [recorded, hstats, hplan']
      rfl

/-- A reconcile where nothing has changed leaves everything as it was. -/
lemma steady_applied (ht : Steady s t) (hvalid : t.gateways.validate = .ok ())
    (hin : t.dryRun = false → InPlace link h₀ t.host s.plan) {trigger : Trigger} {env : Env}
    (hlink : env.link = link) (unixNow : ℕ) : Steady s (t.applied trigger env unixNow) := by
  have hhost : (t.outcome (t.attempt trigger env unixNow)).host.Same t.host := by
    rcases ht.host_outcome hvalid (a := t.attempt trigger env unixNow) rfl with
      hsame | ⟨hdry, d, hc, happly⟩
    · rw [hsame]
      exact .refl _
    · rw [happly]
      exact (hin hdry).apply hc hlink
  obtain ⟨hfp, hlines, hstats⟩ := ht.told hvalid (a := t.attempt trigger env unixNow) rfl rfl
  obtain ⟨lines, hlog, hdebug⟩ := ht.log
  obtain ⟨now, hnow⟩ := ht.stats
  refine { ht with
    host := hhost.trans ht.host
    fingerprint := hfp.trans ht.fingerprint
    log := ⟨lines ++ (t.outcome (t.attempt trigger env unixNow)).lines, ?_, ?_⟩
    stats := ?_ }
  · rw [← List.append_assoc, ← hlog]
    rfl
  · exact List.forall_mem_append.2 ⟨hdebug, hlines⟩
  · rw [map_recorded_applied, Obs.lastStats_append]
    rcases hstats with hnone | hsome
    · exact ⟨now, by rw [hnone]; exact hnow⟩
    · exact ⟨unixNow, by rw [hsome]; rfl⟩

/-- A step where nothing changes leaves everything as it was. -/
lemma steady_step (ht : Steady s t) (hvalid : t.gateways.validate = .ok ())
    (hin : t.dryRun = false → InPlace link h₀ t.host s.plan) (hst : Step t u)
    (hrunning : u.running = t.running) (hdrift : u.drifted = false)
    (hlink : ∀ a, u.attempts.getLast? = some a → a.env.link = link) : Steady s u := by
  cases hst with
  | occur msg running _ => exact { ht with running := hrunning.trans ht.running }
  | change running => exact { ht with running := hrunning.trans ht.running }
  | takeAway hrule hroute => cases hdrift
  | flush nft => cases hdrift
  | resubscribe hw => exact { ht with }
  | list hm answer hanswer =>
      exact { ht with answer := fun cs hcs => (hanswer cs hcs).trans ht.running }
  | applied hm env unixNow =>
      exact steady_applied ht hvalid hin (hlink _ (getLast?_applied t _ env unixNow)) unixNow
  | plain hl hplain => exact { ht with }

/-- In a quiet state after an attempt that succeeded everything is steady. -/
lemma Quiet.steady_self (hs : Reaches h₀ s) (hquiet : Quiet s) {a : Attempt}
    (hlast : s.attempts.getLast? = some a) (hok : s.Succeeds a) : Steady s s := by
  have hseen := hquiet.seen hs.known
  obtain ⟨-, -, hfp⟩ := hs.known.last a hlast
  obtain ⟨targets, -, hanswer, -, -, hsummary, hstats⟩ := outcome_ok hok
  obtain rfl := listed_of_seen hs.known hquiet.idle hseen hquiet.silent hlast hanswer
  obtain ⟨before, hattempts⟩ := List.getLast?_eq_some_iff.1 hlast
  exact {
    settings := ⟨rfl, rfl, rfl⟩
    running := rfl
    answer := hs.known.fresh hseen hquiet.silent
    host := .refl _
    fingerprint := hfp.trans hsummary
    log := ⟨[], by simp, by simp⟩
    stats := ⟨a.unixNow, by
      rw [hattempts, List.map_append, List.map_singleton, Obs.lastStats_append, recorded, hstats]
      rfl⟩ }

/-- In such a state the plan is in place, unless the failures that were ignored did harm. -/
lemma Quiet.inPlace (hclean : Clean h₀) (hs : Reaches h₀ s) (hquiet : Quiet s) {a : Attempt}
    (hlast : s.attempts.getLast? = some a) (hok : s.Succeeds a) (hdry : s.dryRun = false)
    (hharm : NoHarm a s.plan) : InPlace a.env.link h₀ s.host s.plan := by
  obtain ⟨hr, hhost, -⟩ := hs.known.last a hlast
  obtain ⟨targets, d, hanswer, hd, happly, -, -⟩ := outcome_ok hok
  obtain rfl := listed_of_seen hs.known hquiet.idle (hquiet.seen hs.known) hquiet.silent hlast
    hanswer
  have hc : Compiled s.plan d := ⟨_, _, _, hs.known.valid, rfl, hd⟩
  exact hr.inPlace hclean hc (apply_of_select happly (hhost hquiet.drifted) hdry) hharm

/-- There is a warning for each container that names an unknown gateway. -/
lemma length_warnings {p : Plan} {d : Desired} (h : Enforce.compile p = .ok d) :
    d.warnings.length = p.unresolved.length := by
  simp only [Enforce.compile, bind_eq_ok, pure_eq_ok] at h
  obtain ⟨-, -, guards, -, nft, -, ip, -, rfl⟩ := h
  exact List.length_map _

/-- Outside of a dry run, with no container that names an unknown gateway, nothing is logged but
that there is no change. -/
lemma Steady.debug (ht : Steady s t) (hdry : t.dryRun = false) (hnone : s.plan.unresolved = []) :
    ∃ lines, t.log = s.log ++ lines ∧ ∀ l ∈ lines, l.level = .debug := by
  obtain ⟨lines, hlog, hlines⟩ := ht.log
  refine ⟨lines, hlog, fun l hl => ?_⟩
  rcases hlines l hl with ⟨hlevel, -⟩ | ⟨d, hc, hmem⟩
  · exact hlevel
  · rw [← ht.settings.2.2, hdry] at hmem
    obtain ⟨w, hw, -⟩ := List.mem_map.1 hmem
    have hlength := length_warnings hc.compile
    rw [hnone] at hlength
    rw [List.length_eq_zero_iff.1 hlength] at hw
    cases hw

/-- From a quiet state after an attempt that succeeded, as long as the containers stay as they are
and others take nothing away, no reconcile changes anything on the host but the order of the routes,
nor logs a change, and packets are forwarded and metrics shown as the plan says, whatever events and
ticks come and whatever fails.  Where no container names an unknown gateway, there are no warnings
either. -/
theorem Reaches.steady (hconn : Connected h₀) (hs : Reaches h₀ s) (hquiet : Quiet s) {a : Attempt}
    (hlast : s.attempts.getLast? = some a) (hok : s.Succeeds a)
    (hharm : s.dryRun = false → NoHarm a s.plan) (hrun : Undisturbed a.env.link s t) :
    Steady s t ∧ (∃ now, Obs.Gauges (some (now, Reconcile.statsOf s.plan)) t.metrics) ∧
      (t.dryRun = false → DataPlane a.env.link h₀ t.host s.plan) ∧
      (t.dryRun = false → s.plan.unresolved = [] →
        ∃ lines, t.log = s.log ++ lines ∧ ∀ l ∈ lines, l.level = .debug) := by
  have hsteady : Steady s t ∧ (t.dryRun = false → InPlace a.env.link h₀ t.host s.plan) := by
    induction hrun with
    | refl => exact ⟨hquiet.steady_self hs hlast hok,
        fun hdry => hquiet.inPlace hconn.toClean hs hlast hok hdry (hharm hdry)⟩
    | @step t u hrun hmain hst hrunning hdrift hlink ih =>
        have ht := hrun.reaches hs
        have hu := steady_step ih.1 ht.known.valid ih.2 hst hrunning hdrift hlink
        refine ⟨hu, fun hdry => ?_⟩
        have hdry' : s.dryRun = false := hu.settings.2.2.symm.trans hdry
        exact (hquiet.inPlace hconn.toClean hs hlast hok hdry' (hharm hdry')).of_same hconn.toClean
          (ht.step hmain hst).known.host hu.host
  obtain ⟨hst, hin⟩ := hsteady
  obtain ⟨now, hnow⟩ := hst.stats
  have hgauges := (hrun.reaches hs).known.shows.toGauges
  rw [hnow] at hgauges
  exact ⟨hst, ⟨now, hgauges⟩, fun hdry => (hin hdry).toSetUp.forwards hconn, hst.debug⟩

end Steady

/-! ### A resync -/

omit [Libraries] in
/-- The daemon after a tick and an answer of Docker. -/
def relisted (s : Daemon) : Daemon :=
  { s.tick with
    loop := { s.tick.loop with
      main := .applying .resync
      seen := s.tick.loop.occurred
      fresh := [] }
    answer := .ok s.running
    heard := s.silent }

/-- The same after an attempt. -/
def resynced (s : Daemon) (env : Env) (unixNow : ℕ) : Daemon :=
  s.relisted.applied .resync env unixNow

/-- A resync alone is an undisturbed run. -/
lemma undisturbed_resynced {link : IpAddr → String} {s : Daemon} (hidle : s.loop.main = .idle)
    (hdrift : s.drifted = false) (hlink : ∀ a, s.attempts.getLast? = some a → a.env.link = link)
    {env : Env} (henv : env.link = link) (unixNow : ℕ) :
    Undisturbed link s (s.resynced env unixNow) := by
  have htick : Undisturbed link s s.tick :=
    .step .refl (by simp [hidle]) (.plain (.tick hidle) ⟨rfl, by simp [hidle], not_restart _⟩) rfl
      hdrift hlink
  have hlisted : Undisturbed link s s.relisted :=
    htick.step (by simp [tick]) (@Step.list _ s.tick .resync rfl (.ok s.running) fun cs h =>
      (Except.ok.inj h).symm) rfl hdrift hlink
  refine hlisted.step (by simp [relisted])
    (@Step.applied _ s.relisted .resync rfl env unixNow) rfl ?_ ?_
  · have hand : (s.resynced env unixNow).drifted = (s.relisted.drifted &&
        !(s.relisted.outcome (s.relisted.attempt .resync env unixNow)).stats.isOk) := rfl
    rw [hand, show s.relisted.drifted = false from hdrift]
    rfl
  · intro a ha
    obtain rfl := Option.some.inj ((getLast?_applied _ .resync env unixNow).symm.trans ha)
    exact henv

omit [Libraries] in
/-- In the home network, after a resync where every routing command fails, what the container sends
to an address outside still leaves by the gateway, and no change is logged. -/
theorem steady_subscribed :
    (@resynced .plain subscribedDaemon noIp 1).host.forward
        ⟨.v4 0xac120007, .v4 0x01010101, 0, none⟩ =
      some ⟨100, .default4, .via (.v4 0xac120002) "eth0", 194, 1⟩ ∧
    ∃ lines, (@resynced .plain subscribedDaemon noIp 1).log = subscribedDaemon.log ++ lines ∧
      ∀ l ∈ lines, l.level = .debug := by
  have hplan : @plan .plain subscribedDaemon = homePlan 100 [appContainer.target] := rfl
  have hrun : @Undisturbed .plain Env.allOk.link subscribedDaemon
      (@resynced .plain subscribedDaemon noIp 1) := by
    refine @undisturbed_resynced .plain Env.allOk.link subscribedDaemon quiet_subscribed.idle
      quiet_subscribed.drifted (fun a ha => ?_) noIp rfl 1
    obtain rfl : listedDaemon.attempt .startup .allOk 0 = a := Option.some.inj ha
    rfl
  obtain ⟨hsteady, -, hplane, hdebug⟩ := @Reaches.steady .plain _ _ _ connected_homeHost
    reaches_subscribed quiet_subscribed (listedDaemon.attempt .startup .allOk 0) rfl isOk_subscribed
    (fun _ => noHarm_listed) hrun
  have hdry : (@resynced .plain subscribedDaemon noIp 1).dryRun = false :=
    (@Steady.settings .plain _ _ hsteady).2.2.trans rfl
  exact ⟨forward_appContainer (hplan ▸ hplane hdry), hdebug hdry (hplan ▸ rfl)⟩

end Daemon

end Degc
