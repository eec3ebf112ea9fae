import Degc.Daemon.Agrees

/-!
# What stays in place

Docker may not answer, a plan may not compile, a program may fail, and others may take
rules and routes away.  Past the first reconcile that succeeded, unless others changed the
packet filter, its table is still the one of a plan that was compiled from an answer of
Docker: the plan of the last attempt that succeeded, or of one that failed after it, when it
had loaded its table.

The main result is `Reaches.guarded`.
-/

namespace Degc

open Net Text Fib Netfilter

/-- The first reconcile is not over. -/
def Reconcile.Main.Begins (m : Reconcile.Main) : Prop :=
  m = .listing .startup ∨ m = .applying .startup

@[simp] lemma Reconcile.begins_listing (trigger : Trigger) :
    (Reconcile.Main.listing trigger).Begins ↔ trigger = .startup := by
  simp [Reconcile.Main.Begins]

@[simp] lemma Reconcile.begins_applying (trigger : Trigger) :
    (Reconcile.Main.applying trigger).Begins ↔ trigger = .startup := by
  simp [Reconcile.Main.Begins]

/-- When a reconcile is over, the first one is. -/
@[simp] lemma Reconcile.not_begins_applied (trigger : Trigger) (ok : Bool) :
    ¬ (Reconcile.Main.applied trigger ok).Begins := by
  cases trigger <;> cases ok <;> simp [Reconcile.Main.Begins, Reconcile.Main.applied]

namespace Daemon

variable [Libraries]

/-- What the server answers to the probe for readiness.  There is a server when its address is set
and can be bound, until the loop exits. -/
def readyz (s : Daemon) (binds : SocketAddr → Bool) : Option (ℕ × String) :=
  if s.loop.main = .exited then none
  else (s.config.metricsAddr.filter binds).map fun _ => s.metrics.readyzHandler

/-- An attempt succeeded. -/
def Succeeds (s : Daemon) (a : Attempt) : Prop := (s.outcome a).stats.isOk = true

instance (s : Daemon) (a : Attempt) : Decidable (s.Succeeds a) :=
  inferInstanceAs (Decidable (_ = true))

/-- The table of a plan guards its members: whatever the rules and routes are, what one of them
sends to an address that is not direct is routed with the mark of its gateway and leaves by a device
of the gateway, or does not leave. -/
structure Guards (p : Plan) (h : Host) : Prop where
  loaded : Loaded p h
  members : ∀ (fib : Fib) (gp : GatewayPlan) (pkt : Packet), OnlyOf p gp pkt.src →
    pkt.src.isIpv4 = pkt.dst.isIpv4 → Direct gp pkt.dst = false →
    ∀ r, { h with fib := fib }.forward pkt = some r → pkt.src.isIpv4 = true ∧
      fib.route (Nft.markOf gp) pkt.dst = some r ∧
      ∃ dev, r.hop.oif = some dev ∧ Nft.Passes gp.egress (some dev)

lemma guards_of_loaded {p : Plan} {h : Host} (hl : Loaded p h) : Guards p h where
  loaded := hl
  members fib _ _ honly hfamily hdirect _ hr :=
    (Loaded.forward_iff (h := { h with fib := fib }) hl honly hfamily hdirect).1 hr

/-- The plan of what Docker listed for the last attempt that succeeded, or for one after it, is in
force. -/
def InForce (s : Daemon) (h : Host) : Prop :=
  ∃ before a after targets, s.attempts = before ++ a :: after ∧ (∀ a' ∈ after, ¬ s.Succeeds a') ∧
    listTargets a.answer = .ok targets ∧
      Guards (Plan.compile targets s.config.labelPrefix s.gateways) h

/-- What is known of the attempts. -/
structure Guarded (s : Daemon) : Prop where
  ready : s.loop.main.Begins ∨ s.loop.main = .exited ∨ ∃ a ∈ s.attempts, s.Succeeds a
  inForce : s.dryRun = false → s.flushed = false → (∃ a ∈ s.attempts, s.Succeeds a) →
    s.InForce s.host

section Step

variable {h₀ : Host} {s t : Daemon}

omit [Libraries] in
/-- A plain step neither begins nor ends the first reconcile. -/
lemma Plain.begins {l l' : Reconcile.State} (hplain : Plain l l') (h : Reconcile.Step l l') :
    l'.main.Begins ↔ l.main.Begins := by
  cases h with
  | occur msg => rw [(Reconcile.occur_eq l msg).2.1]
  | read hw =>
      rw [Reconcile.State.read]
      split <;> rfl
  | @list trigger hm => exact absurd ((hplain.applying trigger).1 rfl) (by simp [hm])
  | @applied trigger ok hm =>
      have hsame := (hplain.applying trigger).2 hm
      cases trigger <;> cases ok <;> simp [Reconcile.Main.applied] at hsame
  | watch hm | tick hm | receive hm | quiet hm | closed hm | shutdown hm =>
      simp [Reconcile.Main.Begins, hm]
  | _ => rfl

/-- A step makes an attempt, or it neither begins nor ends the first reconcile. -/
lemma Step.begins (hst : Step s t) :
    (t.attempts = s.attempts ∧ (t.loop.main.Begins ↔ s.loop.main.Begins)) ∨
      ∃ trigger env unixNow, s.loop.main = .applying trigger ∧
        t = s.applied trigger env unixNow := by
  cases hst with
  | occur msg running _ => exact Or.inl ⟨rfl, by rw [(Reconcile.occur_eq s.loop msg).2.1]⟩
  | list hm answer _ => exact Or.inl ⟨rfl, by simp [hm]⟩
  | applied hm env unixNow => exact Or.inr ⟨_, env, unixNow, hm, rfl⟩
  | plain hl hplain => exact Or.inl ⟨rfl, hplain.begins hl⟩
  | _ => exact Or.inl ⟨rfl, Iff.rfl⟩

/-- A plan stays in force on every host with the same table of the packet filter. -/
lemma InForce.of_nft {h h' : Host} (hforce : s.InForce h) (hnft : h'.nft = h.nft) :
    s.InForce h' := by
  obtain ⟨before, a, after, targets, hattempts, hafter, hanswer, hguards⟩ := hforce
  have hl : Loaded (Plan.compile targets s.config.labelPrefix s.gateways) h' := by
    rw [Loaded, hnft]
    exact hguards.loaded
  exact ⟨before, a, after, targets, hattempts, hafter, hanswer, guards_of_loaded hl⟩

/-- A plan stays in force when an attempt fails and leaves the host as it is. -/
lemma InForce.append {h : Host} (hforce : s.InForce h) {a : Attempt} (hfail : ¬ s.Succeeds a) :
    { s with attempts := s.attempts ++ [a] }.InForce h := by
  obtain ⟨before, b, after, targets, hattempts, hafter, hanswer, hguards⟩ := hforce
  refine ⟨before, b, after ++ [a], targets, by simp [hattempts], ?_, hanswer, hguards⟩
  intro a' ha'
  rcases List.mem_append.1 ha' with ha' | ha'
  · exact hafter a' ha'
  · exact List.mem_singleton.1 ha' ▸ hfail

/-- What an attempt leaves: the host as it was, when it fails, or a host on which the plan of the
last answer is loaded. -/
lemma outcome_host (hvalid : s.gateways.validate = .ok ()) (hdry : s.dryRun = false) (a : Attempt) :
    (¬ s.Succeeds a ∧ (s.outcome a).host = a.host) ∨ ∃ targets, listTargets a.answer = .ok targets ∧
      Loaded (Plan.compile targets s.config.labelPrefix s.gateways) (s.outcome a).host := by
  have hselect : select s.dryRun a.env.world = systemEnforcer a.env.world := by
    rw [select, hdry, if_neg (by simp)]
  rcases Reconcile.reconcileApply_cases (systemEnforcer a.env.world) s.config.labelPrefix s.gateways
    a.trigger a.answer a.host a.lastFp with ⟨-, e, ho⟩ | ⟨targets, d, hanswer, hd, hcases⟩
  · left
    rw [Succeeds, outcome, hselect, ho]
    exact ⟨by simp [Except.isOk, Except.toBool], rfl⟩
  · have hc : Compiled (Plan.compile targets s.config.labelPrefix s.gateways) d :=
      ⟨_, _, targets, hvalid, rfl, hd⟩
    rcases hcases with ⟨e, ho⟩ | ⟨hok, ho⟩
    · have hload := hc.loaded_apply a.env d.ip.length a.host
      rw [Desired.upTo_length] at hload
      rw [Succeeds, outcome, hselect, ho]
      rcases hload with hsame | hload
      · exact Or.inl ⟨by simp [Except.isOk, Except.toBool], hsame⟩
      · exact Or.inr ⟨targets, hanswer, hload⟩
    · rw [outcome, hselect, ho]
      exact Or.inr ⟨targets, hanswer, hc.loaded_of_ok (Prod.ext rfl hok)⟩

/-- An attempt puts its plan in force, or leaves what is in force. -/
lemma inForce_applied (hvalid : s.gateways.validate = .ok ()) (hg : Guarded s)
    (hdry : s.dryRun = false) (trigger : Trigger) (env : Env) (unixNow : ℕ)
    (hflushed : (s.applied trigger env unixNow).flushed = false)
    (hsucc : ∃ a ∈ (s.applied trigger env unixNow).attempts, s.Succeeds a) :
    (s.applied trigger env unixNow).InForce (s.applied trigger env unixNow).host := by
  rcases outcome_host hvalid hdry (s.attempt trigger env unixNow) with
    ⟨hfail, hhost⟩ | ⟨targets, hanswer, hload⟩
  · obtain ⟨a, ha, hok⟩ := hsucc
    rcases List.mem_append.1 ha with ha | ha
    · have hnot : (s.outcome (s.attempt trigger env unixNow)).stats.isOk = false :=
        Bool.eq_false_iff.2 hfail
      have hold : s.flushed = false := by
        have hand :
            (s.flushed && !(s.outcome (s.attempt trigger env unixNow)).stats.isOk) = false :=
          hflushed
        simpa [hnot] using hand
      have hforce := hg.inForce hdry hold ⟨a, ha, hok⟩
      rw [show s.host = (s.applied trigger env unixNow).host from hhost.symm] at hforce
      exact hforce.append hfail
    · obtain rfl := List.mem_singleton.1 ha
      exact absurd hok hfail
  · exact ⟨s.attempts, _, [], targets, rfl, by simp, hanswer, guards_of_loaded hload⟩

/-- What is known of the attempts is kept by every step. -/
lemma guarded_step (hvalid : s.gateways.validate = .ok ()) (hg : Guarded s)
    (hmain : s.loop.main ≠ .exited) (hst : Step s t) : Guarded t := by
  cases hst with
  | occur msg running hrelevant =>
      refine ⟨?_, hg.inForce⟩
      rw [(Reconcile.occur_eq s.loop msg).2.1]
      exact hg.ready
  | change running => exact ⟨hg.ready, hg.inForce⟩
  | takeAway hrule hroute =>
      exact ⟨hg.ready, fun hdry hflushed hsucc => (hg.inForce hdry hflushed hsucc).of_nft rfl⟩
  | flush nft => exact ⟨hg.ready, by rintro - ⟨⟩⟩
  | resubscribe hw => exact ⟨hg.ready, hg.inForce⟩
  | @list trigger hm answer hanswer =>
      refine ⟨hg.ready.imp (fun hb => ?_) (Or.imp_left fun h => absurd h hmain), hg.inForce⟩
      rw [hm, Reconcile.begins_listing] at hb
      exact (Reconcile.begins_applying trigger).2 hb
  | @applied trigger hm env unixNow =>
      refine ⟨?_, fun hdry hflushed hsucc =>
        inForce_applied hvalid hg hdry trigger env unixNow hflushed hsucc⟩
      by_cases hok : s.Succeeds (s.attempt trigger env unixNow)
      · exact Or.inr (Or.inr ⟨_, List.mem_append_right _ (List.mem_singleton_self _), hok⟩)
      · rw [applied_loop, Bool.eq_false_iff.2 hok]
        cases trigger with
        | startup => exact Or.inr (Or.inl rfl)
        | event | resync =>
            have hready : ∃ a ∈ s.attempts, s.Succeeds a := by simpa [hm] using hg.ready
            obtain ⟨a, ha, hok⟩ := hready
            exact Or.inr (Or.inr ⟨a, List.mem_append_left _ ha, hok⟩)
  | plain hl hplain =>
      refine ⟨?_, hg.inForce⟩
      rw [hplain.begins hl]
      exact hg.ready.imp_right fun h => Or.inr (h.resolve_left hmain)

/-- What is known of the attempts holds in every state. -/
lemma Reaches.attempted (hs : Reaches h₀ s) : Guarded s := by
  induction hs with
  | start hr hload dryRun running =>
      exact ⟨Or.inl (Or.inl rfl), fun _ _ h => by simp [Daemon.start] at h⟩
  | step hs hmain hst ih => exact guarded_step hs.known.valid ih hmain hst

lemma isSome_recorded (s : Daemon) (a : Attempt) :
    (s.recorded a).outcome.isSome = true ↔ s.Succeeds a := by
  rw [Succeeds, recorded]
  cases (s.outcome a).stats <;> simp [Except.toOption, Except.isOk, Except.toBool]

/-- The probe for readiness says whether an attempt succeeded. -/
lemma ready_iff (h : Obs.Shows (s.attempts.map s.recorded) s.metrics) :
    s.metrics.readyzHandler.1 = 200 ↔ ∃ a ∈ s.attempts, s.Succeeds a := by
  rw [h.ready]
  simp only [ite_eq_left_iff, Nat.reduceEqDiff, imp_false, not_not, Obs.isSome_lastStats,
    List.mem_map, exists_exists_and_eq_and,
    isSome_recorded]

omit [Libraries] in
/-- The text of the answer goes with its code. -/
lemma readyzHandler_of_ready {m : Obs.Metrics} (h : m.readyzHandler.1 = 200) :
    m.readyzHandler = (200, "ok\n") := by
  rw [Obs.Metrics.readyzHandler] at h ⊢
  split at h
  · next hready => rw [if_pos hready]
  · cases h

/-- Past the first reconcile the server, if there is one, answers that the daemon is ready.  As long
as it does so, not in a dry run, and others did not change the packet filter since the last attempt
that succeeded, the table of the plan of that attempt, or of one after it, guards the members,
whatever the order of the steps was, whatever failed, and whatever rules and routes were taken
away. -/
theorem Reaches.guarded (hs : Reaches h₀ s) (binds : SocketAddr → Bool) :
    (¬ s.loop.main.Begins → s.loop.main ≠ .exited →
      s.readyz binds = (s.config.metricsAddr.filter binds).map fun _ => (200, "ok\n")) ∧
      (s.dryRun = false → s.flushed = false → ∀ body, s.readyz binds = some (200, body) →
        s.InForce s.host) := by
  have hready := ready_iff hs.known.shows
  have hg := hs.attempted
  refine ⟨fun hbegins hmain => ?_, fun hdry hflushed body h => ?_⟩
  · have hsucc := (hg.ready.resolve_left hbegins).resolve_left hmain
    rw [readyz, if_neg hmain, readyzHandler_of_ready (hready.2 hsucc)]
  · rw [readyz, Option.ite_none_left_eq_some] at h
    obtain ⟨_, -, hanswer⟩ := Option.map_eq_some_iff.1 h.2
    exact hg.inForce hdry hflushed (hready.1 (congrArg Prod.fst hanswer))

end Step

omit [Libraries] in
/-- In the home network, past the first reconcile, the server answers that the daemon is ready, and
a plan is in force. -/
theorem guarded_subscribed :
    subscribedDaemon.readyz (fun _ => true) = some (200, "ok\n") ∧
      @InForce .plain subscribedDaemon subscribedDaemon.host := by
  have hguarded := @Reaches.guarded .plain _ _ reaches_subscribed fun _ => true
  have hmain : subscribedDaemon.loop.main = .idle := rfl
  have haddr : (Config.fromEnv homeVar).metricsAddr = some (.v4 0 9101) := by decide +kernel
  have hready := hguarded.1 (by simp [hmain, Reconcile.Main.Begins]) (by simp [hmain])
  have hconfig : subscribedDaemon.config = .fromEnv homeVar := rfl
  rw [hconfig, haddr] at hready
  exact ⟨hready, hguarded.2 rfl rfl _ hready⟩

end Daemon

end Degc
