import Degc.Daemon.Logged

/-!
# The dry run

A dry run takes the steps of a run, but changes nothing on the host.  As long as no plan
is refused by the host, it measures what the run does, and logs the same of every plan.
Where the run warns of containers that are not routed, it shows the desired state.

The main result is `Reaches.dryRun`.
-/

namespace Degc.Daemon

open Net Text

variable [Libraries]

/-- The host does not refuse the plan of an attempt. -/
def Enforced (s : Daemon) (a : Attempt) : Prop :=
  ∀ targets d, listTargets a.answer = .ok targets →
    Enforce.compile (Plan.compile targets s.config.labelPrefix s.gateways) = .ok d →
    ((select s.dryRun a.env.world).apply d a.host).2 = .ok ()

/-- The daemon in a dry run on another host. -/
def dry (s : Daemon) (h : Host) : Daemon :=
  { s with
    dryRun := true
    host := h
    log := s.attempts.flatMap (s.logOf true)
    attempts := s.attempts.map fun a => { a with host := h } }

section Dry

variable {h₀ h : Host} {s t : Daemon}

/-- The outcome of an attempt that is not refused. -/
lemma outcome_enforced {a : Attempt} (hok : s.Enforced a) {targets : List Target} {d : Desired}
    (hanswer : listTargets a.answer = .ok targets)
    (hd : Enforce.compile (Plan.compile targets s.config.labelPrefix s.gateways) = .ok d) :
    let plan := Plan.compile targets s.config.labelPrefix s.gateways
    let log := Reconcile.logPlan a.trigger a.lastFp plan
    s.outcome a = ⟨((select s.dryRun a.env.world).apply d a.host).1, log.2,
      backendLines s.dryRun d ++ log.1, .ok (Reconcile.statsOf plan)⟩ := by
  have hrun := hok targets d hanswer hd
  rcases hselect : (select s.dryRun a.env.world).apply d a.host with ⟨h', e | u⟩
  · rw [hselect] at hrun
    cases hrun
  · simp only [outcome, Reconcile.reconcileApply, hanswer, hd, hselect, select_lines]

/-- Nothing is refused in a dry run. -/
lemma enforced_dry (a : Attempt) : (s.dry h).Enforced a := fun _ _ _ _ => rfl

/-- A dry run of an attempt that is not refused has the same outcome on its host, but for the lines
of the backend. -/
lemma outcome_dry {a : Attempt} (hok : s.Enforced a) :
    (s.dry h).outcome { a with host := h } =
      { s.outcome a with host := h, lines := s.logOf true a } := by
  have hfailed : ∀ e, s.outcome a = ⟨a.host, a.lastFp, [], .error e⟩ → s.desired a = none →
      (s.dry h).outcome { a with host := h } = ⟨h, a.lastFp, [], .error e⟩ →
      (s.dry h).outcome { a with host := h } =
        { s.outcome a with host := h, lines := s.logOf true a } := by
    intro e hs hdesired ht
    simp [ht, hs, logOf, backendLog, hdesired, planLog]
  cases hanswer : listTargets a.answer with
  | error e =>
      refine hfailed e ?_ (by simp [desired, hanswer, Except.toOption]) ?_
      · simp only [outcome, Reconcile.reconcileApply, hanswer]
      · simp only [outcome, Reconcile.reconcileApply, hanswer]
  | ok targets =>
      cases hd : Enforce.compile (Plan.compile targets s.config.labelPrefix s.gateways) with
      | error e =>
          refine hfailed e ?_ (by simp [desired, hanswer, hd, Except.toOption]) ?_
          · simp only [outcome, Reconcile.reconcileApply, hanswer, hd]
          · simp only [outcome, Reconcile.reconcileApply, Daemon.dry, hanswer, hd]
      | ok d =>
          have hs := outcome_enforced hok hanswer hd
          have ht : (s.dry h).outcome { a with host := h } = _ :=
            outcome_enforced (enforced_dry _) hanswer hd
          have hlines := lines_outcome s a
          rw [hs, backendLog, desired_eq hanswer hd, Option.toList_some,
            List.flatMap_singleton] at hlines
          rw [ht, hs, logOf, backendLog, desired_eq hanswer hd, Option.toList_some,
            List.flatMap_singleton, ← List.append_cancel_left hlines]
          rfl

lemma applied_dry (trigger : Trigger) (env : Env) (unixNow : ℕ)
    (hok : s.Enforced (s.attempt trigger env unixNow)) :
    (s.applied trigger env unixNow).dry h = (s.dry h).applied trigger env unixNow := by
  have happlied : ∀ s : Daemon, s.applied trigger env unixNow =
      let a := s.attempt trigger env unixNow
      { s with
        loop := { s.loop with main := .applied trigger (s.outcome a).stats.isOk }
        host := (s.outcome a).host
        drifted := s.drifted && !(s.outcome a).stats.isOk
        flushed := s.flushed && !(s.outcome a).stats.isOk
        lastFp := (s.outcome a).lastFp
        metrics := s.metrics.record trigger unixNow (s.outcome a).stats.toOption
        log := s.log ++ (s.outcome a).lines
        attempts := s.attempts ++ [a] } := fun _ => rfl
  have houtcome : (s.dry h).outcome ((s.dry h).attempt trigger env unixNow) =
      { s.outcome (s.attempt trigger env unixNow) with
        host := h
        lines := s.logOf true (s.attempt trigger env unixNow) } := outcome_dry hok
  have hlog : (s.applied trigger env unixNow).logOf true = s.logOf true :=
    logOf_congr rfl rfl rfl true
  rw [Daemon.dry, hlog, happlied, happlied]
  simp only [houtcome]
  simp [Daemon.dry, attempt]

/-- A step that is not refused is a step of the dry run. -/
lemma Step.dry (hst : Step s t) (hok : ∀ a ∈ t.attempts, t.Enforced a) :
    Step (s.dry h) (t.dry h) := by
  cases hst with
  | occur msg running hrelevant => exact .occur (s := s.dry h) msg running hrelevant
  | change running => exact .change (s := s.dry h) running
  | takeAway hrule hroute =>
      -- nothing is taken away from the other host
      have hnone : Step (s.dry h) { s.dry h with
          host := (s.dry h).host.takeAway (fun _ => false) (fun _ => false), drifted := true } :=
        .takeAway (by simp) (by simp)
      rwa [takeAway_none] at hnone
  | flush nft => exact .flush (s := s.dry h) h.nft
  | resubscribe hw => exact .resubscribe (s := s.dry h) hw
  | list hm answer hanswer => exact .list (s := s.dry h) hm answer hanswer
  | @applied trigger hm env unixNow =>
      have hnew : s.Enforced (s.attempt trigger env unixNow) :=
        hok _ (List.mem_append_right _ (List.mem_singleton_self _))
      rw [applied_dry trigger env unixNow hnew]
      exact .applied (s := s.dry h) hm env unixNow
  | plain hl hplain => exact .plain (s := s.dry h) hl hplain

/-- What is not refused up to a step is not refused before it. -/
lemma Step.enforced (hst : Step s t) (hok : ∀ a ∈ t.attempts, t.Enforced a) :
    ∀ a ∈ s.attempts, s.Enforced a := by
  cases hst with
  | applied hm env unixNow => exact fun a ha => hok a (List.mem_append_left _ ha)
  | _ => exact hok

/-- Every run whose plans are not refused has a dry run which leaves the host as it was, and which
measures the same, and logs the same of every plan.  In front of each plan that is compiled, the run
logs its warnings and the dry run the desired state. -/
theorem Reaches.dryRun (hs : Reaches h₀ s) (hok : ∀ a ∈ s.attempts, s.Enforced a) :
    (∃ t, Reaches h₀ t ∧ t.dryRun = true ∧ t.host = h₀ ∧ t.loop = s.loop ∧ t.running = s.running ∧
      t.lastFp = s.lastFp ∧ t.metrics = s.metrics ∧
      t.log = s.attempts.flatMap fun a =>
        (s.desired a).toList.flatMap dryRunLines ++ s.planLog a) ∧
      s.log = s.attempts.flatMap fun a =>
        (s.desired a).toList.flatMap (backendLines s.dryRun) ++ s.planLog a := by
  refine ⟨⟨s.dry h₀, ?_, rfl, rfl, rfl, rfl, rfl, rfl, rfl⟩, hs.log_eq⟩
  induction hs with
  | start hr hload dryRun running => exact .start .start hload true running
  | step _ hmain hst ih => exact (ih (hst.enforced hok)).step hmain (hst.dry hok)

end Dry

omit [Libraries] in
/-- The dry run of the daemon in the home network. -/
theorem dryRun_subscribed : ∃ t, @Reaches .plain homeHost t ∧ t.dryRun = true ∧ t.host = homeHost ∧
    t.loop = subscribedDaemon.loop ∧ t.running = subscribedDaemon.running ∧
    t.lastFp = subscribedDaemon.lastFp ∧ t.metrics = subscribedDaemon.metrics ∧
    t.log = subscribedDaemon.attempts.flatMap fun a =>
      (@desired .plain subscribedDaemon a).toList.flatMap dryRunLines ++
        @planLog .plain subscribedDaemon a := by
  refine (@Reaches.dryRun .plain _ _ reaches_subscribed fun a ha => ?_).1
  obtain rfl : a = listedDaemon.attempt .startup .allOk 0 := List.mem_singleton.1 ha
  intro targets d hanswer hd
  obtain rfl : [appContainer.target] = targets := Except.ok.inj hanswer
  have hc : @Compiled .plain (homePlan 100 [appContainer.target]) d :=
    ⟨_, _, _, by decide, rfl, hd⟩
  obtain ⟨rs, -, happly⟩ := @Clean.apply_of_lets .plain _ connected_homeHost.toClean _ _ hc _
    (Env.lets_allOk d) (by decide +kernel)
  exact congrArg Prod.snd happly

end Degc.Daemon
