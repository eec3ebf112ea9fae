import Degc.Daemon.Guarded
import Degc.Reconcile.Coalesce
import Mathlib.Data.List.Chain

/-!
# What a run counts and logs

A relevant event leads to one reconcile at most, and the first reconcile is made once
(`Reaches.coalesced`).  The log is what the attempts have logged one after the other: the
lines of the backend and, where they succeed, those of the plan (`Reaches.log_eq`).  Every
reconcile that succeeds logs one line with its trigger, as a change or not, and the
changes that follow each other in the log are different (`Reaches.logged`).
-/

namespace Degc

open Net Text

namespace Reconcile

/-- The summaries that are logged as changes. -/
def changes (log : List LogLine) : List String :=
  log.filterMap fun l => if l.level = .info ∧ l.target = .main then some l.text else none

/-- The number of lines with a trigger. -/
def linesOf (log : List LogLine) (trigger : Trigger) : ℕ :=
  log.countP fun l => l.trigger == some trigger

lemma changes_append (log log' : List LogLine) :
    changes (log ++ log') = changes log ++ changes log' := List.filterMap_append

lemma linesOf_append (log log' : List LogLine) (trigger : Trigger) :
    linesOf (log ++ log') trigger = linesOf log trigger + linesOf log' trigger := List.countP_append

variable [Libraries]

/-- The problems of a plan are warnings without a trigger. -/
lemma changes_problemLines (plan : Plan) : changes (problemLines plan) = [] := by
  simp [changes, problemLines]

lemma linesOf_problemLines (plan : Plan) (trigger : Trigger) :
    linesOf (problemLines plan) trigger = 0 := by
  simp [linesOf, problemLines, List.countP_eq_zero]

/-- The lines of a plan that was applied: its summary is logged as a change when it is not the last
fingerprint. -/
lemma changes_logPlan (trigger : Trigger) (lastFp : Option String) (plan : Plan) :
    changes (logPlan trigger lastFp plan).1 =
      if lastFp = some (planSummary plan) then [] else [planSummary plan] := by
  rw [logPlan]
  split
  · rfl
  · exact congrArg (planSummary plan :: ·) (changes_problemLines plan)

/-- One line of a plan that was applied has the trigger. -/
lemma linesOf_logPlan (trigger trigger' : Trigger) (lastFp : Option String) (plan : Plan) :
    linesOf (logPlan trigger lastFp plan).1 trigger' = if trigger = trigger' then 1 else 0 := by
  have hproblems : (problemLines plan).countP (fun l => l.trigger == some trigger') = 0 :=
    linesOf_problemLines plan trigger'
  rw [logPlan]
  split
  · simp [linesOf, List.countP_cons]
  · simp [linesOf, changeLines, List.countP_cons, hproblems]

end Reconcile

namespace Daemon

open Reconcile (changes linesOf planSummary changes_append linesOf_append)

variable [Libraries]

/-! ### The number of attempts -/

/-- The number of attempts with a trigger. -/
def made (s : Daemon) (trigger : Trigger) : ℕ := s.attempts.countP fun a => a.trigger == trigger

/-- What is known of the number of attempts. -/
structure Coalesced (s : Daemon) : Prop where
  /-- A relevant event leads to one reconcile at most, and one that is missed or lost to none. -/
  event : s.made .event + s.loop.pending ≤ s.loop.occurred
  startup : (s.loop.main.Begins → s.made .startup = 0) ∧
    (¬ s.loop.main.Begins → s.made .startup = 1)

section Coalesced

variable {h₀ : Host} {s t : Daemon}

lemma made_applied (s : Daemon) (trigger trigger' : Trigger) (env : Env) (unixNow : ℕ) :
    (s.applied trigger env unixNow).made trigger' =
      s.made trigger' + if trigger = trigger' then 1 else 0 := by
  have hone : ([s.attempt trigger env unixNow].countP fun a => a.trigger == trigger') =
      if trigger = trigger' then 1 else 0 := by
    simp [attempt]
  rw [made, made, ← hone]
  exact List.countP_append

/-- What is known of the number of attempts is kept by every step. -/
lemma coalesced_step (hc : Coalesced s) (hst : Step s t) : Coalesced t := by
  obtain ⟨hevent, hstartup⟩ := hc
  have hpending : t.loop.pending + s.loop.occurred ≤ s.loop.pending + t.loop.occurred := by
    rcases hst.loop_cases with h | h
    · exact Reconcile.pending_step h
    · rw [h]
  rcases hst.begins with ⟨hsame, hbegins⟩ | ⟨trigger, env, unixNow, hm, rfl⟩
  · have hmade : ∀ trigger, t.made trigger = s.made trigger := fun _ => by rw [made, made, hsame]
    refine ⟨by rw [hmade]; omega, ?_⟩
    rw [hmade, hbegins]
    exact hstartup
  · have hover : ¬ (s.applied trigger env unixNow).loop.main.Begins :=
      Reconcile.not_begins_applied _ _
    refine ⟨?_, fun h => absurd h hover, fun _ => ?_⟩
    · rw [made_applied]
      split
      · next h =>
          subst h
          have hserved := Reconcile.pending_applied hm
            (s.outcome (s.attempt .event env unixNow)).stats.isOk
          rw [← applied_loop] at hserved
          have hoccurred : (s.applied .event env unixNow).loop.occurred = s.loop.occurred := rfl
          omega
      · omega
    · rw [made_applied]
      split
      · next h =>
          have hbegins : s.loop.main.Begins := by rw [hm, Reconcile.begins_applying, h]
          rw [hstartup.1 hbegins]
      · next h =>
          have hbegins : ¬ s.loop.main.Begins := by rwa [hm, Reconcile.begins_applying]
          rw [hstartup.2 hbegins]

/-- Whatever the order of the steps was, the reconciles for events do not outnumber the relevant
events, less those that are pending, were missed or were lost; and the first reconcile is made
once. -/
theorem Reaches.coalesced (hs : Reaches h₀ s) : Coalesced s := by
  induction hs with
  | start hr hload dryRun running =>
      exact ⟨le_rfl, fun _ => rfl, fun h => absurd (Or.inl rfl) h⟩
  | step _ _ hst ih => exact coalesced_step ih hst

end Coalesced

omit [Libraries] in
/-- The loop when the containers are to be listed because one was started. -/
def startedLoop : Reconcile.State where
  main := .listing .event
  watcher := .listening [] true
  occurred := 1
  fresh := [1]

/-- A start of a container is read, announced and received. -/
lemma Reaches.started {h₀ : Host} {s : Daemon} (hs : Reaches h₀ s)
    (hloop : s.loop = subscribedLoop) : Reaches h₀ { s with loop := startedLoop } := by
  let msg : Reconcile.EventMessage := { typ := some .container, action := some "start" }
  let w := Reconcile.Watcher.listening [] true
  have hoccur : Reaches h₀ { s with loop :=
      { main := .idle, watcher := .listening [(1, msg)] true, occurred := 1 } } := by
    have hstep := hs.step (by simp [hloop, subscribedLoop]) (.occur msg s.running fun _ => rfl)
    rwa [hloop] at hstep
  have hread : Reaches h₀ { s with loop :=
      { main := .idle, watcher := .sending [] true, occurred := 1, fresh := [1] } } :=
    hoccur.step (by simp) (.plain (@Reconcile.Step.read _ (1, msg) [] true rfl)
      ⟨rfl, fun _ => Iff.rfl, by simp⟩)
  have hsend : Reaches h₀ { s with loop :=
      { main := .idle, watcher := w, occurred := 1, fresh := [1], signal := true } } :=
    hread.step (by simp) (.plain (.send rfl) ⟨rfl, by simp, by simp [w]⟩)
  have hreceive : Reaches h₀ { s with loop :=
      { main := .debouncing, watcher := w, occurred := 1, fresh := [1] } } :=
    hsend.step (by simp) (.plain (.receive rfl rfl) ⟨rfl, by simp, by simp [w]⟩)
  exact hreceive.step (by simp) (.plain (.quiet rfl)
    ⟨rfl, by simp [startedLoop], by simp [startedLoop]⟩)

omit [Libraries] in
/-- The daemon when Docker has answered after a start of a container. -/
def relistedDaemon (s : Daemon) : Daemon :=
  { s with
    loop := { startedLoop with main := .applying .event, seen := 1, fresh := [] }
    answer := .ok s.running
    heard := s.silent }

/-- The start leads to an attempt. -/
lemma Reaches.reconciled {h₀ : Host} {s : Daemon} (hs : Reaches h₀ s)
    (hloop : s.loop = subscribedLoop) (env : Env) (unixNow : ℕ) :
    Reaches h₀ (s.relistedDaemon.applied .event env unixNow) := by
  have hlisted : Reaches h₀ s.relistedDaemon :=
    (hs.started hloop).step (by simp [startedLoop])
      (.list rfl (.ok s.running) fun cs h => (Except.ok.inj h).symm)
  exact hlisted.step (by simp [relistedDaemon]) (.applied rfl env unixNow)

omit [Libraries] in
/-- In the home network, a start of a container leads to the one attempt that it can lead to. -/
theorem coalesced_started :
    let s := @applied .plain subscribedDaemon.relistedDaemon .event .allOk 1
    s.loop.occurred = 1 ∧ s.made .startup = 1 ∧ s.made .event + s.loop.pending ≤ 1 ∧
      s.made .event = 1 := by
  have hc := @Reaches.coalesced .plain _ _
    (@Reaches.reconciled .plain _ _ reaches_subscribed rfl .allOk 1)
  have hmain : (@applied .plain subscribedDaemon.relistedDaemon .event .allOk 1).loop.main =
      .idle := rfl
  refine ⟨rfl, hc.startup.2 (by simp [hmain, Reconcile.Main.Begins]), hc.event, ?_⟩
  rw [@made_applied .plain]
  rfl

/-! ### The lines of an attempt -/

/-- The desired state of an attempt, if it gets as far as the backend. -/
def desired (s : Daemon) (a : Attempt) : Option Desired :=
  (listTargets a.answer).toOption.bind fun targets =>
    (Enforce.compile (Plan.compile targets s.config.labelPrefix s.gateways)).toOption

/-- What a backend logs of an attempt. -/
def backendLog (s : Daemon) (dryRun : Bool) (a : Attempt) : List LogLine :=
  (s.desired a).toList.flatMap (backendLines dryRun)

/-- What is logged of the plan of an attempt. -/
def planLog (s : Daemon) (a : Attempt) : List LogLine :=
  (s.outcome a).lines.filter (·.target = .main)

section Lines

variable {h₀ : Host} {s t : Daemon}

lemma of_mem_backendLog {dryRun : Bool} {a : Attempt} {l : LogLine}
    (hl : l ∈ s.backendLog dryRun a) : l.trigger = none ∧ l.target = .enforce := by
  obtain ⟨d, -, hd⟩ := List.mem_flatMap.1 hl
  exact of_mem_backendLines hd

lemma changes_backendLog (dryRun : Bool) (a : Attempt) : changes (s.backendLog dryRun a) = [] := by
  refine List.filterMap_eq_nil_iff.2 fun l hl => if_neg fun h => ?_
  simp [(of_mem_backendLog hl).2] at h

lemma linesOf_backendLog (dryRun : Bool) (a : Attempt) (trigger : Trigger) :
    linesOf (s.backendLog dryRun a) trigger = 0 := by
  refine List.countP_eq_zero.2 fun l hl => ?_
  simp [(of_mem_backendLog hl).1]

lemma desired_eq {a : Attempt} {targets : List Target} {d : Desired}
    (hanswer : listTargets a.answer = .ok targets)
    (hd : Enforce.compile (Plan.compile targets s.config.labelPrefix s.gateways) = .ok d) :
    s.desired a = some d := by
  simp [desired, hanswer, hd, Except.toOption]

/-- Every line of a plan is logged as the reconcile. -/
lemma target_logPlan (trigger : Trigger) (lastFp : Option String) (plan : Plan) :
    ∀ l ∈ (Reconcile.logPlan trigger lastFp plan).1, l.target = .main := by
  have hproblems : ∀ l ∈ Reconcile.problemLines plan, l.target = .main := by
    simp only [Reconcile.problemLines, List.mem_append, List.mem_map]
    rintro l ((⟨-, -, rfl⟩ | ⟨-, -, rfl⟩) | ⟨-, -, rfl⟩) <;> rfl
  rw [Reconcile.logPlan]
  split
  · simp
  · exact List.forall_mem_cons.2 ⟨rfl, hproblems⟩

/-- What an attempt logs: the lines of the backend and, when it succeeds, those of its plan. -/
lemma outcome_lines (s : Daemon) (a : Attempt) :
    (¬ s.Succeeds a ∧ (s.outcome a).lines = s.backendLog s.dryRun a ∧
        (s.outcome a).lastFp = a.lastFp) ∨
      s.Succeeds a ∧ ∃ targets, listTargets a.answer = .ok targets ∧
        let log := Reconcile.logPlan a.trigger a.lastFp
          (Plan.compile targets s.config.labelPrefix s.gateways)
        (s.outcome a).lines = s.backendLog s.dryRun a ++ log.1 ∧ (s.outcome a).lastFp = log.2 := by
  have herror : ∀ e, (Except.error e : Except String ReconcileStats).isOk = true → False := by
    simp [Except.isOk, Except.toBool]
  rcases Reconcile.reconcileApply_cases (select s.dryRun a.env.world) s.config.labelPrefix
    s.gateways a.trigger a.answer a.host a.lastFp with ⟨hnone, e, ho⟩ |
      ⟨targets, d, hanswer, hd, hcases⟩
  · have hdesired : s.desired a = none := by
      rw [desired]
      cases hanswer : listTargets a.answer with
      | error e => rfl
      | ok targets =>
          cases hd : Enforce.compile (Plan.compile targets s.config.labelPrefix s.gateways) with
          | error e => simp [hd, Except.toOption]
          | ok d => exact absurd hd (hnone _ d hanswer)
    rw [Succeeds, outcome, ho, backendLog, hdesired]
    exact Or.inl ⟨herror e, rfl, rfl⟩
  · have hlines : s.backendLog s.dryRun a = (select s.dryRun a.env.world).lines d := by
      rw [backendLog, desired_eq hanswer hd, select_lines, Option.toList_some,
        List.flatMap_singleton]
    rw [Succeeds, outcome, hlines]
    rcases hcases with ⟨e, ho⟩ | ⟨-, ho⟩
    · rw [ho]
      exact Or.inl ⟨herror e, rfl, rfl⟩
    · rw [ho]
      exact Or.inr ⟨rfl, targets, hanswer, rfl, rfl⟩

/-- What an attempt logs of its plan comes behind what the backend logs. -/
lemma lines_outcome (s : Daemon) (a : Attempt) :
    (s.outcome a).lines = s.backendLog s.dryRun a ++ s.planLog a := by
  have hfilter : (s.backendLog s.dryRun a).filter (·.target = .main) = [] := by
    refine List.filter_eq_nil_iff.2 fun l hl => ?_
    simp [(of_mem_backendLog hl).2]
  rcases outcome_lines s a with ⟨-, hlines, -⟩ | ⟨-, targets, -, hlines, -⟩
  · rw [planLog, hlines, hfilter, List.append_nil]
  · rw [planLog, hlines, List.filter_append, hfilter, List.nil_append, List.filter_eq_self.2]
    simpa using target_logPlan _ _ _

end Lines

/-! ### The log -/

/-- What an attempt logs with a backend. -/
def logOf (s : Daemon) (dryRun : Bool) (a : Attempt) : List LogLine :=
  s.backendLog dryRun a ++ s.planLog a

lemma logOf_congr {s t : Daemon} (hdry : s.dryRun = t.dryRun) (hconfig : s.config = t.config)
    (hgws : s.gateways = t.gateways) (dryRun : Bool) : s.logOf dryRun = t.logOf dryRun := by
  funext a
  rw [logOf, logOf, backendLog, backendLog, desired, desired, planLog, planLog,
    outcome_congr hdry hconfig hgws, hconfig, hgws]

/-- Whatever the order of the steps was, the log is what the attempts logged. -/
lemma Reaches.log_eq {h₀ : Host} {s : Daemon} (hs : Reaches h₀ s) :
    s.log = s.attempts.flatMap (s.logOf s.dryRun) := by
  induction hs with
  | start hr hload dryRun running => rfl
  | @step s t _ _ hst ih =>
      cases hst with
      | @applied trigger hm env unixNow =>
          have hlog : (s.applied trigger env unixNow).log =
            s.log ++ (s.outcome (s.attempt trigger env unixNow)).lines := rfl
          have hattempts : (s.applied trigger env unixNow).attempts =
            s.attempts ++ [s.attempt trigger env unixNow] := rfl
          rw [hlog, lines_outcome, ih, hattempts, List.flatMap_append, List.flatMap_singleton]
          rfl
      | _ => exact ih

/-- What is known of the log. -/
structure Logged (s : Daemon) : Prop where
  /-- Changes that follow each other are different. -/
  differ : (changes s.log).IsChain (· ≠ ·)
  last : (changes s.log).getLast? = s.lastFp
  /-- The last change shows the plan of the last attempt that succeeded. -/
  shown : ∀ before a after, s.attempts = before ++ a :: after → s.Succeeds a →
    (∀ a' ∈ after, ¬ s.Succeeds a') → ∃ targets, listTargets a.answer = .ok targets ∧
      s.lastFp = some (planSummary (Plan.compile targets s.config.labelPrefix s.gateways))
  /-- Every attempt that succeeded has logged one line with its trigger. -/
  lines : ∀ trigger, linesOf s.log trigger =
    Obs.countOf (s.attempts.map s.recorded) trigger true

section Logged

variable {h₀ : Host} {s t : Daemon}

omit [Libraries] in
/-- The last attempt is the one in question, or one after it. -/
lemma attempts_concat {as before after : List Attempt} {a b : Attempt}
    (h : as ++ [a] = before ++ b :: after) :
    (after = [] ∧ b = a) ∨ ∃ after', after = after' ++ [a] ∧ as = before ++ b :: after' := by
  rcases List.eq_nil_or_concat' after with rfl | ⟨after', c, rfl⟩
  · obtain ⟨-, hlast⟩ := List.append_inj' h rfl
    exact Or.inl ⟨rfl, (List.cons.inj hlast).1.symm⟩
  · rw [← List.cons_append, ← List.append_assoc] at h
    obtain ⟨has, hlast⟩ := List.append_inj' h rfl
    exact Or.inr ⟨after', by rw [(List.cons.inj hlast).1], has⟩

lemma countOf_applied (trigger trigger' : Trigger) (env : Env) (unixNow : ℕ) :
    Obs.countOf ((s.applied trigger env unixNow).attempts.map
      (s.applied trigger env unixNow).recorded) trigger' true =
        Obs.countOf (s.attempts.map s.recorded) trigger' true +
          if s.Succeeds (s.attempt trigger env unixNow) ∧ trigger = trigger' then 1 else 0 := by
  rw [map_recorded_applied, Obs.countOf_append]
  refine congrArg _ (if_congr ?_ rfl rfl)
  rw [Obs.labelsOf_inj, ← isSome_recorded, and_comm, eq_comm]
  exact and_congr_right fun _ => eq_comm

/-- An attempt that fails leaves the lines of the backend, which are of no change. -/
lemma Logged.failed (hl : Logged s) {trigger : Trigger} {env : Env} (unixNow : ℕ)
    (hfail : ¬ s.Succeeds (s.attempt trigger env unixNow))
    (hnone : (s.outcome (s.attempt trigger env unixNow)).lines =
      s.backendLog s.dryRun (s.attempt trigger env unixNow))
    (hsame : (s.outcome (s.attempt trigger env unixNow)).lastFp = s.lastFp) :
    Logged (s.applied trigger env unixNow) := by
  have hlog : (s.applied trigger env unixNow).log =
      s.log ++ s.backendLog s.dryRun (s.attempt trigger env unixNow) :=
    congrArg (s.log ++ ·) hnone
  have hchanges : changes (s.applied trigger env unixNow).log = changes s.log := by
    rw [hlog, changes_append, changes_backendLog, List.append_nil]
  have hfp : (s.applied trigger env unixNow).lastFp = s.lastFp := hsame
  refine ⟨hchanges ▸ hl.differ, by rw [hchanges, hfp]; exact hl.last, ?_, fun trigger' => ?_⟩
  · intro before b after hattempts hb hafter
    rw [hfp]
    rcases attempts_concat hattempts with ⟨-, rfl⟩ | ⟨after', rfl, hold⟩
    · exact absurd hb hfail
    · exact hl.shown before b after' hold hb fun a' ha' =>
        hafter a' (List.mem_append_left _ ha')
  · rw [hlog, countOf_applied, linesOf_append, linesOf_backendLog, hl.lines,
      if_neg fun h => hfail h.1]

/-- An attempt that succeeds leaves the lines of its plan too. -/
lemma Logged.succeeded (hl : Logged s) {trigger : Trigger} {env : Env} (unixNow : ℕ)
    {targets : List Target} (hok : s.Succeeds (s.attempt trigger env unixNow))
    (hanswer : listTargets (s.attempt trigger env unixNow).answer = .ok targets)
    (hnew : (s.outcome (s.attempt trigger env unixNow)).lines =
      s.backendLog s.dryRun (s.attempt trigger env unixNow) ++
        (Reconcile.logPlan trigger s.lastFp
          (Plan.compile targets s.config.labelPrefix s.gateways)).1)
    (hfp : (s.outcome (s.attempt trigger env unixNow)).lastFp =
      some (planSummary (Plan.compile targets s.config.labelPrefix s.gateways))) :
    Logged (s.applied trigger env unixNow) := by
  have hlog : (s.applied trigger env unixNow).log =
      s.log ++ (s.backendLog s.dryRun (s.attempt trigger env unixNow) ++
        (Reconcile.logPlan trigger s.lastFp
          (Plan.compile targets s.config.labelPrefix s.gateways)).1) :=
    congrArg (s.log ++ ·) hnew
  have hfp' : (s.applied trigger env unixNow).lastFp =
      some (planSummary (Plan.compile targets s.config.labelPrefix s.gateways)) := hfp
  have hchanges : changes (s.applied trigger env unixNow).log = changes s.log ++
      if s.lastFp = some (planSummary (Plan.compile targets s.config.labelPrefix s.gateways))
      then []
      else [planSummary (Plan.compile targets s.config.labelPrefix s.gateways)] := by
    rw [hlog, ← Reconcile.changes_logPlan trigger, changes_append, changes_append,
      changes_backendLog, List.nil_append]
  refine ⟨?_, ?_, ?_, fun trigger' => ?_⟩
  · rw [hchanges]
    split
    · rw [List.append_nil]
      exact hl.differ
    · next hne =>
        refine hl.differ.append (List.isChain_singleton _) fun x hx y hy => ?_
        rw [hl.last] at hx
        obtain rfl := Option.some.inj hy
        rintro rfl
        exact hne hx
  · rw [hchanges, hfp']
    split
    · next heq => rw [List.append_nil, hl.last, heq]
    · exact List.getLast?_concat
  · intro before b after hattempts hb hafter
    rcases attempts_concat hattempts with ⟨-, rfl⟩ | ⟨after', rfl, -⟩
    · exact ⟨targets, hanswer, hfp'⟩
    · exact absurd hok (hafter _ (List.mem_append_right _ (List.mem_singleton_self _)))
  · rw [countOf_applied, ← hl.lines, hlog, linesOf_append, linesOf_append, linesOf_backendLog,
      Reconcile.linesOf_logPlan, Nat.zero_add]
    simp only [hok, true_and]

/-- What an attempt leaves in the log. -/
lemma logged_applied (hl : Logged s) (trigger : Trigger) (env : Env) (unixNow : ℕ) :
    Logged (s.applied trigger env unixNow) := by
  rcases outcome_lines s (s.attempt trigger env unixNow) with
    ⟨hfail, hlines, hsame⟩ | ⟨hok, targets, hanswer, hlines, hfp⟩
  · exact hl.failed unixNow hfail hlines hsame
  · exact hl.succeeded unixNow hok hanswer hlines (hfp.trans (Reconcile.logPlan_snd _ _ _))

/-- Whatever the order of the steps was, the log shows the changes, and with the metrics the
reconciles that succeeded. -/
theorem Reaches.logged (hs : Reaches h₀ s) : Logged s := by
  induction hs with
  | start hr hload dryRun running =>
      exact ⟨List.isChain_nil, rfl, fun before a after h => by simp [Daemon.start] at h,
        fun _ => rfl⟩
  | step _ _ hst ih =>
      cases hst with
      | applied hm env unixNow => exact logged_applied ih _ env unixNow
      | _ => exact ⟨ih.differ, ih.last, ih.shown, ih.lines⟩

end Logged

omit [Libraries] in
/-- In the home network the log shows the plan of the first reconcile. -/
theorem logged_subscribed : (changes subscribedDaemon.log).getLast? =
    some "vpn=via 172.18.0.2 members=1[app]" := by
  have hl := @Reaches.logged .plain _ _ reaches_subscribed
  have hok : @Succeeds .plain subscribedDaemon (listedDaemon.attempt .startup .allOk 0) :=
    isOk_subscribed
  obtain ⟨targets, hanswer, hfp⟩ := @Logged.shown .plain _ hl [] _ [] rfl hok (by simp)
  obtain rfl : [appContainer.target] = targets := Except.ok.inj hanswer
  rw [@Logged.last .plain _ hl, hfp]
  decide +kernel

end Daemon

end Degc
