import Degc.Config
import Degc.Enforce.Others
import Degc.Obs
import Degc.Reconcile.Loop

/-!
# The daemon

The process with all that it acts on: the main loop and the event watcher take their
steps in any order, the containers come and go, others take away what is installed on the
host, and every reconcile lists the containers, applies the plan to the host, logs and
records it.

The state of the loop and the watcher is the one of `Reconcile`, and every step of the
daemon is a step of theirs or none (`Step.loop_cases`).  `known_step` is what one step
keeps of the rest, and `Reaches.known` says it of every state.
-/

namespace Degc

open Net Text

/-! ### Starting -/

/-- Why a file cannot be read. -/
inductive ReadError
  | notFound
  | other (cause : String)

section Load

variable [Libraries]

/-- The configured gateways.  Without a file there are none. -/
def loadGateways (fromStr : String → Except String (List Gateway))
    (readToString : String → Except ReadError String) (config : Config) : Except String Gateways :=
  match readToString config.gatewaysPath with
  | .ok text => parseGateways fromStr text
  | .error .notFound => .ok []
  | .error (.other cause) => .error s!"reading gateways from {config.gatewaysPath}: {cause}"

/-- The daemon only starts with gateways that are valid. -/
lemma validate_of_loadGateways {fromStr : String → Except String (List Gateway)}
    {readToString : String → Except ReadError String} {config : Config} {gws : Gateways}
    (h : loadGateways fromStr readToString config = .ok gws) : gws.validate = .ok () := by
  rw [Gateways.validate_eq_ok]
  rw [loadGateways] at h
  cases hread : readToString config.gatewaysPath with
  | ok text =>
      rw [hread] at h
      exact parseGateways_valid h
  | error e =>
      rw [hread] at h
      cases e with
      | notFound =>
          obtain rfl := Except.ok.inj h
          exact Gateways.validate_eq_ok.1 (by rfl)
      | other cause => cases h

/-- One reconcile, which is recorded whether it succeeds or not. -/
def reconcile {σ : Type} (enforcer : Enforcer σ) (pfx : String) (gateways : Gateways)
    (trigger : Trigger) (answer : Except String (List ContainerSummary)) (unixNow : ℕ) (s : σ)
    (lastFp : Option String) (metrics : Obs.Metrics) : Reconcile.Outcome σ × Obs.Metrics :=
  let o := Reconcile.reconcileApply enforcer pfx gateways trigger answer s lastFp
  (o, metrics.record trigger unixNow o.stats.toOption)

end Load

/-! ### The state -/

/-- What a reconcile was given and what it met. -/
structure Attempt where
  trigger : Trigger
  answer : Except String (List ContainerSummary)
  env : Env
  unixNow : ℕ
  host : Host
  lastFp : Option String

/-- The process, and what it acts on. -/
structure Daemon where
  config : Config
  gateways : Gateways
  dryRun : Bool
  loop : Reconcile.State := {}
  /-- The containers that run. -/
  running : List ContainerSummary
  /-- The number of their changes of which no relevant event tells. -/
  silent : ℕ := 0
  host : Host
  /-- Others took something away from the host, or changed the packet filter, and no attempt
  succeeded since. -/
  drifted : Bool := false
  /-- The same of the packet filter only. -/
  flushed : Bool := false
  /-- What Docker answered when the containers were last asked for. -/
  answer : Except String (List ContainerSummary) := .error ""
  /-- The number of silent changes then. -/
  heard : ℕ := 0
  lastFp : Option String := none
  metrics : Obs.Metrics := {}
  /-- The lines that the reconciles logged.  What the loop itself says of a failed one is not among
  them. -/
  log : List LogLine := []
  /-- The attempts so far. -/
  attempts : List Attempt := []

namespace Daemon

variable [Libraries]

/-- What becomes of an attempt. -/
def outcome (s : Daemon) (a : Attempt) : Reconcile.Outcome Host :=
  Reconcile.reconcileApply (select s.dryRun a.env.world) s.config.labelPrefix s.gateways a.trigger
    a.answer a.host a.lastFp

lemma outcome_congr {s t : Daemon} (hdry : s.dryRun = t.dryRun)
    (hconfig : s.config = t.config) (hgws : s.gateways = t.gateways) (a : Attempt) :
    s.outcome a = t.outcome a := by
  rw [outcome, outcome, hdry, hconfig, hgws]

/-- The attempt that is made next. -/
def attempt (s : Daemon) (trigger : Trigger) (env : Env) (unixNow : ℕ) : Attempt where
  trigger := trigger
  answer := s.answer
  env := env
  unixNow := unixNow
  host := s.host
  lastFp := s.lastFp

/-- What is recorded of an attempt. -/
def recorded (s : Daemon) (a : Attempt) : Obs.Attempt where
  trigger := a.trigger
  unixNow := a.unixNow
  outcome := (s.outcome a).stats.toOption

/-- The reconcile that was begun is over. -/
def applied (s : Daemon) (trigger : Trigger) (env : Env) (unixNow : ℕ) : Daemon :=
  let (o, metrics) := reconcile (select s.dryRun env.world) s.config.labelPrefix s.gateways trigger
    s.answer unixNow s.host s.lastFp s.metrics
  { s with
    loop := { s.loop with main := .applied trigger o.stats.isOk }
    host := o.host
    drifted := s.drifted && !o.stats.isOk
    flushed := s.flushed && !o.stats.isOk
    lastFp := o.lastFp
    metrics := metrics
    log := s.log ++ o.lines
    attempts := s.attempts ++ [s.attempt trigger env unixNow] }

lemma applied_loop (s : Daemon) (trigger : Trigger) (env : Env) (unixNow : ℕ) :
    (s.applied trigger env unixNow).loop = { s.loop with
      main := .applied trigger (s.outcome (s.attempt trigger env unixNow)).stats.isOk } := rfl

/-! ### The steps -/

/-- A step of the loop or the watcher that neither lists nor applies nor counts. -/
structure Plain (l l' : Reconcile.State) : Prop where
  occurred : l'.occurred = l.occurred
  applying : ∀ trigger, l'.main = .applying trigger ↔ l.main = .applying trigger
  restart : ¬ (l.watcher = .sleeping ∧ l'.watcher = .connecting)

/-- The steps of the daemon, of the containers, and of others on the host. -/
inductive Step (s : Daemon) : Daemon → Prop
  /-- The containers change with a relevant event only, or silently. -/
  | occur (msg : Reconcile.EventMessage) (running : List ContainerSummary)
      (h : Reconcile.isRelevant msg = false → running = s.running) :
      Step s { s with loop := s.loop.occur msg, running := running }
  | change (running : List ContainerSummary) :
      Step s { s with running := running, silent := s.silent + 1 }
  | takeAway {goneRule : Fib.Rule → Bool} {goneRoute : Fib.Route → Bool}
      (hrule : ∀ r, goneRule r = true → OurRule r)
      (hroute : ∀ r, goneRoute r = true → r.proto = 194) :
      Step s { s with host := s.host.takeAway goneRule goneRoute, drifted := true }
  | flush (nft : Netfilter.Ruleset) :
      Step s { s with host := { s.host with nft := nft }, drifted := true, flushed := true }
  | resubscribe (h : s.loop.watcher = .sleeping) :
      Step s { s with
        loop := { s.loop with watcher := .connecting }
        metrics := s.metrics.watchRestarted }
  /-- Docker answers with the containers that run, or with an error. -/
  | list {trigger : Trigger} (h : s.loop.main = .listing trigger)
      (answer : Except String (List ContainerSummary))
      (hanswer : ∀ cs, answer = .ok cs → cs = s.running) :
      Step s { s with
        loop := { s.loop with main := .applying trigger, seen := s.loop.occurred, fresh := [] }
        answer := answer
        heard := s.silent }
  | applied {trigger : Trigger} (h : s.loop.main = .applying trigger) (env : Env) (unixNow : ℕ) :
      Step s (s.applied trigger env unixNow)
  | plain {l : Reconcile.State} (h : Reconcile.Step s.loop l) (hplain : Plain s.loop l) :
      Step s { s with loop := l }

/-- The daemon as it starts on a host. -/
def start (config : Config) (gateways : Gateways) (dryRun : Bool)
    (running : List ContainerSummary) (h : Host) : Daemon where
  config := config
  gateways := gateways
  dryRun := dryRun
  running := running
  host := h

/-- The states of a daemon that is started on a host which earlier ones and others left, however
they ended, and that takes steps until its loop exits. -/
inductive Reaches (h₀ : Host) : Daemon → Prop
  | start {h : Host} (hr : Meddled h₀ h) {fromStr : String → Except String (List Gateway)}
      {readToString : String → Except ReadError String} {var : String → Except VarError String}
      {gateways : Gateways}
      (hload : loadGateways fromStr readToString (.fromEnv var) = .ok gateways)
      (dryRun : Bool) (running : List ContainerSummary) :
      Reaches h₀ (Daemon.start (.fromEnv var) gateways dryRun running h)
  | step {s t : Daemon} (hs : Reaches h₀ s) (hmain : s.loop.main ≠ .exited) (hst : Step s t) :
      Reaches h₀ t

/-! ### What is kept -/

section Known

variable {h₀ : Host} {s t : Daemon}

/-- Every step of the daemon is one of the loop, the watcher or the containers, or none. -/
lemma Step.loop_cases (h : Step s t) : Reconcile.Step s.loop t.loop ∨ t.loop = s.loop := by
  cases h with
  | occur msg running _ => exact Or.inl (.occur msg)
  | change running => exact Or.inr rfl
  | takeAway hrule hroute => exact Or.inr rfl
  | flush nft => exact Or.inr rfl
  | resubscribe hw => exact Or.inl (.resubscribe hw)
  | list hm answer _ => exact Or.inl (.list hm)
  | applied hm env unixNow => exact Or.inl (.applied _ hm)
  | plain hl _ => exact Or.inl hl

omit [Libraries] in
/-- A plain step leaves what the loop has seen as it is. -/
lemma Plain.seen {l l' : Reconcile.State} (hplain : Plain l l') (h : Reconcile.Step l l') :
    l'.seen = l.seen := by
  cases h with
  | occur msg => exact (Reconcile.occur_eq l msg).2.2.1
  | read hw =>
      rw [Reconcile.State.read]
      split <;> rfl
  | @list trigger hm => exact absurd ((hplain.applying trigger).1 rfl) (by simp [hm])
  | _ => rfl

/-- What becomes of an attempt leaves a host that is reached again. -/
lemma meddled_outcome (hvalid : s.gateways.validate = .ok ()) {a : Attempt}
    (hr : Meddled h₀ a.host) : Meddled h₀ (s.outcome a).host := by
  rcases Reconcile.reconcileApply_cases (select s.dryRun a.env.world) s.config.labelPrefix
    s.gateways a.trigger a.answer a.host a.lastFp with ⟨-, e, ho⟩ | ⟨targets, d, -, hd, hcases⟩
  · rw [outcome, ho]
    exact hr
  · have hhost : (s.outcome a).host = ((select s.dryRun a.env.world).apply d a.host).1 := by
      rcases hcases with ⟨e, ho⟩ | ⟨-, ho⟩ <;> rw [outcome, ho]
    rw [hhost, select_apply]
    split
    · exact hr
    · have hc : Compiled (Plan.compile targets s.config.labelPrefix s.gateways) d :=
        ⟨_, _, targets, hvalid, rfl, hd⟩
      simpa using hr.apply hc a.env d.ip.length

/-- What is known of every state. -/
structure Known (h₀ : Host) (s : Daemon) : Prop where
  loop : Reconcile.Reachable s.loop
  host : Meddled h₀ s.host
  valid : s.gateways.validate = .ok ()
  seen : s.loop.seen ≤ s.loop.occurred ∧ s.heard ≤ s.silent
  /-- The last answer shows the containers that run, unless they changed after it. -/
  fresh : s.loop.seen = s.loop.occurred → s.heard = s.silent →
    ∀ cs, s.answer = .ok cs → cs = s.running
  shows : Obs.Shows (s.attempts.map s.recorded) s.metrics
  /-- What the last attempt left is there, unless others took something away. -/
  last : ∀ a, s.attempts.getLast? = some a → Meddled h₀ a.host ∧
    (s.drifted = false → s.host = (s.outcome a).host) ∧ s.lastFp = (s.outcome a).lastFp
  /-- Between two reconciles, the last attempt was about the last answer. -/
  answer : (∀ trigger, s.loop.main ≠ .applying trigger) → ∀ a, s.attempts.getLast? = some a →
    a.answer = s.answer

/-- What is recorded of an attempt comes behind what was. -/
lemma map_recorded_applied (s : Daemon) (trigger : Trigger) (env : Env) (unixNow : ℕ) :
    (s.applied trigger env unixNow).attempts.map (s.applied trigger env unixNow).recorded =
      s.attempts.map s.recorded ++ [s.recorded (s.attempt trigger env unixNow)] :=
  List.map_append

/-- Recording an attempt shows it. -/
lemma shows_applied (h : Obs.Shows (s.attempts.map s.recorded) s.metrics) (trigger : Trigger)
    (env : Env) (unixNow : ℕ) : Obs.Shows
      ((s.applied trigger env unixNow).attempts.map (s.applied trigger env unixNow).recorded)
      (s.applied trigger env unixNow).metrics := by
  rw [map_recorded_applied]
  exact h.record (s.recorded (s.attempt trigger env unixNow))

/-- The last attempt is the one that was made. -/
lemma getLast?_applied (s : Daemon) (trigger : Trigger) (env : Env) (unixNow : ℕ) :
    (s.applied trigger env unixNow).attempts.getLast? = some (s.attempt trigger env unixNow) :=
  List.getLast?_concat

/-- What is known is kept by every step. -/
lemma known_step (hs : Known h₀ s) (hmain : s.loop.main ≠ .exited) (hst : Step s t) :
    Known h₀ t := by
  have hloop : Reconcile.Reachable t.loop := by
    rcases hst.loop_cases with h | h
    · exact hs.loop.step hmain h
    · exact h ▸ hs.loop
  obtain ⟨hseen, hheard⟩ := hs.seen
  cases hst with
  | occur msg running hrelevant =>
      obtain ⟨-, hm, hs', -, -, -, hoccurred⟩ := Reconcile.occur_eq s.loop msg
      refine { hs with loop := hloop, seen := ⟨?_, hheard⟩, fresh := ?_, answer := hm ▸ hs.answer }
      · rw [hs', hoccurred]
        split <;> omega
      · rw [hs', hoccurred]
        cases hr : Reconcile.isRelevant msg with
        | true =>
            simp only [if_true]
            omega
        | false =>
            rw [hrelevant hr]
            exact hs.fresh
  | change running =>
      refine { hs with seen := ⟨hseen, by simp only; omega⟩, fresh := fun _ h => ?_ }
      simp only at h
      omega
  | takeAway hrule hroute =>
      refine { hs with host := hs.host.takeAway hrule hroute, last := fun a ha => ?_ }
      obtain ⟨hr, -, hfp⟩ := hs.last a ha
      exact ⟨hr, by rintro ⟨⟩, hfp⟩
  | flush nft =>
      refine { hs with host := hs.host.flush nft, last := fun a ha => ?_ }
      obtain ⟨hr, -, hfp⟩ := hs.last a ha
      exact ⟨hr, by rintro ⟨⟩, hfp⟩
  | resubscribe hw => exact { hs with loop := hloop, shows := hs.shows.watchRestarted }
  | list hm answer hanswer =>
      exact { hs with
        loop := hloop
        seen := ⟨le_rfl, le_rfl⟩
        fresh := fun _ _ => hanswer
        answer := fun h => absurd rfl (h _) }
  | applied hm env unixNow =>
      refine { hs with
        loop := hloop
        host := meddled_outcome hs.valid (a := s.attempt _ env unixNow) hs.host
        shows := shows_applied hs.shows _ env unixNow
        last := ?_
        answer := ?_ }
      · intro a ha
        obtain rfl := Option.some.inj ((getLast?_applied s _ env unixNow).symm.trans ha)
        exact ⟨hs.host, fun _ => rfl, rfl⟩
      · intro _ a ha
        obtain rfl := Option.some.inj ((getLast?_applied s _ env unixNow).symm.trans ha)
        rfl
  | plain hl hplain =>
      have hsame := hplain.seen hl
      refine { hs with
        loop := hloop
        seen := ⟨by rw [hplain.occurred, hsame]; exact hseen, hheard⟩
        fresh := ?_
        answer := fun h =>
          hs.answer fun trigger heq => h trigger ((hplain.applying trigger).2 heq) }
      rw [hplain.occurred, hsame]
      exact hs.fresh

/-- What is known holds in every state. -/
lemma Reaches.known (hs : Reaches h₀ s) : Known h₀ s := by
  induction hs with
  | start hr hload dryRun running =>
      exact {
        loop := .refl
        host := hr
        valid := validate_of_loadGateways hload
        seen := ⟨le_rfl, le_rfl⟩
        fresh := by rintro - - cs ⟨⟩
        shows := Obs.shows_empty
        last := by rintro a ⟨⟩
        answer := by rintro - a ⟨⟩ }
  | step _ hmain hst ih => exact known_step ih hmain hst

end Known

end Daemon

end Degc
