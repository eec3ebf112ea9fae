import Degc.Enforce

/-!
# One reconcile

Listing the containers, compiling and applying the plan, and what is logged and
counted of it.  The backend logs lines of its own: a dry run the whole desired state,
the other one its warnings.  The summary of a plan is both the line that is logged and
the fingerprint by which a change is noticed.
-/

namespace Degc

open Net

/-- What triggers a reconcile. -/
inductive Trigger
  | startup
  | event
  | resync
  deriving DecidableEq

/-- What is counted of a successful reconcile. -/
structure ReconcileStats where
  members : ℕ
  /-- The name of each gateway, and whether its egress is available. -/
  gateways : List (String × Bool)

/-- The level of a line of the log. -/
inductive Level
  | debug
  | info
  | warn
  deriving DecidableEq

/-- The module from which a line is logged. -/
inductive LogTarget
  | main
  | enforce
  deriving DecidableEq

/-- A line of the log. -/
structure LogLine where
  level : Level
  target : LogTarget := .main
  trigger : Option Trigger := none
  text : String
  deriving DecidableEq

/-! ### The backends -/

/-- How a desired state is applied: the lines that are logged first, and what becomes of the
host. -/
structure Enforcer (σ : Type) where
  lines : Desired → List LogLine
  apply : Desired → σ → σ × Except String Unit

/-- What a dry run logs of a desired state. -/
def dryRunLines (d : Desired) : List LogLine :=
  [{ level := .info, target := .enforce, text := s!"dry-run — would apply:\n{d.display}" }]

/-- The backend of a dry run, which changes nothing and never fails. -/
def dryRunEnforcer {σ : Type} : Enforcer σ where
  lines := dryRunLines
  apply _ s := (s, .ok ())

/-- The warnings about a desired state. -/
def warningLines (d : Desired) : List LogLine :=
  d.warnings.map fun w => { level := .warn, target := .enforce, text := w }

/-- The backend that changes the host. -/
def systemEnforcer [Libraries] {σ : Type} (w : Enforce.World σ) : Enforcer σ where
  lines := warningLines
  apply := Enforce.apply w

/-- The backend of the run mode. -/
def select [Libraries] {σ : Type} (dryRun : Bool) (w : Enforce.World σ) : Enforcer σ :=
  if dryRun then dryRunEnforcer else systemEnforcer w

lemma select_apply [Libraries] {σ : Type} (dryRun : Bool) (w : Enforce.World σ) (d : Desired)
    (s : σ) :
    (select dryRun w).apply d s = if dryRun then (s, .ok ()) else Enforce.apply w d s := by
  cases dryRun <;> rfl

/-- What the backend of the run mode logs. -/
def backendLines (dryRun : Bool) : Desired → List LogLine :=
  if dryRun then dryRunLines else warningLines

lemma select_lines [Libraries] {σ : Type} (dryRun : Bool) (w : Enforce.World σ) :
    (select dryRun w).lines = backendLines dryRun := by
  cases dryRun <;> rfl

/-- The backend logs no line with a trigger, and no line as the reconcile. -/
lemma of_mem_backendLines {dryRun : Bool} {d : Desired} {l : LogLine}
    (h : l ∈ backendLines dryRun d) : l.trigger = none ∧ l.target = .enforce := by
  cases dryRun with
  | true =>
      obtain rfl := List.mem_singleton.1 h
      exact ⟨rfl, rfl⟩
  | false =>
      obtain ⟨w, -, rfl⟩ := List.mem_map.1 h
      exact ⟨rfl, rfl⟩

namespace Reconcile

/-! ### The summary -/

/-- The egress of a gateway in the summary. -/
def egressSummary : Egress → String
  | .interface i => s!"dev {i}"
  | .nextHop ip => s!"via {showIp ip}"
  | .unavailable _ => "DOWN"

/-- A gateway in the summary, with the number of its members and their names. -/
def gatewaySummary (gp : GatewayPlan) : String :=
  let names := ",".intercalate gp.memberNames.toList
  s!"{gp.gateway.name}={egressSummary gp.egress} members={gp.members.size}[{names}]"

/-- The number of entries of a list of problems, if there are any. -/
def countSummary (label : String) (n : ℕ) : List String := if n = 0 then [] else [s!"{label}={n}"]

/-- The summary of a plan in one line. -/
def planSummary (plan : Plan) : String :=
  let parts := plan.gateways.map gatewaySummary ++
    countSummary "unresolved" plan.unresolved.length ++
    countSummary "conflicts" plan.conflicts.length ++
    countSummary "gatewayErrors" plan.discoveryErrors.length
  if parts.isEmpty then "no gateways" else "  ".intercalate parts

/-- What is counted of a plan. -/
def statsOf (plan : Plan) : ReconcileStats where
  members := (plan.gateways.map (·.members.size)).sum
  gateways := plan.gateways.map fun gp =>
    (gp.gateway.name, match gp.egress with | .unavailable _ => false | _ => true)

/-! ### The log -/

variable [Libraries]

/-- The debug form of a list of strings. -/
def debugStrs (ss : List String) : String := "[" ++ ", ".intercalate (ss.map debugStr) ++ "]"

/-- A line for each problem of a plan. -/
def problemLines (plan : Plan) : List LogLine :=
  plan.unresolved.map (fun (container, via) =>
    { level := .warn
      text := s!"container {debugStr container} wants gateway {debugStr via} — " ++
        "no such gateway (not routed)" }) ++
  plan.conflicts.map (fun (container, gws) =>
    { level := .warn
      text := s!"container {debugStr container} matches multiple gateway selectors " ++
        s!"{debugStrs gws} — not routed" }) ++
  plan.discoveryErrors.map fun err => { level := .warn, text := err }

/-- The lines of a plan that is logged as a change: the summary, then the problems. -/
def changeLines (trigger : Trigger) (plan : Plan) : List LogLine :=
  { level := .info, trigger := some trigger, text := planSummary plan } :: problemLines plan

/-- The lines of a plan that was applied, and the fingerprint to compare the next one with. -/
def logPlan (trigger : Trigger) (lastFp : Option String) (plan : Plan) :
    List LogLine × Option String :=
  let summary := planSummary plan
  if lastFp = some summary then
    ([{ level := .debug, trigger := some trigger, text := s!"reconciled, no change: {summary}" }],
      lastFp)
  else (changeLines trigger plan, some summary)

/-! ### Applying -/

/-- What a reconcile leaves: the host, the last fingerprint, the lines it logged, and what is
counted of it. -/
structure Outcome (σ : Type) where
  host : σ
  lastFp : Option String
  lines : List LogLine
  stats : Except String ReconcileStats

/-- One reconcile, given the backend and what Docker answers. -/
def reconcileApply {σ : Type} (enforcer : Enforcer σ) (pfx : String) (gateways : Gateways)
    (trigger : Trigger) (answer : Except String (List ContainerSummary)) (s : σ)
    (lastFp : Option String) : Outcome σ :=
  match listTargets answer with
  | .error e => ⟨s, lastFp, [], .error e⟩
  | .ok targets =>
      let plan := Plan.compile targets pfx gateways
      match Enforce.compile plan with
      | .error e => ⟨s, lastFp, [], .error e⟩
      | .ok desired =>
          match enforcer.apply desired s with
          -- the host may be changed, but nothing of the plan is logged
          | (s', .error e) => ⟨s', lastFp, enforcer.lines desired, .error e⟩
          | (s', .ok ()) =>
              let log := logPlan trigger lastFp plan
              ⟨s', log.2, enforcer.lines desired ++ log.1, .ok (statsOf plan)⟩

/-- A reconcile fails before it applies anything, fails while it applies the plan of what Docker
lists, or succeeds. -/
lemma reconcileApply_cases {σ : Type} (enforcer : Enforcer σ) (pfx : String) (gateways : Gateways)
    (trigger : Trigger) (answer : Except String (List ContainerSummary)) (s : σ)
    (lastFp : Option String) :
    let o := reconcileApply enforcer pfx gateways trigger answer s lastFp
    ((∀ targets d, listTargets answer = .ok targets →
        Enforce.compile (Plan.compile targets pfx gateways) ≠ .ok d) ∧
        ∃ e, o = ⟨s, lastFp, [], .error e⟩) ∨
      ∃ targets d, listTargets answer = .ok targets ∧
        Enforce.compile (Plan.compile targets pfx gateways) = .ok d ∧
        ((∃ e, o = ⟨(enforcer.apply d s).1, lastFp, enforcer.lines d, .error e⟩) ∨
          (enforcer.apply d s).2 = .ok () ∧
            let log := logPlan trigger lastFp (Plan.compile targets pfx gateways)
            o = ⟨(enforcer.apply d s).1, log.2, enforcer.lines d ++ log.1,
              .ok (statsOf (Plan.compile targets pfx gateways))⟩) := by
  intro o
  simp only [o, reconcileApply]
  cases hanswer : listTargets answer with
  | error e => exact Or.inl ⟨by simp, e, rfl⟩
  | ok targets =>
      dsimp only
      cases hcompile : Enforce.compile (Plan.compile targets pfx gateways) with
      | error e =>
          refine Or.inl ⟨?_, e, rfl⟩
          rintro _ d ⟨⟩
          simp [hcompile]
      | ok d =>
          refine Or.inr ⟨targets, d, rfl, hcompile, ?_⟩
          dsimp only
          rcases hrun : enforcer.apply d s with ⟨s', e | u⟩
          · exact Or.inl ⟨e, rfl⟩
          · exact Or.inr ⟨rfl, rfl⟩

/-- The fingerprint of a plan that was logged is its summary. -/
lemma logPlan_snd (trigger : Trigger) (lastFp : Option String) (plan : Plan) :
    (logPlan trigger lastFp plan).2 = some (planSummary plan) := by
  rw [logPlan]
  split
  · next h => exact h
  · rfl

end Reconcile

end Degc
