import Degc.Reconcile
import Mathlib.Data.List.Count

/-!
# What is measured

Every reconcile is recorded, with its trigger and what came of it: a counter for each
pair of labels, and gauges that show the last reconcile that succeeded.  The probe for
readiness asks whether there was one.

The main result is `shows_recordAll`: after any attempts, in whatever order they
succeed and fail, what is measured is what `Shows` says of them.
-/

namespace Degc

/-- The text of a trigger. -/
def Trigger.asStr : Trigger → String
  | .startup => "startup"
  | .event => "event"
  | .resync => "resync"

lemma Trigger.asStr_injective : Function.Injective Trigger.asStr := by
  intro t t' h
  cases t <;> cases t' <;> simp [Trigger.asStr] at h ⊢

namespace Obs

/-! ### Families -/

/-- The labels of the counters of reconciles. -/
structure ReconcileLabels where
  trigger : String
  result : String
  deriving DecidableEq

/-- The label of the gauges of gateways. -/
structure GatewayLabels where
  gateway : String
  deriving DecidableEq

/-- The metrics of one name, one for each set of labels that was used.  Of the library that keeps
them it is relied on that a metric is created when its labels are first used, that it is changed
apart from the others, and that clearing a family drops all its metrics. -/
abbrev Family (L M : Type) : Type := L → Option M

namespace Family

variable {L M : Type} [DecidableEq L]

/-- A family without metrics. -/
def empty : Family L M := fun _ => none

/-- Changing the metric of some labels, which is created when it is not there. -/
def modify (fam : Family L M) (labels : L) (create : M) (f : M → M) : Family L M :=
  fun l => if l = labels then some (f ((fam l).getD create)) else fam l

/-- Setting the metrics of some labels one after the other. -/
def setAll (fam : Family L M) (values : List (L × M)) (create : M) : Family L M :=
  values.foldl (fun fam v => fam.modify v.1 create fun _ => v.2) fam

/-- The last value that is set stays. -/
lemma setAll_eq (fam : Family L M) (values : List (L × M)) (create : M) (l : L) :
    fam.setAll values create l = (values.reverse.lookup l).or (fam l) := by
  induction values using List.reverseRecOn with
  | nil => rfl
  | append_singleton values v ih =>
      rw [setAll, List.foldl_append, List.reverse_append, List.reverse_singleton,
        List.singleton_append, List.lookup_cons]
      by_cases h : l = v.1
      · simp [modify, h]
      · have hne : (l == v.1) = false := beq_eq_false_iff_ne.2 h
        rw [hne, ← ih]
        simp [modify, h, setAll]

end Family

/-! ### The metrics -/

/-- A number as the value of a gauge: the largest one when it does not fit. -/
def clamp (v : ℕ) : ℤ := if v < 2 ^ 63 then v else 2 ^ 63 - 1

/-- The metrics.  The counters are of 64 bits, and of the durations only their number is kept
here. -/
structure Metrics where
  reconciles : Family ReconcileLabels UInt64 := .empty
  duration : UInt64 := 0
  lastSuccess : ℤ := 0
  members : ℤ := 0
  gateways : ℤ := 0
  gatewayAvailable : Family GatewayLabels ℤ := .empty
  ready : ℤ := 0
  watchRestarts : UInt64 := 0

namespace Metrics

/-- Recording a reconcile that is over at a time, with what is counted of it when it succeeded. -/
def record (m : Metrics) (trigger : Trigger) (unixNow : ℕ) (outcome : Option ReconcileStats) :
    Metrics :=
  let result := if outcome.isSome then "success" else "error"
  let m := { m with
    reconciles := m.reconciles.modify ⟨trigger.asStr, result⟩ 0 (· + 1)
    duration := m.duration + 1 }
  match outcome with
  | none => m
  | some stats => { m with
      members := clamp stats.members
      gateways := clamp stats.gateways.length
      -- the gauges of gateways that are gone are dropped
      gatewayAvailable := Family.empty.setAll
        (stats.gateways.map fun g => (⟨g.1⟩, if g.2 then 1 else 0)) 0
      lastSuccess := clamp unixNow
      ready := 1 }

/-- Counting a watcher that subscribes again. -/
def watchRestarted (m : Metrics) : Metrics := { m with watchRestarts := m.watchRestarts + 1 }

/-- Whether a reconcile has succeeded. -/
def isReady (m : Metrics) : Bool := m.ready == 1

/-- The answer to the probe for readiness: the status code and the text. -/
def readyzHandler (m : Metrics) : ℕ × String :=
  if m.isReady then (200, "ok\n") else (503, "not ready\n")

end Metrics

/-! ### Any number of attempts -/

/-- An attempt to reconcile: its trigger, when it was over, and what is counted of it when it
succeeded. -/
structure Attempt where
  trigger : Trigger
  unixNow : ℕ
  outcome : Option ReconcileStats

/-- The labels of an attempt with a trigger that succeeded or failed. -/
def labelsOf (trigger : Trigger) (ok : Bool) : ReconcileLabels :=
  ⟨trigger.asStr, if ok then "success" else "error"⟩

lemma labelsOf_inj {t t' : Trigger} {ok ok' : Bool} :
    labelsOf t ok = labelsOf t' ok' ↔ t = t' ∧ ok = ok' := by
  constructor
  · intro h
    obtain ⟨htrigger, hresult⟩ := ReconcileLabels.mk.inj h
    refine ⟨Trigger.asStr_injective htrigger, ?_⟩
    cases ok <;> cases ok' <;> simp at hresult ⊢
  · rintro ⟨rfl, rfl⟩
    rfl

/-- The number of attempts with a trigger that succeeded or failed. -/
def countOf (attempts : List Attempt) (trigger : Trigger) (ok : Bool) : ℕ :=
  attempts.countP fun a => a.trigger == trigger && a.outcome.isSome == ok

/-- The last attempt that succeeded: when it was over, and what was counted of it. -/
def lastStats (attempts : List Attempt) : Option (ℕ × ReconcileStats) :=
  attempts.reverse.findSome? fun a => a.outcome.map fun stats => (a.unixNow, stats)

/-- Recording attempts one after the other. -/
def recordAll (attempts : List Attempt) : Metrics :=
  attempts.foldl (fun m a => m.record a.trigger a.unixNow a.outcome) {}

/-- What the gauges show of the last attempt that succeeded, if there is one. -/
structure Gauges (last : Option (ℕ × ReconcileStats)) (m : Metrics) : Prop where
  ready : m.readyzHandler.1 = if last.isSome then 200 else 503
  lastSuccess : m.lastSuccess = last.elim 0 (clamp ·.1)
  members : m.members = last.elim 0 (clamp ·.2.members)
  gateways : m.gateways = last.elim 0 (clamp ·.2.gateways.length)
  /-- There is a gauge for each gateway of that attempt, and for no other. -/
  available : ∀ name, m.gatewayAvailable ⟨name⟩ =
    (last.bind (·.2.gateways.reverse.lookup name)).map fun up => if up then 1 else 0

/-- What the metrics show after some attempts. -/
structure Shows (attempts : List Attempt) (m : Metrics) : Prop extends
    Gauges (lastStats attempts) m where
  /-- A counter that was not used is not there. -/
  reconciles : ∀ trigger ok, m.reconciles (labelsOf trigger ok) =
    if countOf attempts trigger ok = 0 then none
    else some (UInt64.ofNat (countOf attempts trigger ok))
  others : ∀ l, (∀ trigger ok, l ≠ labelsOf trigger ok) → m.reconciles l = none
  duration : m.duration = UInt64.ofNat attempts.length

lemma shows_empty : Shows [] {} where
  ready := rfl
  lastSuccess := rfl
  members := rfl
  gateways := rfl
  available _ := rfl
  reconciles _ _ := rfl
  others _ _ := rfl
  duration := rfl

lemma lookup_map_labels (gws : List (String × Bool)) (name : String) :
    ((gws.map fun g => ((⟨g.1⟩ : GatewayLabels), if g.2 then (1 : ℤ) else 0)).lookup ⟨name⟩) =
      (gws.lookup name).map fun up => if up then 1 else 0 := by
  induction gws with
  | nil => rfl
  | cons g gws ih =>
      rw [List.map_cons, List.lookup_cons, List.lookup_cons]
      by_cases h : name = g.1
      · simp [h]
      · have hne : ((⟨name⟩ : GatewayLabels) == ⟨g.1⟩) = false := by simp [h]
        have hname : (name == g.1) = false := by simp [h]
        rw [hne, hname]
        exact ih

/-- What one more attempt that succeeds leaves in the gauges. -/
lemma gauges_record (m : Metrics) (trigger : Trigger) (unixNow : ℕ) (stats : ReconcileStats) :
    Gauges (some (unixNow, stats)) (m.record trigger unixNow (some stats)) where
  ready := rfl
  lastSuccess := rfl
  members := rfl
  gateways := rfl
  available name := by
    simp only [Metrics.record, Family.setAll_eq, Family.empty, Option.or_none, ← List.map_reverse,
      Option.bind_some]
    exact lookup_map_labels _ name

/-- An attempt that fails leaves the gauges as they are. -/
lemma Gauges.record_none {last : Option (ℕ × ReconcileStats)} {m : Metrics} (h : Gauges last m)
    (trigger : Trigger) (unixNow : ℕ) : Gauges last (m.record trigger unixNow none) where
  ready := h.ready
  lastSuccess := h.lastSuccess
  members := h.members
  gateways := h.gateways
  available := h.available

/-- Every attempt is counted once. -/
lemma record_counters (m : Metrics) (trigger : Trigger) (unixNow : ℕ)
    (outcome : Option ReconcileStats) :
    (m.record trigger unixNow outcome).reconciles =
        m.reconciles.modify (labelsOf trigger outcome.isSome) 0 (· + 1) ∧
      (m.record trigger unixNow outcome).duration = m.duration + 1 ∧
      (m.record trigger unixNow outcome).watchRestarts = m.watchRestarts := by
  cases outcome <;> exact ⟨rfl, rfl, rfl⟩

lemma countOf_append (attempts : List Attempt) (a : Attempt) (trigger : Trigger) (ok : Bool) :
    countOf (attempts ++ [a]) trigger ok =
      countOf attempts trigger ok +
        if labelsOf trigger ok = labelsOf a.trigger a.outcome.isSome then 1 else 0 := by
  rw [countOf, List.countP_append, List.countP_singleton, countOf]
  refine congrArg _ (if_congr ?_ rfl rfl)
  rw [labelsOf_inj, Bool.and_eq_true, beq_iff_eq, beq_iff_eq, eq_comm, @eq_comm _ ok]

lemma lastStats_append (attempts : List Attempt) (a : Attempt) :
    lastStats (attempts ++ [a]) =
      (a.outcome.map fun stats => (a.unixNow, stats)).or (lastStats attempts) := by
  rw [lastStats, List.reverse_append, List.reverse_singleton, List.singleton_append,
    List.findSome?_cons]
  cases a.outcome <;> rfl

lemma isSome_lastStats (attempts : List Attempt) :
    (lastStats attempts).isSome = true ↔ ∃ a ∈ attempts, a.outcome.isSome = true := by
  simp only [lastStats, List.findSome?_isSome_iff, List.mem_reverse, Option.isSome_map]

/-- Recording an attempt shows it behind the others. -/
lemma Shows.record {attempts : List Attempt} {m : Metrics} (h : Shows attempts m) (a : Attempt) :
    Shows (attempts ++ [a]) (m.record a.trigger a.unixNow a.outcome) := by
  obtain ⟨hcounters, hduration, -⟩ := record_counters m a.trigger a.unixNow a.outcome
  have hgauges : Gauges (lastStats (attempts ++ [a]))
      (m.record a.trigger a.unixNow a.outcome) := by
    rw [lastStats_append]
    cases a.outcome with
    | none => exact h.toGauges.record_none a.trigger a.unixNow
    | some stats => exact gauges_record m a.trigger a.unixNow stats
  refine ⟨hgauges, fun trigger ok => ?_, fun l hl => ?_, ?_⟩
  · rw [hcounters, Family.modify, countOf_append]
    split
    · next heq =>
        rw [h.reconciles, if_neg (Nat.succ_ne_zero _)]
        split
        · next hnone => simp [hnone]
        · simp [UInt64.ofNat_add]
    · exact h.reconciles trigger ok
  · rw [hcounters, Family.modify, if_neg (hl _ _)]
    exact h.others l hl
  · rw [hduration, h.duration, List.length_append, List.length_singleton, UInt64.ofNat_add]
    rfl

/-- A watcher that subscribes again is counted apart from the attempts. -/
lemma Shows.watchRestarted {attempts : List Attempt} {m : Metrics} (h : Shows attempts m) :
    Shows attempts m.watchRestarted where
  ready := h.ready
  lastSuccess := h.lastSuccess
  members := h.members
  gateways := h.gateways
  available := h.available
  reconciles := h.reconciles
  others := h.others
  duration := h.duration

/-- After any attempts the metrics show them: the counters, modulo their width, how many there
were of each kind, and the gauges the last one that succeeded. -/
theorem shows_recordAll (attempts : List Attempt) : Shows attempts (recordAll attempts) := by
  induction attempts using List.reverseRecOn with
  | nil => exact shows_empty
  | append_singleton attempts a ih =>
      rw [recordAll, List.foldl_append]
      exact ih.record a

end Obs

end Degc
