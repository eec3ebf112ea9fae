import Degc.Plan.Members

/-!
# The plan as a partition of the containers

The main results are `compile_partition`, that the plan puts every container in
exactly one class and that the members of a gateway are exactly the containers
it routes, and `via_wins_iff`, when a `via` label beats the selectors.  Both read
the plan container by container through `routedBy`, `unresolvedOf` and
`conflictsOf`, which the outcome of the container determines.
-/

namespace Degc.Plan

open Net
open Std (TreeMap)

variable [Libraries] {pfx : String} {gws : Gateways} {targets : List Target}

/-! ### The classes of containers -/

/-- The classes of containers. -/
inductive Class
  | gateway
  | routed
  | unresolved
  | conflict
  | idle
  deriving DecidableEq

/-- A container is in a class of a plan, with everything the plan says about it. -/
def InClass (pfx : String) (p : Plan) (t : Target) : Class → Prop
  | .gateway =>
      (∃ name, gatewayName pfx t.labels = some name) ∧
        p.routedBy t = [] ∧ p.unresolvedOf t = [] ∧ p.conflictsOf t = []
  | .routed =>
      (∃ g, Routes pfx p.mergedGateways t g ∧ p.routedBy t = [g.name]) ∧
        p.unresolvedOf t = [] ∧ p.conflictsOf t = []
  | .unresolved =>
      gatewayName pfx t.labels = none ∧ p.routedBy t = [] ∧ p.conflictsOf t = [] ∧
        ∃ via, optIn pfx t.labels = some via ∧ p.mergedGateways.resolve via = none ∧
          p.unresolvedOf t = [via.getD "<default>"]
  | .conflict =>
      gatewayName pfx t.labels = none ∧ optIn pfx t.labels = none ∧ p.routedBy t = [] ∧
        p.unresolvedOf t = [] ∧ 2 ≤ (selecting p.mergedGateways t).length ∧
          p.conflictsOf t = [(selecting p.mergedGateways t).map (·.name)]
  | .idle =>
      gatewayName pfx t.labels = none ∧ optIn pfx t.labels = none ∧
        selecting p.mergedGateways t = [] ∧
          p.routedBy t = [] ∧ p.unresolvedOf t = [] ∧ p.conflictsOf t = []

/-- The class an outcome belongs to. -/
def Outcome.toClass : Outcome → Class
  | .gateway => .gateway
  | .member _ => .routed
  | .unresolved _ => .unresolved
  | .conflict _ => .conflict
  | .idle => .idle

lemma inClass_outcome (h : (gws.map (·.name)).Nodup) (hnodup : (targets.map (·.name)).Nodup)
    {t : Target} (ht : t ∈ targets) :
    InClass pfx (compile targets pfx gws) t (outcome pfx (merge pfx gws targets).1 t).toClass := by
  have hrouted : (compile targets pfx gws).routedBy t = _ := routedBy_compile h hnodup ht
  have hunres : (compile targets pfx gws).unresolvedOf t = _ := unresolvedOf_compile hnodup ht
  have hconfl : (compile targets pfx gws).conflictsOf t = _ := conflictsOf_compile hnodup ht
  rw [← mergedGateways_compile] at *
  rcases outcome_cases pfx (compile targets pfx gws).mergedGateways t with
    ⟨name, hname, hout⟩ | ⟨g, hr, hout⟩ | ⟨hname, via, hopt, hres, hout⟩ |
      ⟨hname, hopt, hsel, hout⟩ | ⟨hname, hopt, hsel, hout⟩ <;>
    rw [hout] at hrouted hunres hconfl ⊢
  · exact ⟨⟨name, hname⟩, hrouted, hunres, hconfl⟩
  · exact ⟨⟨g, hr, hrouted⟩, hunres, hconfl⟩
  · exact ⟨hname, hrouted, hconfl, via, hopt, hres, hunres⟩
  · exact ⟨hname, hopt, hrouted, hunres, hsel, hconfl⟩
  · exact ⟨hname, hopt, hsel, hrouted, hunres, hconfl⟩

omit [Libraries] in
/-- No container is in two classes. -/
lemma inClass_unique {p : Plan} {t : Target} {c c' : Class} (h : InClass pfx p t c)
    (h' : InClass pfx p t c') : c = c' := by
  cases c <;> cases c' <;> simp only [InClass, Routes] at h h' <;> simp_all

/-- A plan is an exact partition of the containers. -/
structure Partition (pfx : String) (targets : List Target) (p : Plan) : Prop where
  /-- Every container is in exactly one class. -/
  one : ∀ t ∈ targets, ∃! c, InClass pfx p t c
  /-- An enabled container is a gateway container, or its opt-in alone decides. -/
  enabled : ∀ t ∈ targets, t.labels[s!"{pfx}.enable"]? = some "true" →
    InClass pfx p t .gateway ∨ InClass pfx p t .unresolved ∨
      ∃ g, p.mergedGateways.resolve t.labels[s!"{pfx}.via"]? = some g ∧ p.routedBy t = [g.name]
  /-- The members of a gateway are the addresses of the containers it routes. -/
  members : ∀ gp ∈ p.gateways, ∀ ip, ip ∈ gp.members ↔
    ∃ t ∈ targets, Routes pfx p.mergedGateways t gp.gateway ∧ ip ∈ t.addrs
  /-- The member names of a gateway are the names of the containers it routes. -/
  memberNames : ∀ gp ∈ p.gateways, ∀ n, n ∈ gp.memberNames ↔
    ∃ t ∈ targets, Routes pfx p.mergedGateways t gp.gateway ∧ n = t.name
  /-- Disjoint containers make disjoint member sets. -/
  disjoint : AddrsApart targets →
    ∀ gp ∈ p.gateways, ∀ gp' ∈ p.gateways, gp.gateway.name ≠ gp'.gateway.name →
      ∀ ip ∈ gp.members, ip ∉ gp'.members

/-- The plan is an exact partition of the containers: each is a gateway container, routed by
exactly one gateway, unresolved once, in conflict once or left alone, and the members of a
gateway are exactly the containers it routes. -/
theorem compile_partition (hvalid : gws.validate = .ok ())
    (hnodup : (targets.map (·.name)).Nodup) : Partition pfx targets (compile targets pfx gws) := by
  have hnames := (Gateways.validate_eq_ok.1 hvalid).names
  have hmembers : ∀ gp ∈ (compile targets pfx gws).gateways, ∀ ip, ip ∈ gp.members ↔
      ∃ t ∈ targets, Routes pfx (compile targets pfx gws).mergedGateways t gp.gateway ∧
        ip ∈ t.addrs := by
    intro gp hgp ip
    rw [mergedGateways_compile]
    exact mem_members_compile hnames hgp
  refine ⟨fun t ht => ⟨_, inClass_outcome hnames hnodup ht, fun c hc =>
    inClass_unique hc (inClass_outcome hnames hnodup ht)⟩, fun t ht henable => ?_, hmembers,
    fun gp hgp n => ?_, fun hdisj gp hgp gp' hgp' hne ip hip hip' => ?_⟩
  · have hopt : optIn pfx t.labels = some t.labels[s!"{pfx}.via"]? := if_pos henable
    have hclass : InClass pfx (compile targets pfx gws) t _ := inClass_outcome hnames hnodup ht
    generalize outcome pfx (merge pfx gws targets).1 t = o at hclass
    cases o with
    | gateway => exact Or.inl hclass
    | unresolved via => exact Or.inr (Or.inl hclass)
    | member n =>
        obtain ⟨⟨g, ⟨-, hr⟩, hrouted⟩, -, -⟩ := hclass
        rw [hopt] at hr
        exact Or.inr (Or.inr ⟨g, hr, hrouted⟩)
    | conflict names => exact absurd (hopt.symm.trans hclass.2.1) (by simp)
    | idle => exact absurd (hopt.symm.trans hclass.2.1) (by simp)
  · rw [mergedGateways_compile]
    exact mem_memberNames_compile hnames hgp
  · obtain ⟨t, ht, hr, ht'⟩ := (hmembers gp hgp ip).1 hip
    obtain ⟨u, hu, hr', hu'⟩ := (hmembers gp' hgp' ip).1 hip'
    have heq : t = u := by
      by_contra h
      exact hdisj t ht u hu (fun hn => h (List.inj_on_of_nodup_map hnodup ht hu hn)) ip ht' hu'
    exact hne (by rw [hr.unique (heq ▸ hr')])

/-- A gateway container, a container that opts in and one that does not. -/
def sampleTargets : List Target :=
  [.ofLists "gluetun" [("degc.gateway", "vpn")] [("services", [.v4 0xac120002])],
    .ofLists "app" [("degc.enable", "true")] [("services", [.v4 0xac120007])],
    .ofLists "db" [] [("services", [.v4 0xac120008])]]

omit [Libraries] in
/-- The sample is partitioned, with the opted-in container routed. -/
theorem compile_partition_sample :
    (sampleTargets.map (·.name)).Nodup ∧
      Partition "degc" sampleTargets (@compile .plain sampleTargets "degc" []) ∧
      (@compile .plain sampleTargets "degc" []).gateways.map (·.memberNames.toList) = [["app"]] :=
  ⟨by decide, @compile_partition .plain "degc" [] sampleTargets rfl (by decide), by decide⟩

/-! ### Explicit choice and selectors -/

/-- For a container that names a merged gateway by `via` and is matched by selectors: the plan
routes it by the named gateway only, and does not report it as a conflict, exactly when it is
enabled or the named gateway is the only one with a selector that matches. -/
theorem via_wins_iff (hvalid : gws.validate = .ok ()) (hnodup : (targets.map (·.name)).Nodup)
    {t : Target} (ht : t ∈ targets) (hgw : gatewayName pfx t.labels = none) {name : String}
    (hvia : t.labels[s!"{pfx}.via"]? = some name)
    (hname : name ∈ (compile targets pfx gws).mergedGateways.map (·.name))
    (hsel : matched (compile targets pfx gws).mergedGateways t.labels ≠ []) :
    (compile targets pfx gws).routedBy t = [name] ∧ (compile targets pfx gws).conflictsOf t = [] ↔
      t.labels[s!"{pfx}.enable"]? = some "true" ∨
        matched (compile targets pfx gws).mergedGateways t.labels = [name] := by
  have hnames := (Gateways.validate_eq_ok.1 hvalid).names
  rw [mergedGateways_compile] at *
  rw [routedBy_compile hnames hnodup ht, conflictsOf_compile hnodup ht]
  by_cases henable : t.labels[s!"{pfx}.enable"]? = some "true"
  · -- the opt-in decides, and it finds the named gateway
    obtain ⟨g, hg, rfl⟩ := List.mem_map.1 hname
    have hopt : optIn pfx t.labels = some (some g.name) := by rw [optIn, if_pos henable, hvia]
    have hmerged : ((merge pfx gws targets).1.map (·.name)).Nodup := nodup_names_merge hnames
    have hres := resolve_name hmerged hg
    have hout : outcome pfx (merge pfx gws targets).1 t = .member g.name := by
      simp [outcome, hgw, hopt, hres]
    simp only [hout, henable, true_or, and_self]
  · have hopt : optIn pfx t.labels = none := if_neg henable
    simp only [henable, false_or]
    rcases hm : matched (merge pfx gws targets).1 t.labels with _ | ⟨one, _ | ⟨two, rest⟩⟩
    · exact absurd hm hsel
    · simp [outcome, hgw, hopt, hm]
    · simp [outcome, hgw, hopt, hm]

/-- Two gateways, the first with a selector. -/
def selectorGateways : Gateways :=
  [{ name := "vpn", egress := { interface := some "wg0" }, members := [.ofList [("app", "dl")]] },
    { name := "work", egress := { interface := some "wg1" } }]

/-- A container that the selector matches and that names the second gateway. -/
def selectorTarget (labels : List (String × String)) : Target :=
  .ofLists "dl" (("app", "dl") :: ("degc.via", "work") :: labels)
    [("services", [.v4 0xac120007])]

omit [Libraries] in
/-- With `enable`, the container is routed by the gateway it names. -/
theorem via_wins_enabled :
    (@compile .plain [selectorTarget [("degc.enable", "true")]] "degc" selectorGateways).routedBy
        (selectorTarget [("degc.enable", "true")]) = ["work"] ∧
      (@compile .plain [selectorTarget [("degc.enable", "true")]] "degc"
        selectorGateways).conflictsOf (selectorTarget [("degc.enable", "true")]) = [] :=
  (@via_wins_iff .plain "degc" selectorGateways [selectorTarget [("degc.enable", "true")]]
    (by decide) (by decide) _ (List.mem_singleton_self _) (by decide) "work" (by decide)
    (by decide) (by decide)).2 (Or.inl (by decide))

omit [Libraries] in
/-- Without `enable`, the container goes to the gateway whose selector matches it, although it
names another one. -/
theorem via_ignored_without_enable :
    @Gateways.validate .plain selectorGateways = .ok () ∧
      gatewayName "degc" (selectorTarget []).labels = none ∧
      (selectorTarget []).labels["degc.via"]? = some "work" ∧
      "work" ∈ (@compile .plain [selectorTarget []] "degc"
        selectorGateways).mergedGateways.map (·.name) ∧
      (@compile .plain [selectorTarget []] "degc" selectorGateways).routedBy (selectorTarget [])
        = ["vpn"] := by
  decide

end Degc.Plan
