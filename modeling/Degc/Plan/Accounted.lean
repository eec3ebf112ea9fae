import Degc.Plan.Members

/-!
# Containers that are shown and containers that are covered

A container is shown under a gateway by its name, and its traffic is covered by
the addresses in the member set.  The main result `accounted_iff` says, for the
containers Docker lists, when a container that is to be routed is covered
wherever it is shown or is listed as a problem.
-/

namespace Degc.Plan

open Net

variable [Libraries] {pfx : String} {gws : Gateways} {targets : List Target}

/-- A plan accounts for a container: a gateway that shows it as its member has an address of
it, or the container is listed as unresolved or as a conflict. -/
def Accounted (p : Plan) (t : Target) : Prop :=
  (∃ gp ∈ p.gateways, t.name ∈ gp.memberNames ∧ ∃ ip ∈ t.addrs, ip ∈ gp.members) ∨
    (∃ via, (t.name, via) ∈ p.unresolved) ∨ ∃ names, (t.name, names) ∈ p.conflicts

/-- No gateway can be chosen for a container: it opts in and its choice names no gateway, or it
does not opt in and several gateways select it. -/
def Undecided (pfx : String) (merged : Gateways) (t : Target) : Prop :=
  gatewayName pfx t.labels = none ∧
    match optIn pfx t.labels with
    | some via => merged.resolve via = none
    | none => 2 ≤ (selecting merged t).length

omit [Libraries] in
lemma undecided_iff {merged : Gateways} {t : Target} :
    Undecided pfx merged t ↔
      (∃ via, outcome pfx merged t = .unresolved via) ∨
        ∃ names, outcome pfx merged t = .conflict names := by
  rcases outcome_cases pfx merged t with ⟨name, hname, hout⟩ | ⟨g, ⟨hname, hr⟩, hout⟩ |
    ⟨hname, via, hopt, hres, hout⟩ | ⟨hname, hopt, hsel, hout⟩ | ⟨hname, hopt, hsel, hout⟩
  · simp [Undecided, hname, hout]
  · cases hopt : optIn pfx t.labels with
    | some via => simp_all [Undecided]
    | none => simp_all [Undecided]
  · simp [Undecided, hname, hopt, hres, hout]
  · simp [Undecided, hname, hopt, hsel, hout]
  · simp [Undecided, hname, hopt, hsel, hout]

lemma mem_unresolved_compile {n via : String} :
    (n, via) ∈ (compile targets pfx gws).unresolved ↔
      ∃ u ∈ targets, outcome pfx (merge pfx gws targets).1 u = .unresolved via ∧ u.name = n := by
  simp only [compile, assignment, unresolved_foldl, List.nil_append, List.mem_filterMap,
    unresolvedEntry]
  refine exists_congr fun u => and_congr_right fun _ => ?_
  cases outcome pfx (merge pfx gws targets).1 u <;> simp [and_comm]

lemma mem_conflicts_compile {n : String} {names : List String} :
    (n, names) ∈ (compile targets pfx gws).conflicts ↔
      ∃ u ∈ targets, outcome pfx (merge pfx gws targets).1 u = .conflict names ∧ u.name = n := by
  simp only [compile, assignment, conflicts_foldl, List.nil_append, List.mem_filterMap,
    conflictEntry]
  refine exists_congr fun u => and_congr_right fun _ => ?_
  cases outcome pfx (merge pfx gws targets).1 u <;> simp [and_comm]

/-- A name is listed as a problem when no gateway can be chosen for a container of this
name. -/
lemma listed_iff {n : String} :
    ((∃ via, (n, via) ∈ (compile targets pfx gws).unresolved) ∨
        ∃ names, (n, names) ∈ (compile targets pfx gws).conflicts) ↔
      ∃ u ∈ targets, u.name = n ∧ Undecided pfx (merge pfx gws targets).1 u := by
  simp only [mem_unresolved_compile, mem_conflicts_compile, undecided_iff]
  constructor
  · rintro (⟨via, u, hu, hout, hn⟩ | ⟨names, u, hu, hout, hn⟩)
    · exact ⟨u, hu, hn, Or.inl ⟨via, hout⟩⟩
    · exact ⟨u, hu, hn, Or.inr ⟨names, hout⟩⟩
  · rintro ⟨u, hu, hn, ⟨via, hout⟩ | ⟨names, hout⟩⟩
    · exact Or.inl ⟨via, u, hu, hout, hn⟩
    · exact Or.inr ⟨names, u, hu, hout, hn⟩

/-- For a container that opts in or that exactly one gateway selects: the plan accounts for it
exactly when Docker lists an address of it, or no gateway can be chosen for it or for a
container of the same name. -/
theorem accounted_iff (hvalid : gws.validate = .ok ()) {containers : List ContainerSummary}
    (hlist : listTargets (.ok containers) = .ok targets) {c : ContainerSummary}
    (hc : c ∈ containers) (hgw : gatewayName pfx c.target.labels = none)
    (hmember : c.target.labels[s!"{pfx}.enable"]? = some "true" ∨
      ∃ g, selecting (merge pfx gws targets).1 c.target = [g]) :
    Accounted (compile targets pfx gws) c.target ↔
      c.HasAddr ∨ ∃ u ∈ containers, u.target.name = c.target.name ∧
        Undecided pfx (merge pfx gws targets).1 u.target := by
  have htargets : containers.map (·.target) = targets := by
    simpa [listTargets, withContext, Except.mapError, Except.map] using hlist
  have ht : c.target ∈ targets := htargets ▸ List.mem_map_of_mem hc
  have hnames := (Gateways.validate_eq_ok.1 hvalid).names
  rw [Accounted, listed_iff]
  have hsame : (∃ u ∈ targets, u.name = c.target.name ∧
      Undecided pfx (merge pfx gws targets).1 u) ↔
      ∃ u ∈ containers, u.target.name = c.target.name ∧
        Undecided pfx (merge pfx gws targets).1 u.target := by
    rw [← htargets]
    simp
  rw [hsame]
  constructor
  · rintro (⟨gp, -, -, ip, hip, -⟩ | h)
    · exact Or.inl (addrs_target_ne_nil.1 (List.ne_nil_of_mem hip))
    · exact Or.inr h
  · rintro (haddr | h)
    · -- the container has an address, which it brings to the gateway that routes it
      obtain ⟨ip, hip⟩ := List.exists_mem_of_ne_nil _ (addrs_target_ne_nil.2 haddr)
      rcases outcome_cases pfx (merge pfx gws targets).1 c.target with ⟨name, hname, hout⟩ |
        ⟨g, hr, hout⟩ | ⟨hname, via, hopt, hres, hout⟩ | ⟨hname, hopt, hsel, hout⟩ |
        ⟨hname, hopt, hsel, hout⟩
      · simp [hgw] at hname
      · obtain ⟨gp, hgp, rfl⟩ : ∃ gp ∈ (compile targets pfx gws).gateways, gp.gateway = g := by
          have hg := hr.mem
          rw [← mergedGateways_compile, mergedGateways, List.mem_map] at hg
          exact hg
        exact Or.inl ⟨gp, hgp, (mem_memberNames_compile hnames hgp).2 ⟨_, ht, hr, rfl⟩, ip, hip,
          (mem_members_compile hnames hgp).2 ⟨_, ht, hr, hip⟩⟩
      · exact Or.inr ⟨c, hc, rfl, undecided_iff.2 (Or.inl ⟨_, hout⟩)⟩
      · exact Or.inr ⟨c, hc, rfl, undecided_iff.2 (Or.inr ⟨_, hout⟩)⟩
      · rcases hmember with henable | ⟨g, hg⟩
        · rw [optIn, if_pos henable] at hopt
          exact absurd hopt (by simp)
        · rw [hsel] at hg
          simp at hg
    · exact Or.inr h

/-- A container that opts in, attached to one network with the given address text. -/
def appContainer (net ipAddress : String) : ContainerSummary :=
  { names := some ["/app"], labels := some (.ofList [("degc.enable", "true")])
    networkSettings := some
      { networks := some (.ofList [(net, EndpointSettings.mk (some ipAddress) none)]) } }

/-- One gateway on a host interface. -/
def wireguardGateways : Gateways := [{ name := "vpn", egress := { interface := some "wg0" } }]

/-- The plan for one listed container. -/
def planOf (c : ContainerSummary) : Plan := @compile .plain [c.target] "degc" wireguardGateways

omit [Libraries] in
/-- On a bridge, the container is accounted for. -/
theorem accounted_bridge :
    Accounted (planOf (appContainer "services" "172.18.0.7"))
      (appContainer "services" "172.18.0.7").target :=
  (@accounted_iff .plain "degc" wireguardGateways _ rfl [appContainer "services" "172.18.0.7"] rfl
    _ (List.mem_singleton_self _) (by decide) (Or.inl (by decide))).2
    (Or.inl ⟨"services", { ipAddress := some "172.18.0.7" }, rfl, "172.18.0.7", by decide,
      by decide⟩)

omit [Libraries] in
/-- On the host network Docker lists an empty address: the gateway shows the container, its
member set is empty, and nothing is listed as a problem. -/
theorem not_accounted_host :
    @Gateways.validate .plain wireguardGateways = .ok () ∧
      listTargets (.ok [appContainer "host" ""]) = .ok [(appContainer "host" "").target] ∧
      gatewayName "degc" (appContainer "host" "").target.labels = none ∧
      (appContainer "host" "").target.labels["degc.enable"]? = some "true" ∧
      (planOf (appContainer "host" "")).gateways.map
        (fun gp => (gp.memberNames.toList, gp.members.toList)) = [(["app"], [])] ∧
      ¬ Accounted (planOf (appContainer "host" "")) (appContainer "host" "").target := by
  refine ⟨rfl, rfl, by decide, by decide, by decide +kernel, ?_⟩
  have haddrs : (appContainer "host" "").target.addrs = [] := by decide +kernel
  have hlisted : (planOf (appContainer "host" "")).unresolved = [] ∧
      (planOf (appContainer "host" "")).conflicts = [] := by decide +kernel
  rintro (⟨_, -, -, ip, hip, -⟩ | ⟨via, h⟩ | ⟨names, h⟩)
  · simp [haddrs] at hip
  · simp [hlisted.1] at h
  · simp [hlisted.2] at h

end Degc.Plan
