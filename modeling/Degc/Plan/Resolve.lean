import Degc.Plan.Partition

/-!
# Egresses that are containers

A gateway whose egress is a container is looked up again by a name, and the
first container meant by it is taken, by its own name or by that of its Compose
service.

The main results are `discovered_egress_iff`, when the egress of a self-declared
gateway is the container that declares it, and `not_own_member_iff`, when the
container behind a gateway is not among the members of the gateway.
-/

namespace Degc.Plan

open Net
open Std (TreeMap TreeSet)

variable [Libraries] {pfx : String} {gws : Gateways} {targets : List Target}

omit [Libraries] in
lemma gatewayContainerIp_eq_some {sel : String} {ip : IpAddr} :
    gatewayContainerIp sel targets = some ip ↔
      ∃ u, targets.find? (isMatch sel) = some u ∧ u.addrs.find? IpAddr.isIpv4 = some ip := by
  rw [gatewayContainerIp, Option.bind_eq_some_iff]

/-- The egress of a gateway whose egress is a container. -/
lemma resolveEgress_container {g : Gateway} {sel : String}
    (hegress : g.egress = { container := some sel }) :
    resolveEgress g targets =
      match gatewayContainerIp sel targets with
      | some ip => .nextHop ip
      | none => .unavailable s!"gateway container {debugStr sel} not running" := by
  cases h : gatewayContainerIp sel targets <;> simp [resolveEgress, hegress, h]

lemma resolveEgress_eq_nextHop {g : Gateway} {sel : String}
    (hegress : g.egress = { container := some sel }) {ip : IpAddr} :
    resolveEgress g targets = .nextHop ip ↔ gatewayContainerIp sel targets = some ip := by
  rw [resolveEgress_container hegress]
  cases gatewayContainerIp sel targets <;> simp

lemma resolveEgress_eq_unavailable {g : Gateway} {sel : String}
    (hegress : g.egress = { container := some sel }) :
    (∃ why, resolveEgress g targets = .unavailable why) ↔
      gatewayContainerIp sel targets = none := by
  rw [resolveEgress_container hegress]
  cases gatewayContainerIp sel targets <;> simp

lemma egress_of_mem_gatewayPlans {ms : TreeMap String (TreeSet IpAddr)}
    {ns : TreeMap String (TreeSet String)} {gs : List Gateway} {gp : GatewayPlan}
    (hgp : gp ∈ gatewayPlans targets ms ns gs) : gp.egress = resolveEgress gp.gateway targets := by
  induction gs generalizing ms ns with
  | nil => simp [gatewayPlans] at hgp
  | cons g gs ih =>
      rw [gatewayPlans, List.mem_cons] at hgp
      rcases hgp with rfl | hgp
      · rfl
      · exact ih hgp

/-- The egress of a gateway of a plan is the resolved one. -/
lemma egress_eq {gp : GatewayPlan} (hgp : gp ∈ (compile targets pfx gws).gateways) :
    gp.egress = resolveEgress gp.gateway targets :=
  egress_of_mem_gatewayPlans hgp

/-! ### Self-declared gateways -/

/-- A container declares a gateway: with the gateways of the containers before it merged, it
adds this one. -/
def Declares (pfx : String) (gws : Gateways) (targets : List Target) (t : Target) (g : Gateway) :
    Prop :=
  ∃ before after, targets = before ++ t :: after ∧ declared pfx (merge pfx gws before).1 t = some g

lemma Declares.egress {t : Target} {g : Gateway} (h : Declares pfx gws targets t g) :
    g.egress = { container := some (egressContainer t) } := by
  obtain ⟨_, _, -, hd⟩ := h
  obtain ⟨-, -, hok⟩ := declared_eq_some.1 hd
  exact (discoveredGateway_ok hok).2.2

lemma Declares.mem {t : Target} {g : Gateway} (h : Declares pfx gws targets t g) :
    t ∈ targets := by
  obtain ⟨_, _, rfl, -⟩ := h
  simp

/-- The egress of a gateway that a container declares is an IPv4 address of this container and
of no other, or unavailable, exactly when the first container meant by the name of the declaring
one has no IPv4 address, or is the declaring one and shares its first IPv4 address with no
other. -/
theorem discovered_egress_iff (hnodup : (targets.map (·.name)).Nodup) {t : Target}
    {gp : GatewayPlan}
    (hgp : gp ∈ (compile targets pfx gws).gateways) (ht : Declares pfx gws targets t gp.gateway) :
    ((∃ ip ∈ t.addrs, ip.isIpv4 = true ∧ gp.egress = .nextHop ip ∧
        ∀ u ∈ targets, u.name ≠ t.name → ip ∉ u.addrs) ∨ ∃ why, gp.egress = .unavailable why) ↔
      ∀ u, targets.find? (isMatch (egressContainer t)) = some u →
        (∀ ip ∈ u.addrs, ip.isIpv4 = false) ∨
          u = t ∧ ∀ ip, t.addrs.find? IpAddr.isIpv4 = some ip →
            ∀ v ∈ targets, v.name ≠ t.name → ip ∉ v.addrs := by
  rw [egress_eq hgp]
  simp only [resolveEgress_eq_nextHop ht.egress, resolveEgress_eq_unavailable ht.egress]
  constructor
  · rintro (⟨ip, -, -, hip, hother⟩ | hnone) u hu
    · obtain ⟨u', hu', hfind⟩ := gatewayContainerIp_eq_some.1 hip
      obtain rfl : u = u' := Option.some.inj (hu.symm.trans hu')
      -- the address is one of the first match, so the first match is the declaring container
      have hut : u = t := by
        by_contra hne
        have hmem := List.mem_of_find?_eq_some hu
        exact hother u hmem (fun h => hne (List.inj_on_of_nodup_map hnodup hmem ht.mem h))
          (List.mem_of_find?_eq_some hfind)
      subst hut
      exact Or.inr ⟨rfl, fun ip' hip' => by rwa [Option.some.inj (hip'.symm.trans hfind)]⟩
    · rw [gatewayContainerIp, hu, Option.bind_some, List.find?_eq_none] at hnone
      exact Or.inl fun ip hip => by simpa using hnone ip hip
  · intro hcond
    cases hip : gatewayContainerIp (egressContainer t) targets with
    | none => exact Or.inr rfl
    | some ip =>
        obtain ⟨u, hu, hfind⟩ := gatewayContainerIp_eq_some.1 hip
        have hmem := List.mem_of_find?_eq_some hfind
        have hv4 : ip.isIpv4 = true := List.find?_some hfind
        rcases hcond u hu with hno | ⟨rfl, hother⟩
        · exact absurd (hno ip hmem) (by simp [hv4])
        · exact Or.inl ⟨ip, hmem, hv4, rfl, hother ip hfind⟩

/-- Two Compose projects with a service of one name, where the second declares a gateway. -/
def sameServiceTargets : List Target :=
  [.ofLists "a-gluetun-1" [("com.docker.compose.service", "gluetun")]
      [("a", [.v4 0xac120002])],
    .ofLists "b-gluetun-1" [("com.docker.compose.service", "gluetun"), ("degc.gateway", "vpn")]
      [("b", [.v4 0xac130002])]]

/-- The gateway that the second container declares. -/
def declaredGateway : Gateway := { name := "vpn", egress := { container := some "gluetun" } }

omit [Libraries] in
/-- Alone with its members, a gateway goes to the container that declares it. -/
theorem discovered_egress_alone :
    ∃ gp ∈ (@compile .plain sampleTargets "degc" []).gateways,
      (∃ ip ∈ sampleTargets[0].addrs, ip.isIpv4 = true ∧ gp.egress = .nextHop ip ∧
        ∀ u ∈ sampleTargets, u.name ≠ sampleTargets[0].name → ip ∉ u.addrs) ∨
          ∃ why, gp.egress = .unavailable why :=
  ⟨_, List.mem_singleton_self _, (@discovered_egress_iff .plain "degc" [] sampleTargets
    (by decide) sampleTargets[0] _ (List.mem_singleton_self _) ⟨[], _, rfl, rfl⟩).2 (by
      intro u hu
      obtain rfl : sampleTargets[0] = u := Option.some.inj hu
      refine Or.inr ⟨rfl, ?_⟩
      intro ip hip
      obtain rfl : IpAddr.v4 0xac120002 = ip := Option.some.inj hip
      decide)⟩

omit [Libraries] in
/-- Next to a container of the same service, the gateway goes to the other container. -/
theorem discovered_egress_elsewhere :
    (sameServiceTargets.map (·.name)).Nodup ∧
      @Declares .plain "degc" [] sameServiceTargets sameServiceTargets[1] declaredGateway ∧
      (@compile .plain sameServiceTargets "degc" []).gateways.map (fun gp =>
          (gp.gateway.name, gp.egress)) = [("vpn", .nextHop (.v4 0xac120002))] ∧
      IpAddr.v4 0xac120002 ∉ sameServiceTargets[1].addrs :=
  ⟨by decide, ⟨[sameServiceTargets[0]], [], rfl, rfl⟩, by decide, by decide⟩

/-! ### A gateway among its own members -/

omit [Libraries] in
/-- When a gateway does not route a container. -/
lemma not_routes_iff {merged : Gateways} {t : Target} {g : Gateway} :
    ¬ Routes pfx merged t g ↔
      (∃ name, gatewayName pfx t.labels = some name) ∨
        (∃ via, optIn pfx t.labels = some via ∧ merged.resolve via ≠ some g) ∨
          optIn pfx t.labels = none ∧ selecting merged t ≠ [g] := by
  rw [Routes]
  cases gatewayName pfx t.labels <;> cases optIn pfx t.labels <;> simp

/-- The container behind a gateway is not among the members of the gateway, by name or, when no
two containers share an address, by address, exactly when no container of its name is sent to
the gateway: each is a gateway container, or its opt-in resolves to something else, or it does
not opt in and the gateway is not the only one with a selector that matches. -/
theorem not_own_member_iff (hvalid : gws.validate = .ok ()) {gp : GatewayPlan}
    (hgp : gp ∈ (compile targets pfx gws).gateways) {sel : String}
    (hegress : gp.gateway.egress = { container := some sel }) {u : Target}
    (hu : targets.find? (isMatch sel) = some u) {ip : IpAddr} (hip : gp.egress = .nextHop ip) :
    (u.name ∉ gp.memberNames ∧ (AddrsApart targets → ip ∉ gp.members)) ↔
      ∀ t ∈ targets, t.name = u.name →
        (∃ name, gatewayName pfx t.labels = some name) ∨
        (∃ via, optIn pfx t.labels = some via ∧
          (compile targets pfx gws).mergedGateways.resolve via ≠ some gp.gateway) ∨
        optIn pfx t.labels = none ∧
          selecting (compile targets pfx gws).mergedGateways t ≠ [gp.gateway] := by
  have hnames := (Gateways.validate_eq_ok.1 hvalid).names
  simp only [← not_routes_iff, mergedGateways_compile]
  rw [mem_memberNames_compile hnames hgp, mem_members_compile hnames hgp]
  rw [egress_eq hgp, resolveEgress_eq_nextHop hegress, gatewayContainerIp_eq_some] at hip
  obtain ⟨u', hu', hfind⟩ := hip
  obtain rfl : u = u' := Option.some.inj (hu.symm.trans hu')
  constructor
  · rintro ⟨hname, -⟩ t ht hteq hroutes
    exact hname ⟨t, ht, hroutes, hteq.symm⟩
  · refine fun hnone => ⟨?_, ?_⟩
    · rintro ⟨t, ht, hroutes, hteq⟩
      exact hnone t ht hteq.symm hroutes
    · rintro hapart ⟨t, ht, hroutes, hipt⟩
      -- the address is one of the resolved container, so the member has its name
      have hteq : t.name = u.name := by
        by_contra hne
        exact hapart t ht u (List.mem_of_find?_eq_some hu) hne ip hipt
          (List.mem_of_find?_eq_some hfind)
      exact hnone t ht hteq hroutes

/-- A configured gateway with a container as its egress and a selector over a whole project. -/
def projectGateways : Gateways :=
  [{ name := "vpn", egress := { container := some "gluetun" }
     members := [.ofList [("com.docker.compose.project", "media")]] }]

/-- The container behind the gateway, with further labels. -/
def projectTargets (labels : List (String × String)) : List Target :=
  [.ofLists "gluetun" (("com.docker.compose.project", "media") :: labels)
    [("media", [.v4 0xac120002])]]

omit [Libraries] in
/-- A container that carries the gateway label is not its own member. -/
theorem not_own_member_labelled :
    ∃ gp ∈ (@compile .plain (projectTargets [("degc.gateway", "vpn")]) "degc"
        projectGateways).gateways,
      gp.egress = .nextHop (.v4 0xac120002) ∧ "gluetun" ∉ gp.memberNames :=
  ⟨_, List.mem_singleton_self _, by decide,
    ((@not_own_member_iff .plain "degc" projectGateways (projectTargets [("degc.gateway", "vpn")])
      (by decide) _ (List.mem_singleton_self _) "gluetun" rfl _ rfl (.v4 0xac120002)
      (by decide)).2 fun t ht _ => Or.inl ⟨"vpn", by rw [List.mem_singleton.1 ht]; decide⟩).1⟩

omit [Libraries] in
/-- Without the label, the container behind the gateway is a member of the gateway. -/
theorem own_member_by_selector :
    @Gateways.validate .plain projectGateways = .ok () ∧
      (@compile .plain (projectTargets []) "degc" projectGateways).gateways.map (fun gp =>
          (gp.egress, gp.memberNames.toList, gp.members.toList)) =
        [(.nextHop (.v4 0xac120002), ["gluetun"], [.v4 0xac120002])] := by
  decide

end Degc.Plan
