import Degc.Plan.Members

/-!
# The default gateway

A configuration has at most one default gateway.  Containers may declare further
gateways as the default, and the merged set is not checked for it.

The main result is `oneDefault_iff`: there is at most one default among the merged
gateways, and with it a container that opts in without naming a gateway is routed
by the one default, exactly when no container declares a default beside a
configured one and no two declare different ones.
-/

namespace Degc.Plan

open Net Text

variable [Libraries] {pfx : String} {gws : Gateways} {targets : List Target}

/-- There is one default gateway at most, and a container that opts in without naming a gateway is
a gateway itself, is listed as unresolved, or is routed by the one default or the only gateway. -/
structure OneDefault (pfx : String) (targets : List Target) (p : Plan) : Prop where
  default : (p.mergedGateways.filter (·.default)).length ≤ 1
  routed : ∀ t ∈ targets, t.labels[s!"{pfx}.enable"]? = some "true" →
    t.labels[s!"{pfx}.via"]? = none →
      ((gatewayName pfx t.labels).isSome = true ∧ p.routedBy t = []) ∨
      (p.unresolvedOf t = ["<default>"] ∧ p.routedBy t = []) ∨
      ∃ g, (p.mergedGateways.filter (·.default) = [g] ∨ p.mergedGateways = [g]) ∧
        p.routedBy t = [g.name]

/-- A container declares the default gateway: it is the first that declares, with well-formed
knobs, a gateway of a name that is not configured, and says that the gateway is the default. -/
def DeclaresDefault (pfx : String) (gws : Gateways) (targets : List Target) (t : Target) : Prop :=
  ∃ name, name ∉ gws.map (·.name) ∧ firstDeclaring pfx targets name = some t ∧
    knob pfx t.labels "default" = some "true"

/-- No container declares a default gateway beside a configured one, and no two containers declare
different ones. -/
structure DefaultsApart (pfx : String) (gws : Gateways) (targets : List Target) : Prop where
  config : (∃ g ∈ gws, g.default = true) → ∀ t ∈ targets, ¬ DeclaresDefault pfx gws targets t
  declared : ∀ t ∈ targets, ∀ u ∈ targets, DeclaresDefault pfx gws targets t →
    DeclaresDefault pfx gws targets u → gatewayName pfx t.labels = gatewayName pfx u.labels

lemma discoveredGateway_default {name sel : String} {labels : Labels} {g : Gateway}
    (h : discoveredGateway pfx name sel labels = .ok g) :
    g.default = true ↔ knob pfx labels "default" = some "true" := by
  simp only [discoveredGateway, bind_eq_ok, pure_eq_ok] at h
  obtain ⟨_, -, _, -, rfl⟩ := h
  simp

/-- The default gateways that are merged and not configured are those that containers declare. -/
lemma declaresDefault_iff {t : Target} : DeclaresDefault pfx gws targets t ↔
    ∃ g ∈ (merge pfx gws targets).1, g.name ∉ gws.map (·.name) ∧ g.default = true ∧
      firstDeclaring pfx targets g.name = some t := by
  constructor
  · rintro ⟨name, hnew, hfirst, hdefault⟩
    obtain ⟨-, g, hok⟩ := declaresAs_iff.1 (List.find?_some hfirst)
    obtain ⟨-, hname, -⟩ := discoveredGateway_ok hok
    subst hname
    exact ⟨g, mem_merge_iff.2 (Or.inr ⟨hnew, t, hfirst, hok⟩), hnew,
      (discoveredGateway_default hok).2 hdefault, hfirst⟩
  · rintro ⟨g, hg, hnew, hdefault, hfirst⟩
    rcases mem_merge_iff.1 hg with hg | ⟨-, u, hu, hok⟩
    · exact absurd (List.mem_map_of_mem hg) hnew
    · obtain rfl : u = t := Option.some.inj (hu.symm.trans hfirst)
      exact ⟨g.name, hnew, hfirst, (discoveredGateway_default hok).1 hdefault⟩

omit [Libraries] in
/-- A list without duplicates has one element at most exactly when all its elements are equal. -/
lemma length_le_one_iff {α : Type} {l : List α} (h : l.Nodup) :
    l.length ≤ 1 ↔ ∀ a ∈ l, ∀ b ∈ l, a = b := by
  rcases l with _ | ⟨a, _ | ⟨b, l⟩⟩
  · simp
  · simp
  · have hne : a ≠ b := by
      rintro rfl
      simp at h
    constructor
    · intro hlen
      simp at hlen
    · exact fun hall => absurd (hall a (by simp) b (by simp)) hne

/-- There is one default at most among the merged gateways exactly when the containers declare
no default beside another one. -/
lemma default_le_one_iff (hv : gws.Valid) :
    ((merge pfx gws targets).1.filter (·.default)).length ≤ 1 ↔
      DefaultsApart pfx gws targets := by
  have hnames : ((merge pfx gws targets).1.map (·.name)).Nodup := nodup_names_merge hv.names
  rw [length_le_one_iff (hnames.of_map.filter _)]
  simp only [List.mem_filter]
  constructor
  · intro hall
    refine ⟨?_, ?_⟩
    · rintro ⟨g, hg, hdefault⟩ t - ht
      obtain ⟨g', hg', hnew, hdefault', -⟩ := declaresDefault_iff.1 ht
      have heq := hall g ⟨mem_merge_iff.2 (Or.inl hg), hdefault⟩ g' ⟨hg', hdefault'⟩
      exact hnew (heq ▸ List.mem_map_of_mem hg)
    · intro t _ u _ ht hu
      obtain ⟨g, hg, -, hdefault, hfirst⟩ := declaresDefault_iff.1 ht
      obtain ⟨g', hg', -, hdefault', hfirst'⟩ := declaresDefault_iff.1 hu
      obtain rfl := hall g ⟨hg, hdefault⟩ g' ⟨hg', hdefault'⟩
      rw [Option.some.inj (hfirst.symm.trans hfirst')]
  · rintro ⟨hconfig, hdeclared⟩
    have hgws : ∀ g ∈ gws, g.default = true → ∀ g' ∈ gws, g'.default = true → g = g' := by
      intro g hg hd g' hg' hd'
      exact (length_le_one_iff (hv.names.of_map.filter _)).1 hv.default g
        (List.mem_filter.2 ⟨hg, hd⟩) g' (List.mem_filter.2 ⟨hg', hd'⟩)
    -- a default that is not configured comes from a container
    have hsource : ∀ g ∈ (merge pfx gws targets).1, g.default = true → g ∉ gws →
        ∃ t ∈ targets, DeclaresDefault pfx gws targets t ∧
          gatewayName pfx t.labels = some g.name := by
      intro g hg hd hnot
      rcases mem_merge_iff.1 hg with hin | ⟨hnew, t, hfirst, hok⟩
      · exact absurd hin hnot
      · exact ⟨t, List.mem_of_find?_eq_some hfirst,
          declaresDefault_iff.2 ⟨g, hg, hnew, hd, hfirst⟩,
          (declaresAs_iff.1 (List.find?_some hfirst)).1⟩
    rintro g ⟨hg, hd⟩ g' ⟨hg', hd'⟩
    by_cases hin : g ∈ gws <;> by_cases hin' : g' ∈ gws
    · exact hgws g hin hd g' hin' hd'
    · obtain ⟨t, ht, hdecl, -⟩ := hsource g' hg' hd' hin'
      exact absurd hdecl (hconfig ⟨g, hin, hd⟩ t ht)
    · obtain ⟨t, ht, hdecl, -⟩ := hsource g hg hd hin
      exact absurd hdecl (hconfig ⟨g', hin', hd'⟩ t ht)
    · obtain ⟨t, ht, hdecl, hname⟩ := hsource g hg hd hin
      obtain ⟨u, hu, hdecl', hname'⟩ := hsource g' hg' hd' hin'
      have hsame := hdeclared t ht u hu hdecl hdecl'
      rw [hname, hname', Option.some.injEq] at hsame
      exact eq_of_name_eq hnames hg hg' hsame

omit [Libraries] in
/-- Without a name the one default is found, or the only gateway. -/
lemma resolve_none {gs : Gateways} (h : (gs.filter (·.default)).length ≤ 1) {g : Gateway}
    (hg : gs.resolve none = some g) : gs.filter (·.default) = [g] ∨ gs = [g] := by
  rw [Gateways.resolve, Option.or_eq_some_iff] at hg
  rcases hg with hg | ⟨-, hg⟩
  · have hmem : g ∈ gs.filter (·.default) :=
      List.mem_filter.2 ⟨List.mem_of_find?_eq_some hg, List.find?_some hg⟩
    rcases hf : gs.filter (·.default) with _ | ⟨a, _ | ⟨b, rest⟩⟩
    · simp [hf] at hmem
    · rw [hf, List.mem_singleton] at hmem
      exact Or.inl (by rw [hf, hmem])
    · simp [hf] at h
  · split at hg
    · next hone =>
        obtain ⟨a, rfl⟩ := List.length_eq_one_iff.1 hone
        exact Or.inr (by rw [Option.some.inj hg])
    · simp at hg

/-- The plan has one default gateway at most, which routes the containers that opt in without
naming one, exactly when the containers declare no default beside another one. -/
theorem oneDefault_iff (hvalid : gws.validate = .ok ()) (hnodup : (targets.map (·.name)).Nodup) :
    OneDefault pfx targets (compile targets pfx gws) ↔ DefaultsApart pfx gws targets := by
  have hv := Gateways.validate_eq_ok.1 hvalid
  have hdefault : ((compile targets pfx gws).mergedGateways.filter (·.default)).length ≤ 1 ↔
      DefaultsApart pfx gws targets := by
    rw [mergedGateways_compile]
    exact default_le_one_iff hv
  refine ⟨fun h => hdefault.1 h.default, fun hapart => ⟨hdefault.2 hapart, ?_⟩⟩
  intro t ht henable hvia
  have hopt : optIn pfx t.labels = some none := by rw [optIn, if_pos henable, hvia]
  have hrouted : (compile targets pfx gws).routedBy t = _ := routedBy_compile hv.names hnodup ht
  have hunresolved : (compile targets pfx gws).unresolvedOf t = _ := unresolvedOf_compile hnodup ht
  rcases outcome_cases pfx (merge pfx gws targets).1 t with ⟨name, hname, hout⟩ | ⟨g, hr, hout⟩ |
    ⟨hname, via, hopt', hnone, hout⟩ | ⟨-, hopt', -⟩ | ⟨-, hopt', -⟩
  · rw [hout] at hrouted
    exact Or.inl ⟨by rw [hname]; rfl, hrouted⟩
  · rw [hout] at hrouted
    have hresolve : Gateways.resolve (merge pfx gws targets).1 none = some g := by
      simpa [hopt] using hr.2
    refine Or.inr (Or.inr ⟨g, ?_, hrouted⟩)
    rw [mergedGateways_compile]
    exact resolve_none ((default_le_one_iff hv).2 hapart) hresolve
  · obtain rfl : via = none := Option.some.inj (hopt'.symm.trans hopt)
    rw [hout] at hrouted hunresolved
    exact Or.inr (Or.inl ⟨hunresolved, hrouted⟩)
  · exact absurd (hopt'.symm.trans hopt) (by simp)
  · exact absurd (hopt'.symm.trans hopt) (by simp)

/-- A configuration of one gateway, by an interface. -/
def torGateways (default : Bool) : Gateways :=
  [{ name := "tor", egress := { interface := some "wg0" }, default := default }]

/-- A container that declares the default gateway, and one that opts in. -/
def defaultTargets : List Target :=
  [.ofLists "gluetun" [("degc.gateway", "vpn"), ("degc.gateway.default", "true")]
      [("services", [.v4 0xac120002])],
    .ofLists "app" [("degc.enable", "true")] [("services", [.v4 0xac120007])]]

omit [Libraries] in
/-- Where the configured gateway is no default, the declared one is the only default. -/
theorem oneDefault_declared : @OneDefault "degc" defaultTargets
    (@compile .plain defaultTargets "degc" (torGateways false)) := by
  refine (@oneDefault_iff .plain "degc" (torGateways false) defaultTargets (by decide)
    (by decide)).2
    (@DefaultsApart.mk .plain _ _ _ ?_ ?_)
  · rintro ⟨g, hg, hdefault⟩
    have hnone : ∀ g ∈ torGateways false, g.default = false := by decide
    rw [hnone g hg] at hdefault
    exact absurd hdefault (by simp)
  · rintro t ht u hu ⟨-, -, -, hdefault⟩ ⟨-, -, -, hdefault'⟩
    have hone : ∀ t ∈ defaultTargets, knob "degc" t.labels "default" = some "true" →
        gatewayName "degc" t.labels = some "vpn" := by decide
    rw [hone t ht hdefault, hone u hu hdefault']

omit [Libraries] in
/-- A container declares a default gateway beside the configured one. -/
theorem not_oneDefault : @Gateways.validate .plain (torGateways true) = .ok () ∧
    (defaultTargets.map (·.name)).Nodup ∧
    ((@compile .plain defaultTargets "degc" (torGateways true)).mergedGateways.filter
      (·.default)).map (·.name) = ["tor", "vpn"] ∧
    ¬ @OneDefault "degc" defaultTargets
      (@compile .plain defaultTargets "degc" (torGateways true)) := by
  refine ⟨by decide, by decide, by decide, fun h => ?_⟩
  exact absurd (@OneDefault.default _ _ _ h) (by decide)

end Degc.Plan
