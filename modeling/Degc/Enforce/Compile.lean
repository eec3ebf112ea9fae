import Degc.Enforce.Commands

/-!
# What compiling guarantees

The gateways of a plan come from two sources, the configuration and the labels of
containers, and both are validated: what compiling the plan into a desired state
could trip over does not occur, but for two gateways that are merged and share a
mark or a table.

The main result is `compile_sound`.
-/

namespace Degc

open Net Text

variable [Libraries] {pfx : String} {gws : Gateways} {targets : List Target}

/-- The private ranges, which stay direct by default, can be read as networks. -/
def ReadsDefaults : Prop := ∀ s ∈ defaultLocalSubnets, ∃ n, Libraries.networkFromStr s = .ok n

/-- Two gateways of a plan share an effective mark or table. -/
def Collides (p : Plan) : Prop :=
  ∃ gp ∈ p.gateways, ∃ gp' ∈ p.gateways, gp.gateway.name ≠ gp'.gateway.name ∧
    (gp.gateway.effectiveMark = gp'.gateway.effectiveMark ∨
      gp.gateway.tableId = gp'.gateway.tableId)

/-- What is sound about a plan: its gateways are distinct and valid, those of the configuration
first, and nothing but a collision keeps it from being compiled. -/
structure Sound (gws : Gateways) (p : Plan) : Prop where
  names : (p.gateways.map (·.gateway.name)).Nodup
  config : gws <+: p.gateways.map (·.gateway)
  valid : ∀ gp ∈ p.gateways, gp.gateway.validate = .ok () ∧ gp.gateway.Valid
  marks : ∀ gp ∈ p.gateways, ∃ m, gp.gateway.markValue = .ok m ∧ m ≠ 0
  tables : ∀ gp ∈ p.gateways, 0 < gp.gateway.tableId
  egress : ∀ gp ∈ p.gateways, gp.egress ≠ .unavailable "no egress configured" ∧
    ∀ nh, gp.egress ≠ .unavailable s!"nextHop {debugStr nh} is not an IP"
  locals : ∀ gp ∈ p.gateways, (Nft.locals gp.gateway).map .ok =
    gp.gateway.localSubnetsEffective.map Libraries.networkFromStr
  errors : (∃ e, Enforce.compile p = .error e) ↔ Collides p

/-! ### The egress and the networks -/

/-- The egress of a valid gateway is unavailable only because its container is not running. -/
lemma resolveEgress_unavailable {g : Gateway} (hg : g.Valid) {why : String}
    (h : Plan.resolveEgress g targets = .unavailable why) :
    ∃ sel, g.egress.container = some sel ∧
      why = s!"gateway container {debugStr sel} not running" := by
  rcases hg.egress_cases with ⟨i, he⟩ | ⟨sel, he⟩ | ⟨nh, he⟩
  · simp [Plan.resolveEgress, he] at h
  · rw [Plan.resolveEgress_container he] at h
    refine ⟨sel, by rw [he], ?_⟩
    cases hip : Plan.gatewayContainerIp sel targets with
    | some ip => simp [hip] at h
    | none => simpa [hip] using h.symm
  · obtain ⟨ip, hip⟩ := Option.isSome_iff_exists.1 (hg.nextHop nh (by rw [he]))
    simp [Plan.resolveEgress, he, hip] at h

omit [Libraries] in
lemma filterMap_toOption_of_ok {α β : Type} {f : α → Except String β} {as : List α}
    (h : ∀ a ∈ as, ∃ b, f a = .ok b) :
    (as.filterMap fun a => (f a).toOption).map .ok = as.map f := by
  induction as with
  | nil => rfl
  | cons a as ih =>
      rw [List.forall_mem_cons] at h
      obtain ⟨b, hb⟩ := h.1
      rw [List.filterMap_cons, hb, List.map_cons, ← ih h.2, hb]
      rfl

/-- All networks of a valid gateway that stay direct are read. -/
lemma locals_eq {g : Gateway} (hg : g.Valid) (hdefaults : ReadsDefaults) :
    (Nft.locals g).map .ok = g.localSubnetsEffective.map Libraries.networkFromStr := by
  refine filterMap_toOption_of_ok fun s hs => ?_
  rw [Gateway.localSubnetsEffective] at hs
  split at hs
  · exact hdefaults s hs
  · exact hg.localSubnets s hs

/-! ### Errors -/

omit [Libraries] in
lemma exists_mapM {α β : Type} {f : α → Except String β} {as : List α}
    (h : ∀ a ∈ as, ∃ b, f a = .ok b) : ∃ bs, as.mapM f = .ok bs := by
  induction as with
  | nil => exact ⟨[], rfl⟩
  | cons a as ih =>
      rw [List.forall_mem_cons] at h
      obtain ⟨b, hb⟩ := h.1
      obtain ⟨bs, hbs⟩ := ih h.2
      exact ⟨b :: bs, by rw [List.mapM_cons, hb, hbs]; rfl⟩

/-- A plan whose gateways have marks is compiled when the marks and the tables are apart. -/
lemma exists_compile {p : Plan} (hapart : Gateways.RoutesApart (p.gateways.map (·.gateway))) :
    ∃ d, Enforce.compile p = .ok d := by
  have hmark := Nft.markValue_of_apart hapart
  obtain ⟨guards, hguards⟩ := exists_mapM fun gp hgp => ⟨_, Route.guardOf_eq (hmark gp hgp)⟩
  obtain ⟨cmds, hcmds⟩ := exists_mapM fun gp hgp => ⟨_, Route.gatewayCmds_eq (hmark gp hgp)⟩
  obtain ⟨rules, hrules⟩ : ∃ rules, p.gateways.mapM Nft.gatewayRules = .ok rules :=
    exists_mapM fun gp hgp => ⟨_, by rw [Nft.gatewayRules, hmark gp hgp]; rfl⟩
  have hcheck : checkUniqueRouting (p.gateways.map (·.gateway)) = .ok () :=
    checkUniqueRouting_eq_ok.2 hapart
  rw [Enforce.compile, hcheck, hguards, Nft.buildScript, hrules, Route.build, hcmds]
  exact ⟨_, rfl⟩

omit [Libraries] in
/-- What differs where the names do is distinct for gateways with distinct names. -/
lemma nodup_of_apart {α : Type} {gps : List GatewayPlan} {f : GatewayPlan → α}
    (hnames : (gps.map (·.gateway.name)).Nodup)
    (h : ∀ gp ∈ gps, ∀ gp' ∈ gps, gp.gateway.name ≠ gp'.gateway.name → f gp ≠ f gp') :
    (gps.map f).Nodup := by
  refine List.Nodup.map_on (fun gp hgp gp' hgp' heq => ?_) hnames.of_map
  by_contra hne
  exact h gp hgp gp' hgp' (fun hname =>
    hne (List.inj_on_of_nodup_map hnames hgp hgp' hname)) heq

/-- A plan whose gateways have marks and distinct names is not compiled exactly when two of them
collide. -/
lemma compile_error_iff {p : Plan} (hnames : (p.gateways.map (·.gateway.name)).Nodup)
    (hmarks : ∀ gp ∈ p.gateways, gp.gateway.markValue = .ok gp.gateway.effectiveMark) :
    (∃ e, Enforce.compile p = .error e) ↔ Collides p := by
  have hok : Gateways.RoutesApart (p.gateways.map (·.gateway)) ↔ ¬ Collides p := by
    constructor
    · rintro ⟨-, hm, ht⟩ ⟨gp, hgp, gp', hgp', hne, heq⟩
      rw [List.map_map] at hm ht
      -- gateways with one mark or one table are one gateway
      have hsame : gp = gp' := heq.elim (List.inj_on_of_nodup_map hm hgp hgp')
        (List.inj_on_of_nodup_map ht hgp hgp')
      exact hne (by rw [hsame])
    · intro hno
      refine ⟨by simpa using hmarks, ?_, ?_⟩
      · rw [List.map_map]
        exact nodup_of_apart hnames fun gp hgp gp' hgp' hname h =>
          hno ⟨gp, hgp, gp', hgp', hname, Or.inl h⟩
      · rw [List.map_map]
        exact nodup_of_apart hnames fun gp hgp gp' hgp' hname h =>
          hno ⟨gp, hgp, gp', hgp', hname, Or.inr h⟩
  rw [← not_iff_not, ← hok]
  constructor
  · intro hnot
    cases hc : Enforce.compile p with
    | error e => exact absurd ⟨e, hc⟩ hnot
    | ok d => exact (Nft.compile_eq_ok hc).1
  · rintro hapart ⟨e, he⟩
    obtain ⟨d, hd⟩ := exists_compile hapart
    rw [he] at hd
    exact absurd hd (by simp)

/-- Every plan that is compiled from a valid configuration, whatever the containers and their
labels are, is sound. -/
theorem compile_sound (hvalid : gws.validate = .ok ()) (hdefaults : ReadsDefaults) :
    Sound gws (Plan.compile targets pfx gws) := by
  have hv := Gateways.validate_eq_ok.1 hvalid
  have hgws : (Plan.compile targets pfx gws).gateways.map (·.gateway) =
      (Plan.merge pfx gws targets).1 := Plan.mergedGateways_compile gws
  have hnames : ((Plan.compile targets pfx gws).gateways.map (·.gateway.name)).Nodup := by
    have hmerged : ((Plan.merge pfx gws targets).1.map (·.name)).Nodup :=
      Plan.nodup_names_merge hv.names
    rwa [← hgws, List.map_map] at hmerged
  have hgateway : ∀ gp ∈ (Plan.compile targets pfx gws).gateways, gp.gateway.Valid :=
    fun gp hgp => Plan.valid_of_mem_merge hv.gateways (hgws ▸ List.mem_map_of_mem hgp)
  refine ⟨hnames, ?_, fun gp hgp => ⟨Gateway.validate_eq_ok.2 (hgateway gp hgp), hgateway gp hgp⟩,
    fun gp hgp => ⟨_, (hgateway gp hgp).markValue⟩, fun gp hgp => (hgateway gp hgp).tableId,
    fun gp hgp => ?_, fun gp hgp => locals_eq (hgateway gp hgp) hdefaults,
    compile_error_iff hnames fun gp hgp => (hgateway gp hgp).markValue.1⟩
  · rw [hgws]
    exact Plan.isPrefix_merge
  · -- the reasons differ in their first letters
    have hwhy : ∀ why, gp.egress = .unavailable why → why.toList.head? = some 'g' := by
      intro why h
      rw [Plan.egress_eq hgp] at h
      obtain ⟨sel, -, rfl⟩ := resolveEgress_unavailable (hgateway gp hgp) h
      simp
    refine ⟨fun h => ?_, fun nh h => ?_⟩
    · exact absurd (hwhy _ h) (by decide)
    · exact absurd (hwhy _ h) (by simp)

omit [Libraries] in
/-- A configured gateway and one that a container declares. -/
theorem compile_sound_sample :
    @Sound .plain [{ name := "tor", egress := { interface := some "wg0" } }]
      (@Plan.compile .plain Plan.sampleTargets "degc"
        [{ name := "tor", egress := { interface := some "wg0" } }]) := by
  refine @compile_sound .plain _ _ _ (by decide) fun s hs => ?_
  have hok : ∀ s ∈ defaultLocalSubnets, (@Libraries.networkFromStr .plain s).isOk = true := by
    decide
  have hs := hok s hs
  cases hn : @Libraries.networkFromStr .plain s with
  | error e => exact absurd (hn ▸ hs) (by simp [Except.isOk, Except.toBool])
  | ok n => exact ⟨n, rfl⟩

end Degc
