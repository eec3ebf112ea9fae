import Degc.Enforce.Injective

/-!
# The sets of intervals

The networks that stay direct are the elements of a set of intervals, and two
elements of such a set must have no address in common.  The networks are checked
one by one when a configuration is read, and written into the set as they are.

The main result `intervalsApart_iff` says for which configurations the elements of
every set of intervals are apart.
-/

namespace Degc.Nft

open Net Text Netfilter

variable [Libraries]

/-- Wherever the script of a plan is loaded, the elements of every set of intervals are apart. -/
def IntervalsApart (plan : Plan) : Prop :=
  ∀ script, buildScript plan = .ok script → ∀ rs rs', loadText script rs = some rs' →
    ∀ t, rs'["inet degc"]? = some t → ∀ (n : String) (s : ElemSet), t.sets[n]? = some s →
      s.interval = true → s.elems.Pairwise Cidr.Apart

/-- The gateways of a plan with the same replaced name as a gateway. -/
def namesakes (plan : Plan) (gp : GatewayPlan) : List GatewayPlan :=
  plan.gateways.filter fun gp' => sanitize gp'.gateway.name = sanitize gp.gateway.name

/-- The IPv4 networks in the set of a gateway. -/
def listed4 (plan : Plan) (gp : GatewayPlan) : List Cidr :=
  (namesakes plan gp).flatMap fun gp' => (locals4 gp'.gateway).map (·.toCidr)

/-- The IPv6 networks in the set of a gateway: those of gateways with an IPv6 member. -/
def listed6 (plan : Plan) (gp : GatewayPlan) : List Cidr :=
  ((namesakes plan gp).filter fun gp' => !(members6 gp').isEmpty).flatMap fun gp' =>
    (locals6 gp'.gateway).map (·.toCidr)

/-- No network of a list contains the address of another one. -/
def NoneWithin (ns : List Cidr) : Prop :=
  ns.Pairwise fun c d => c.contains d.addr = false ∧ d.contains c.addr = false

omit [Libraries] in
instance (ns : List Cidr) : Decidable (NoneWithin ns) :=
  inferInstanceAs (Decidable (List.Pairwise _ ns))

/-! ### What is in the sets -/

/-- The elements of a set are those of the gateways with one replaced name. -/
lemma elemsOf_namesakes (plan : Plan) (gp : GatewayPlan) {b : String} (hb : b ∈ pres) :
    elemsOf (plan.gateways.flatMap setDefs) (b ++ sanitize gp.gateway.name) =
      (namesakes plan gp).flatMap fun gp' =>
        elemsOf (setDefs gp') (b ++ sanitize gp'.gateway.name) := by
  rw [elemsOf_flatMap, namesakes]
  induction plan.gateways with
  | nil => rfl
  | cons gp' gps ih =>
      rw [List.flatMap_cons, List.filter_cons, ih]
      by_cases hname : sanitize gp'.gateway.name = sanitize gp.gateway.name
      · simp [hname]
      · simp [hname, elemsOf_setDefs_of_ne hb hname]

lemma elemsOf_local4 (plan : Plan) (gp : GatewayPlan) :
    elemsOf (plan.gateways.flatMap setDefs) (localName gp.gateway) = listed4 plan gp := by
  refine (elemsOf_namesakes plan gp (b := "degc_local_") (by decide)).trans ?_
  exact List.flatMap_congr fun gp' _ => (elemsOf_setDefs gp').2.1

lemma elemsOf_local6_of_nil {gp : GatewayPlan} (h : members6 gp = []) :
    elemsOf (setDefs gp) (local6Name gp.gateway) = [] := by
  simp only [viaName, localName, local6Name, setDefs, h]
  cases locals4 gp.gateway <;> simp [exclDefs, elemsOf]

lemma elemsOf_local6 (plan : Plan) (gp : GatewayPlan) :
    elemsOf (plan.gateways.flatMap setDefs) (local6Name gp.gateway) = listed6 plan gp := by
  refine (elemsOf_namesakes plan gp (b := "degc_local6_") (by decide)).trans ?_
  rw [listed6]
  induction namesakes plan gp with
  | nil => rfl
  | cons gp' gps ih =>
      rw [List.flatMap_cons, List.filter_cons, ih]
      cases h6 : members6 gp' with
      | nil =>
          have hnone : elemsOf (setDefs gp') ("degc_local6_" ++ sanitize gp'.gateway.name) = [] :=
            elemsOf_local6_of_nil h6
          simp [hnone]
      | cons a as =>
          have hsome : elemsOf (setDefs gp') ("degc_local6_" ++ sanitize gp'.gateway.name) =
              (locals6 gp'.gateway).map (·.toCidr) := (elemsOf_setDefs gp').2.2.2 (by simp [h6])
          simp [hsome]

/-- The sets of intervals of a plan are those of the networks of its gateways. -/
lemma interval_setDefs {gp : GatewayPlan} {d : String × ElemSet} (hd : d ∈ setDefs gp)
    (h : d.2.interval = true) :
    d.1 = localName gp.gateway ∨ d.1 = local6Name gp.gateway := by
  rcases mem_setDefs hd with rfl | rfl | rfl | rfl
  · simp [addrSet] at h
  · exact Or.inl rfl
  · simp [addrSet] at h
  · exact Or.inr rfl

/-- What is loaded from the script of a plan: the sets of intervals are those of its gateways, with
the networks listed for them. -/
lemma loaded_intervals {plan : Plan} {script : String}
    (hplan : ∀ gp ∈ plan.gateways, PlainEgress gp.egress) (h : buildScript plan = .ok script)
    {rs rs' : Ruleset} (hload : loadText script rs = some rs') {t : Table}
    (ht : rs'["inet degc"]? = some t) :
    (∀ n, elemsAt t.sets n = elemsOf (plan.gateways.flatMap setDefs) n) ∧
    ∀ (n : String) (s : ElemSet), t.sets[n]? = some s →
      ∃ gp ∈ plan.gateways, ∃ d ∈ setDefs gp, d.1 = n ∧ d.2.interval = s.interval := by
  rw [loadText, readScript_buildScript hplan h, Option.bind_some] at hload
  obtain ⟨⟨t', ht', htable⟩, -⟩ := load_redefine hload
  obtain rfl := Option.some.inj (ht.symm.trans htable)
  refine ⟨fun n => by simpa [elemsAt] using (addSets_spec ht').2 n, fun n s hs => ?_⟩
  rcases interval_addSets ht' hs with ⟨s₀, hs₀, -⟩ | ⟨d, hd, hn, hkind⟩
  · simp at hs₀
  · obtain ⟨gp, hgp, hd⟩ := List.mem_flatMap.1 hd
    exact ⟨gp, hgp, d, hd, hn, hkind⟩

omit [Libraries] in
lemma noneWithin_iff {ns : List Cidr} : NoneWithin ns ↔ ns.Pairwise Cidr.Apart :=
  List.Pairwise.iff fun {_ _} => Cidr.apart_iff.symm

/-- A set that is listed with a name of intervals is loaded as one. -/
lemma pairwise_of_intervalsApart {plan : Plan} (h : IntervalsApart plan)
    (hplan : ∀ gp ∈ plan.gateways, PlainEgress gp.egress) {script : String}
    (hscript : buildScript plan = .ok script) {n : String} (hn : (kindOf n).2 = true) :
    (elemsOf (plan.gateways.flatMap setDefs) n).Pairwise Cidr.Apart := by
  obtain ⟨rs, hload⟩ := exists_loadText hplan hscript ∅
  obtain ⟨sets, htable, -⟩ := table_of_loadText hplan hscript hload
  obtain ⟨helems, hkinds⟩ := loaded_intervals hplan hscript hload htable
  rw [← helems n, elemsAt]
  cases hs : sets[n]? with
  | none => simp
  | some s =>
      obtain ⟨gp, -, d, hd, rfl, hinterval⟩ := hkinds n s hs
      have hkind := congrArg Prod.snd (kindOf_setDefs gp d hd)
      exact h script hscript ∅ rs hload _ htable _ s hs (hinterval.symm.trans (hkind.trans hn))

variable {pfx : String} {gws : Gateways} {targets : List Target}

/-- A plan that is compiled from a valid configuration has a script. -/
lemma exists_buildScript (hvalid : gws.validate = .ok ()) :
    ∃ script, buildScript (Plan.compile targets pfx gws) = .ok script := by
  have hv := Gateways.validate_eq_ok.1 hvalid
  refine ⟨_, buildScript_eq fun gp hgp => ?_⟩
  obtain ⟨g, hg, rfl⟩ := (Plan.mem_gateways_compile hv.names).1 hgp
  exact (Plan.valid_of_mem_merge hv.gateways hg).markValue.1

/-- For a valid configuration, the elements of every set of intervals are apart exactly when, for
every gateway, no network in its IPv4 set contains the address of another one, and none in its IPv6
set. -/
theorem intervalsApart_iff (hvalid : gws.validate = .ok ()) :
    IntervalsApart (Plan.compile targets pfx gws) ↔
      ∀ gp ∈ (Plan.compile targets pfx gws).gateways,
        NoneWithin (listed4 (Plan.compile targets pfx gws) gp) ∧
          NoneWithin (listed6 (Plan.compile targets pfx gws) gp) := by
  set plan := Plan.compile targets pfx gws with hplan
  have hplain : ∀ gp ∈ plan.gateways, PlainEgress gp.egress := plainEgress_compile hvalid
  simp only [noneWithin_iff, ← elemsOf_local4, ← elemsOf_local6]
  constructor
  · intro h gp hgp
    obtain ⟨script, hscript⟩ : ∃ script, buildScript plan = .ok script := exists_buildScript hvalid
    exact ⟨pairwise_of_intervalsApart h hplain hscript (by simp [kindOf, localName]),
      pairwise_of_intervalsApart h hplain hscript (by simp [kindOf, local6Name])⟩
  · intro h script hscript rs rs' hload t ht n s hs hinterval
    obtain ⟨helems, hkinds⟩ := loaded_intervals hplain hscript hload ht
    obtain ⟨gp, hgp, d, hd, rfl, hkind⟩ := hkinds n s hs
    have hsome : s.elems = elemsOf (plan.gateways.flatMap setDefs) d.1 := by
      rw [← helems, elemsAt, hs, Option.elim_some]
    rw [hsome]
    rcases interval_setDefs hd (hkind.trans hinterval) with hname | hname
    · exact hname ▸ (h gp hgp).1
    · exact hname ▸ (h gp hgp).2

omit [Libraries] in
/-- The private ranges are apart. -/
theorem intervalsApart_vpn_work : @IntervalsApart .plain (namedPlan "vpn" "work") :=
  (@intervalsApart_iff .plain "degc" (namedGateways "vpn" "work") (namedTargets "vpn" "work")
    (by decide)).2 (by decide)

/-- A gateway with a local network and a part of it. -/
def nestedGateways : Gateways :=
  [{ name := "vpn", egress := { interface := some "wg0" }
     localSubnets := ["10.0.0.0/8", "10.1.0.0/16"] }]

omit [Libraries] in
/-- The two networks are listed in one set. -/
theorem not_intervalsApart : @Gateways.validate .plain nestedGateways = .ok () ∧
    ¬ @IntervalsApart .plain (@Plan.compile .plain [] "degc" nestedGateways) := by
  have hvalid : @Gateways.validate .plain nestedGateways = .ok () := by decide
  refine ⟨hvalid, fun h => ?_⟩
  obtain ⟨script, hscript⟩ := @exists_buildScript .plain "degc" _ [] hvalid
  have hpairwise := @pairwise_of_intervalsApart .plain _ h
    (@plainEgress_compile .plain _ _ _ hvalid)
    script hscript "degc_local_vpn" (by decide)
  exact absurd (noneWithin_iff.2 hpairwise) (by decide)

end Degc.Nft
