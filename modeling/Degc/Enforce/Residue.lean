import Degc.Enforce.Isolation
import Degc.Enforce.Lockout

/-!
# What earlier plans leave behind

Applying a plan puts the rules and routes of its gateways in place and removes none
of a gateway that the plan does not have.

The main result is `noResidue_iff`: after a number of plans that were applied
successfully, the rules and routes are those of the last plan exactly when the
gateways of the earlier plans have their marks and tables in the last one.
-/

namespace Degc

open Net Text Fib

variable [Libraries]

/-- The rules that are not of the host itself, and the routes with the protocol tag, are of
gateways of a plan. -/
structure NoResidue (p : Plan) (f₀ f : Fib) : Prop where
  rules : ∀ r ∈ f.rules, r ∈ f₀.rules ∨ ∃ gp ∈ p.gateways, r = Route.ruleOf gp
  routes : ∀ r ∈ f.routes, r.proto = 194 → ∃ gp ∈ p.gateways, r.table = Route.tableOf gp

/-- A table has a route with the protocol tag. -/
def Tagged (table : ℕ) (f : Fib) : Prop := ∃ r ∈ f.routes, r.proto = 194 ∧ r.table = table

/-- The commands of a gateway, when they do not stop the run, leave a route in its table and no new
ones in others. -/
lemma tagged_cmdsOf {env : Env} {gp : GatewayPlan} {f : Fib} {t : ℕ}
    (h : (Script.run env.runIp (Route.cmdsOf gp) f).2 = true) :
    Tagged t (Script.run env.runIp (Route.cmdsOf gp) f).1 ↔ Tagged t f ∨ Route.tableOf gp = t := by
  by_cases ht : Route.tableOf gp = t
  · have hheld := Route.held_run_of_goes h
    have hfloor : Route.floorOf gp ∈
        (Route.held gp (Script.run env.runIp (Route.cmdsOf gp) f).1).floor := by
      rw [hheld]
      split <;> exact List.mem_singleton_self _
    exact iff_of_true ⟨_, (mem_slot.1 hfloor).1, rfl, ht⟩ (Or.inr ht)
  · have hframe : (Script.run env.runIp (Route.cmdsOf gp) f).1.routes.filter (·.table == t) =
        f.routes.filter (·.table == t) :=
      Script.run_frame (f := fun f : Fib => f.routes.filter (·.table == t)) fun c hc f =>
        (Route.effect_of_mem env gp f hc).filter_table ht
    have htagged : ∀ f : Fib, Tagged t f ↔ ∃ r ∈ f.routes.filter (·.table == t), r.proto = 194 := by
      intro f
      simp only [Tagged, List.mem_filter, beq_iff_eq]
      exact exists_congr fun r => by tauto
    rw [htagged, htagged, hframe, or_iff_left ht]

/-- A run of all commands of a plan that does not stop leaves routes in the tables of its
gateways and no new ones in others. -/
lemma tagged_run {env : Env} {gps : List GatewayPlan} {f : Fib} {t : ℕ}
    (h : (Script.run env.runIp (gps.flatMap Route.cmdsOf) f).2 = true) :
    Tagged t (Script.run env.runIp (gps.flatMap Route.cmdsOf) f).1 ↔
      Tagged t f ∨ ∃ gp ∈ gps, Route.tableOf gp = t := by
  rw [Script.run_flatMap] at h ⊢
  exact Script.run_collect (P := Tagged t) (fun gp _ f => tagged_cmdsOf) h

/-- What successful plans leave: the tables with tagged routes are those of their gateways. -/
lemma Applied.tagged {h₀ h : Host} (hclean : Clean h₀) {past : List (Plan × Env)}
    (happlied : Applied h₀ past h) (t : ℕ) :
    Tagged t h.fib ↔ ∃ pe ∈ past, ∃ gp ∈ pe.1.gateways, Route.tableOf gp = t := by
  induction happlied with
  | start =>
      refine iff_of_false ?_ (by simp)
      rintro ⟨r, hr, hproto, -⟩
      exact hclean.proto r hr hproto
  | @apply past h h' p d env _ hc happly ih =>
      obtain ⟨-, rs, -, rfl, hgoes⟩ := env.apply_eq_ok happly
      rw [hc.ip] at hgoes ⊢
      rw [tagged_run hgoes, ih]
      simp [or_and_right, exists_or]

/-- After plans that were applied successfully to a clean host, there is nothing left but what is
of the last plan exactly when the gateways of the earlier ones have their tables in the last plan,
and those whose rules were let through their marks to these tables. -/
theorem noResidue_iff {h₀ h : Host} (hclean : Clean h₀) {past : List (Plan × Env)} {p : Plan}
    {env : Env} (happlied : Applied h₀ (past ++ [(p, env)]) h) :
    NoResidue p h₀.fib h.fib ↔ ∀ pe ∈ past, ∀ gp' ∈ pe.1.gateways,
      (∃ gp ∈ p.gateways, gp.gateway.tableId = gp'.gateway.tableId) ∧
      (Installs pe.2 gp' → ∃ gp ∈ p.gateways, gp.gateway.tableId = gp'.gateway.tableId ∧
        gp.gateway.effectiveMark = gp'.gateway.effectiveMark) := by
  have htagged := happlied.tagged hclean
  obtain ⟨-, hrules⟩ := happlied.rules hclean
  constructor
  · rintro ⟨hleft, hroutes⟩ pe hpe gp' hgp'
    have hpast : pe ∈ past ++ [(p, env)] := List.mem_append_left _ hpe
    refine ⟨?_, fun hinstalls => ?_⟩
    · obtain ⟨r, hr, hproto, htable⟩ := (htagged (Route.tableOf gp')).2 ⟨pe, hpast, gp', hgp', rfl⟩
      obtain ⟨gp, hgp, heq⟩ := hroutes r hr hproto
      exact ⟨gp, hgp, UInt32.toNat_inj.1 (heq.symm.trans htable)⟩
    · have hmem : Route.ruleOf gp' ∈ h.fib.rules :=
        (hrules _).2 (Or.inr ⟨pe, hpast, gp', hgp', hinstalls, rfl⟩)
      obtain ⟨gp, hgp, heq⟩ := (hleft _ hmem).resolve_left (hclean.ruleOf_not_mem gp')
      exact ⟨gp, hgp, Route.ruleOf_inj.1 heq⟩
  · intro hcond
    refine ⟨fun r hr => ?_, fun r hr hproto => ?_⟩
    · refine ((hrules r).1 hr).imp id ?_
      rintro ⟨pe, hpe, gp', hgp', hinstalls, rfl⟩
      -- what an earlier plan left is of a gateway with the same mark and table
      rcases List.mem_append.1 hpe with hpe | hpe
      · obtain ⟨gp, hgp, heq⟩ := (hcond pe hpe gp' hgp').2 hinstalls
        exact ⟨gp, hgp, Route.ruleOf_inj.2 heq⟩
      · obtain rfl := List.mem_singleton.1 hpe
        exact ⟨gp', hgp', rfl⟩
    · obtain ⟨pe, hpe, gp', hgp', htable⟩ := (htagged r.table).1 ⟨r, hr, hproto, rfl⟩
      rcases List.mem_append.1 hpe with hpe | hpe
      · obtain ⟨gp, hgp, heq⟩ := (hcond pe hpe gp' hgp').1
        exact ⟨gp, hgp, htable.symm.trans (congrArg UInt32.toNat heq.symm)⟩
      · obtain rfl := List.mem_singleton.1 hpe
        exact ⟨gp', hgp', htable.symm⟩

omit [Libraries] in
/-- A further plan is applied behind that of the gateway in table 100. -/
lemma applied_next {q : Plan} {d : Desired} (hc : @Compiled .plain q d)
    (hown : ∀ gp ∈ q.gateways, ∀ r ∈ homeHost.fib.routes, r.dst.addr.isIpv4 = true →
      r.table ≠ Route.tableOf gp)
    (hpast : ∀ gp ∈ q.gateways, ∀ pe ∈ [(homePlan 100 [], Env.allOk)], ∀ gp' ∈ pe.1.gateways,
      @Installs .plain pe.2 gp' →
      @Gateway.effectiveMark .plain gp'.gateway = @Gateway.effectiveMark .plain gp.gateway →
        gp'.gateway.tableId = gp.gateway.tableId ∧ gp.gateway.tableId ∉ [253, 254, 255]) :
    ∃ h, @Applied .plain homeHost ([(homePlan 100 [], .allOk)] ++ [(q, .allOk)]) h := by
  obtain ⟨-, h, -, happlied⟩ := applied_homePlan
  have hcheck := @Applied.preflight .plain _ _ connected_homeHost.toClean _ happlied _ _ hc
    hown hpast
  obtain ⟨rs, -, happly⟩ := @Compiled.apply_of_lets .plain _ _ hc _ (Env.lets_allOk d) _ hcheck
  exact ⟨_, @Applied.apply .plain _ _ _ _ _ _ _ happlied hc happly⟩

omit [Libraries] in
/-- When the gateway only gets a member, what the first plan left is of the second one. -/
theorem noResidue_homePlan : ∃ h, @Applied .plain homeHost
      ([(homePlan 100 [], .allOk)] ++ [(homePlan 100 appTargets, .allOk)]) h ∧
    @NoResidue .plain (homePlan 100 appTargets) homeHost.fib h.fib := by
  obtain ⟨d, hc⟩ := exists_compiled appTargets "degc" (vpnGateways 100) (by decide) (by decide)
  obtain ⟨h, happlied⟩ := applied_next hc (by decide) (by decide)
  exact ⟨h, happlied, (@noResidue_iff .plain _ _ connected_homeHost.toClean _ _ _ happlied).2
    (by decide)⟩

omit [Libraries] in
/-- When its only gateway is gone from a plan, the rule of the gateway stays. -/
theorem residue : ∃ h, Clean homeHost ∧
    @Applied .plain homeHost ([(homePlan 100 [], .allOk)] ++
      [(@Plan.compile .plain [] "degc" [], .allOk)]) h ∧
    ¬ @NoResidue .plain (@Plan.compile .plain [] "degc" []) homeHost.fib h.fib := by
  obtain ⟨d, hc⟩ := exists_compiled [] "degc" [] (by decide) (by decide)
  have hnone : (@Plan.compile .plain [] "degc" []).gateways = [] := rfl
  obtain ⟨h, happlied⟩ := applied_next hc (by simp [hnone]) (by simp [hnone])
  refine ⟨h, connected_homeHost.toClean, happlied, fun hno => ?_⟩
  let gp := (homePlan 100 []).gateways.get ⟨0, by decide⟩
  have hrules := (@Applied.rules .plain _ _ connected_homeHost.toClean _ happlied).2
  have hold : @Route.ruleOf .plain gp ∈ h.fib.rules :=
    (hrules _).2 (Or.inr ⟨_, List.mem_append_left _ (List.mem_singleton_self _), gp,
      List.get_mem _ _, rfl, rfl⟩)
  rcases @NoResidue.rules .plain _ _ _ hno _ hold with hmem | ⟨gp', hgp', -⟩
  · exact absurd hmem (by decide)
  · rw [hnone] at hgp'
    cases hgp'

end Degc
