import Degc.Enforce.Reachable

/-!
# The check after earlier plans

Rules stay behind when plans change.  After a number of plans that were applied
successfully, the rules are those of a fresh host and one for each gateway of these
plans whose rule was let through.

The main result is `preflight_iff`: the check of a further plan passes exactly when
no gateway has a table with routes of the host's own, and no earlier plan had a rule
from a gateway's mark to another table, or to one that is shown by a name.
-/

namespace Degc

open Net Text Fib

variable [Libraries]

/-- The plans that were applied to a host, each successfully, with what the programs met. -/
inductive Applied (h₀ : Host) : List (Plan × Env) → Host → Prop
  | start : Applied h₀ [] h₀
  | apply {past : List (Plan × Env)} {h h' : Host} {p : Plan} {d : Desired} {env : Env}
      (hpast : Applied h₀ past h) (hc : Compiled p d)
      (happly : Enforce.apply env.world d h = (h', .ok ())) : Applied h₀ (past ++ [(p, env)]) h'

/-- The rule of a gateway is let through. -/
def Installs (env : Env) (gp : GatewayPlan) : Prop :=
  env.ip (Route.ruleCmd (Route.markText gp) (Route.tableText gp)).args = .ok ()

instance (env : Env) (gp : GatewayPlan) : Decidable (Installs env gp) :=
  inferInstanceAs (Decidable (_ = _))

/-- The rules that the commands of a gateway leave, when they do not stop the run. -/
lemma mem_rules_cmdsOf {env : Env} {gp : GatewayPlan} {f : Fib} {r : Rule}
    (h : (Script.run env.runIp (Route.cmdsOf gp) f).2 = true) :
    r ∈ (Script.run env.runIp (Route.cmdsOf gp) f).1.rules ↔
      r ∈ f.rules ∨ Installs env gp ∧ r = Route.ruleOf gp := by
  have hstep : ∀ c ∈ Route.cmdsOf gp, ∀ f, (env.runIp c f).2 = true →
      (r ∈ (env.runIp c f).1.rules ↔ r ∈ f.rules ∨
        c = Route.ruleCmd (Route.markText gp) (Route.tableText gp) ∧ Installs env gp ∧
          r = Route.ruleOf gp) := by
    intro c hc f _
    rw [Route.mem_rules_runIp env gp f hc]
    refine or_congr_right (and_congr_right fun heq => ?_)
    rw [heq, Installs]
  rw [Script.run_collect (P := fun f : Fib => r ∈ f.rules) hstep h]
  simp [Route.cmdsOf]

/-- The rules that a run of all commands of a plan leaves, when it does not stop. -/
lemma mem_rules_run {env : Env} {gps : List GatewayPlan} {f : Fib} {r : Rule}
    (h : (Script.run env.runIp (gps.flatMap Route.cmdsOf) f).2 = true) :
    r ∈ (Script.run env.runIp (gps.flatMap Route.cmdsOf) f).1.rules ↔
      r ∈ f.rules ∨ ∃ gp ∈ gps, Installs env gp ∧ r = Route.ruleOf gp := by
  rw [Script.run_flatMap] at h ⊢
  exact Script.run_collect (P := fun f : Fib => r ∈ f.rules) (fun gp _ f => mem_rules_cmdsOf) h

lemma Applied.reachable {h₀ h : Host} {past : List (Plan × Env)} (happlied : Applied h₀ past h) :
    Reachable h₀ h := by
  induction happlied with
  | start => exact .start
  | @apply past h h' p d env _ hc happly ih =>
      have hnext := ih.apply hc env d.ip.length
      rwa [Desired.upTo_length, happly] at hnext

/-- What successful plans leave: it is kept what is kept, and the rules are those of a fresh host
and those that were let through. -/
lemma Applied.rules {h₀ h : Host} (hclean : Clean h₀) {past : List (Plan × Env)}
    (happlied : Applied h₀ past h) :
    Kept h₀.fib h.fib ∧ ∀ r, r ∈ h.fib.rules ↔ r ∈ h₀.fib.rules ∨
      ∃ pe ∈ past, ∃ gp ∈ pe.1.gateways, Installs pe.2 gp ∧ r = Route.ruleOf gp := by
  refine ⟨happlied.reachable.kept hclean, ?_⟩
  induction happlied with
  | start => simp
  | @apply past h h' p d env _ hc happly ih =>
      obtain ⟨-, rs, -, rfl, hgoes⟩ := env.apply_eq_ok happly
      intro r
      rw [hc.ip] at hgoes ⊢
      rw [mem_rules_run hgoes, ih, or_assoc]
      simp [or_and_right, exists_or]

/-- The check of a further plan passes where neither the host nor an earlier plan is in the way of
its gateways. -/
lemma Applied.preflight {h₀ h : Host} (hclean : Clean h₀) {past : List (Plan × Env)}
    (happlied : Applied h₀ past h) {p : Plan} {d : Desired} (hc : Compiled p d)
    (hown : ∀ gp ∈ p.gateways, ∀ r ∈ h₀.fib.routes, r.dst.addr.isIpv4 = true →
      r.table ≠ Route.tableOf gp)
    (hpast : ∀ gp ∈ p.gateways, ∀ pe ∈ past, ∀ gp' ∈ pe.1.gateways, Installs pe.2 gp' →
      gp'.gateway.effectiveMark = gp.gateway.effectiveMark →
        gp'.gateway.tableId = gp.gateway.tableId ∧ gp.gateway.tableId ∉ [253, 254, 255]) :
    Env.preflight h d.guards = .ok () := by
  obtain ⟨hk, hrules⟩ := happlied.rules hclean
  refine (hk.preflight hclean hc).2 fun gp hgp => ?_
  -- a route in the table is tagged, and a rule from the mark is of an earlier plan
  refine ⟨fun r hr ht h4 => ?_, fun r hr m hmark => ?_⟩
  · exact (hk.routes r hr).elim (fun hr => absurd ht (hown gp hgp r hr h4)) (·.proto)
  · rcases (hrules r).1 hr with hr | ⟨pe, hpe, gp', hgp', hinstalls, rfl⟩
    · rw [hclean.rules] at hr
      simp only [List.mem_cons, List.not_mem_nil, or_false] at hr
      rcases hr with rfl | rfl | rfl <;>
        exact absurd hmark (by simp [localRule, mainRule, defaultRule])
    · have hsame : Nft.markOf gp' = Nft.markOf gp := by
        simpa [Route.ruleOf] using congrArg (Option.map Prod.fst) hmark
      obtain ⟨htable, hnot⟩ := hpast gp hgp pe hpe gp' hgp' hinstalls (UInt32.toNat_inj.1 hsame)
      simp only [List.mem_cons, List.not_mem_nil, or_false, not_or, ← UInt32.toNat_inj] at hnot
      exact ⟨congrArg UInt32.toNat htable, hnot⟩

/-- After any plans that were applied successfully to a clean host, the check of a further plan
passes exactly when no gateway has a table with an IPv4 route of the host's own, and every earlier
rule from the mark of a gateway is to the table of the gateway, which has no name. -/
theorem preflight_iff {h₀ h : Host} (hclean : Clean h₀) {past : List (Plan × Env)}
    (happlied : Applied h₀ past h) {p : Plan} {d : Desired} (hc : Compiled p d) :
    Env.preflight h d.guards = .ok () ↔ ∀ gp ∈ p.gateways,
      (∀ r ∈ h₀.fib.routes, r.dst.addr.isIpv4 = true → r.table ≠ Route.tableOf gp) ∧
      ∀ pe ∈ past, ∀ gp' ∈ pe.1.gateways, Installs pe.2 gp' →
        gp'.gateway.effectiveMark = gp.gateway.effectiveMark →
          gp'.gateway.tableId = gp.gateway.tableId ∧ gp.gateway.tableId ∉ [253, 254, 255] := by
  obtain ⟨hk, hrules⟩ := happlied.rules hclean
  refine ⟨fun hcheck gp hgp => ?_, fun hcond => happlied.preflight hclean hc
    (fun gp hgp => (hcond gp hgp).1) fun gp hgp => (hcond gp hgp).2⟩
  have hfree := (hk.preflight hclean hc).1 hcheck gp hgp
  refine ⟨?_, ?_⟩
  · exact (usable_of_free hclean hk hc hgp hfree).apart
  · intro pe hpe gp' hgp' hinstalls hmark
    have hrule : Route.ruleOf gp' ∈ h.fib.rules :=
      (hrules _).2 (Or.inr ⟨pe, hpe, gp', hgp', hinstalls, rfl⟩)
    have hsame : (Route.ruleOf gp').mark = some (Nft.markOf gp, fullMask) := by
      simp [Route.ruleOf, Nft.markOf, hmark]
    obtain ⟨htable, h253, h254, h255⟩ := hfree.rules _ hrule _ hsame
    refine ⟨UInt32.toNat_inj.1 htable, ?_⟩
    simp only [List.mem_cons, List.not_mem_nil, or_false, not_or, ← UInt32.toNat_inj]
    exact ⟨h253, h254, h255⟩

omit [Libraries] in
/-- The plan of a gateway in table 100 is applied to the host in the home network. -/
lemma applied_homePlan : ∃ d h, @Compiled .plain (homePlan 100 []) d ∧
    @Applied .plain homeHost [(homePlan 100 [], .allOk)] h := by
  obtain ⟨d, hc⟩ := exists_compiled [] "degc" (vpnGateways 100) (by decide) (by decide)
  obtain ⟨rs, -, happly⟩ := @Clean.apply_of_lets .plain _ connected_homeHost.toClean _ d hc _
    (Env.lets_allOk d) (by decide)
  exact ⟨d, _, hc, @Applied.apply .plain _ _ _ _ _ _ _ (@Applied.start .plain _) hc happly⟩

omit [Libraries] in
/-- A plan can be applied again. -/
theorem preflight_again : ∃ d h, @Compiled .plain (homePlan 100 []) d ∧
    @Applied .plain homeHost [(homePlan 100 [], .allOk)] h ∧
    @Env.preflight .plain h d.guards = .ok () := by
  obtain ⟨d, h, hc, happlied⟩ := applied_homePlan
  exact ⟨d, h, hc, happlied,
    (@preflight_iff .plain _ _ connected_homeHost.toClean _ happlied _ _ hc).2
    (by decide)⟩

omit [Libraries] in
/-- When the table of a gateway changes, the check fails because of the rule to the old table. -/
theorem locked_out : ∃ d d' h, @Compiled .plain (homePlan 100 []) d ∧
    @Compiled .plain (homePlan 200 []) d' ∧ Clean homeHost ∧
    @Applied .plain homeHost [(homePlan 100 [], .allOk)] h ∧
    @Env.preflight .plain h d'.guards ≠ .ok () := by
  obtain ⟨d, h, hc, happlied⟩ := applied_homePlan
  obtain ⟨d', hc'⟩ := exists_compiled [] "degc" (vpnGateways 200) (by decide) (by decide)
  refine ⟨d, d', h, hc, hc', connected_homeHost.toClean, happlied, fun hcheck => ?_⟩
  obtain ⟨hk, hrules⟩ := @Applied.rules .plain _ _ connected_homeHost.toClean _ happlied
  have hfree := (@Kept.preflight .plain _ _ connected_homeHost.toClean hk _ _ hc').1 hcheck
  have hold : @Route.ruleOf .plain ((homePlan 100 []).gateways.get ⟨0, by decide⟩) ∈ h.fib.rules :=
    (hrules _).2 (Or.inr ⟨_, List.mem_singleton_self _, _, List.get_mem _ _, rfl, rfl⟩)
  have htable := @Route.Free.rules .plain _ _
    (hfree ((homePlan 200 []).gateways.get ⟨0, by decide⟩) (List.get_mem _ _)) _ hold fullMask
    (by decide)
  exact absurd htable.1 (by decide)

end Degc
