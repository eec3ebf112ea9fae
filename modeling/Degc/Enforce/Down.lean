import Degc.Enforce.Teardown
import Degc.Enforce.Tidy

/-!
# What taking down leaves behind

A configuration is reconciled with changing containers, whatever fails, and is then
taken down.  Taking down goes by the gateways of the configuration; the gateways that
containers declared by their labels are not among them, and an IPv6 default is not
removed at all.

The main result is `removed_iff`: what was installed is gone exactly when all rules
and floors that were let through are of gateways of the configuration, and no IPv6
default was.
-/

namespace Degc

open Net Text Fib

variable [Libraries]

/-! ### What is let through -/

omit [Libraries] in
/-- Whether a run goes on behind a command. -/
def Route.goes (env : Env) (c : Route.IpCmd) : Bool :=
  match env.ip c.args with
  | .notSpawned _ => false
  | .failed _ => c.ignoreFail
  | .ok () => true

lemma Route.goes_eq {env : Env} {gp : GatewayPlan} {c : Route.IpCmd} (hc : c ∈ Route.cmdsOf gp)
    (f : Fib) : (env.runIp c f).2 = Route.goes env c := by
  have hsnd : (env.runIp c f).2 = false ↔ _ := Route.runIp_snd hc f
  rw [Route.Fatal] at hsnd
  rw [Route.goes]
  cases hip : env.ip c.args with
  | notSpawned cause => simpa [hip] using hsnd
  | ok u => simpa [hip] using hsnd
  | failed stderr => cases hi : c.ignoreFail <;> simpa [hip, hi] using hsnd

omit [Libraries] in
/-- A run of commands reaches a command, and the command is let through. -/
def LetThrough (env : Env) (cs : List Route.IpCmd) (c : Route.IpCmd) : Prop :=
  c ∈ cs.takeWhile (Route.goes env) ∧ env.ip c.args = .ok ()

/-- What some commands of gateways bring about, and all others keep, is there after a run exactly
when it was there or one of these commands was let through. -/
lemma run_brings {env : Env} {gps : List GatewayPlan} {cs : List Route.IpCmd}
    (hcs : ∀ c ∈ cs, c ∈ gps.flatMap Route.cmdsOf) {P : Fib → Prop}
    {cmd : GatewayPlan → Route.IpCmd}
    {R : GatewayPlan → Prop}
    (hkeep : ∀ gp ∈ gps, ∀ c ∈ Route.cmdsOf gp, ∀ f, P f → P (env.runIp c f).1)
    (hbring : ∀ gp ∈ gps, R gp → env.ip (cmd gp).args = .ok () → ∀ f, P (env.runIp (cmd gp) f).1)
    (honly : ∀ gp ∈ gps, ∀ c ∈ Route.cmdsOf gp, ∀ f, P (env.runIp c f).1 →
      P f ∨ env.ip c.args = .ok () ∧ c = cmd gp ∧ R gp) (f : Fib) :
    P (Script.run env.runIp cs f).1 ↔
      P f ∨ ∃ gp ∈ gps, R gp ∧ LetThrough env cs (cmd gp) := by
  have hcmd : ∀ c ∈ cs, ∃ gp ∈ gps, c ∈ Route.cmdsOf gp := fun c hc =>
    List.mem_flatMap.1 (hcs c hc)
  have hreach : P (Script.run env.runIp cs f).1 ↔ P f ∨ ∃ c ∈ cs.takeWhile (Route.goes env),
      env.ip c.args = .ok () ∧ ∃ gp ∈ gps, c = cmd gp ∧ R gp := by
    refine Script.run_reached (P := P) (fun c hc f => ?_) (fun c hc f => ?_) ?_
    · obtain ⟨gp, -, hc⟩ := hcmd c hc
      exact Route.goes_eq hc f
    · obtain ⟨gp, hgp, hc⟩ := hcmd c hc
      constructor
      · intro h
        refine (honly gp hgp c hc f h).imp id ?_
        rintro ⟨hip, heq, hR⟩
        exact ⟨hip, gp, hgp, heq, hR⟩
      · rintro (h | ⟨hip, gp', hgp', rfl, hR⟩)
        · exact hkeep gp hgp c hc f h
        · exact hbring gp' hgp' hR hip f
    · rintro c - ⟨hip, -⟩
      rw [Route.goes, hip]
  rw [hreach]
  refine or_congr_right ⟨?_, ?_⟩
  · rintro ⟨c, hc, hip, gp, hgp, rfl, hR⟩
    exact ⟨gp, hgp, hR, hc, hip⟩
  · rintro ⟨gp, hgp, hR, hc, hip⟩
    exact ⟨cmd gp, hc, hip, gp, hgp, rfl, hR⟩

section Brought

variable {env : Env} {gps : List GatewayPlan} {cs : List Route.IpCmd}

/-- The rules that a run leaves. -/
lemma mem_rules_reached (hcs : ∀ c ∈ cs, c ∈ gps.flatMap Route.cmdsOf) (f : Fib) (r : Rule) :
    r ∈ (Script.run env.runIp cs f).1.rules ↔ r ∈ f.rules ∨ ∃ gp ∈ gps, r = Route.ruleOf gp ∧
      LetThrough env cs (Route.ruleCmd (Route.markText gp) (Route.tableText gp)) := by
  refine run_brings (P := fun f => r ∈ f.rules) hcs ?_ ?_ ?_ f
  · intro gp _ c hc f hr
    exact (Route.mem_rules_runIp env gp f hc r).2 (Or.inl hr)
  · intro gp _ hR hip f
    have hc : Route.ruleCmd (Route.markText gp) (Route.tableText gp) ∈ Route.cmdsOf gp := by
      simp [Route.cmdsOf]
    exact (Route.mem_rules_runIp env gp f hc r).2 (Or.inr ⟨rfl, hip, hR⟩)
  · intro gp _ c hc f hr
    refine ((Route.mem_rules_runIp env gp f hc r).1 hr).imp id ?_
    rintro ⟨heq, hip, hR⟩
    exact ⟨hip, heq, hR⟩

/-- The floor of a table. -/
def floorAt (table : ℕ) : Route := ⟨table, .default4, .blackhole, 194, 9999⟩

/-- No command of a gateway removes a floor. -/
lemma floorAt_effect {gp : GatewayPlan} {link : IpAddr → String} {f f' : Fib} {t : ℕ}
    (h : floorAt t ∈ f.routes) (he : Route.Effect gp f link f') : floorAt t ∈ f'.routes := by
  rcases he.routes_cases with heq | ⟨r, hr, heq⟩ | ⟨-, heq⟩ <;> rw [heq]
  · exact h
  · cases hsame : r.sameKey (floorAt t) with
    | false => exact mem_replaceRoute.2 (Or.inr ⟨h, hsame⟩)
    | true =>
        -- of what is put in place, only a floor has the key of a floor
        have hkey := Route.sameKey_iff.1 hsame
        rcases hr with rfl | hlive
        · exact mem_replaceRoute.2 (Or.inl (congrArg floorAt hkey.1.symm))
        · have hmetric := (Route.liveOf_eq_some hlive).2.1
          rw [hkey.2.2] at hmetric
          exact absurd hmetric (by simp [floorAt])
  · exact (List.mem_eraseP_of_neg (by simp [Route.isLive, floorAt])).2 h

/-- The floors that a run leaves. -/
lemma mem_floors_reached (hcs : ∀ c ∈ cs, c ∈ gps.flatMap Route.cmdsOf) (f : Fib) (t : ℕ) :
    floorAt t ∈ (Script.run env.runIp cs f).1.routes ↔ floorAt t ∈ f.routes ∨
      ∃ gp ∈ gps, Route.tableOf gp = t ∧
        LetThrough env cs (Route.floorCmd (Route.tableText gp)) := by
  refine run_brings (P := fun f => floorAt t ∈ f.routes) hcs ?_ ?_ ?_ f
  · intro gp _ c hc f h
    exact floorAt_effect h (Route.effect_of_mem env gp f hc)
  · intro gp _ ht hip f
    rw [Route.runIp_floor, hip]
    exact mem_replaceRoute.2 (Or.inl (congrArg floorAt ht.symm))
  · intro gp _ c hc f h
    rcases Route.mem_routes_runIp hc h with h | ⟨hip, ⟨heq, hfloor⟩ | ⟨-, hlive⟩⟩
    · exact Or.inl h
    · exact Or.inr ⟨hip, heq, (congrArg Route.table hfloor).symm⟩
    · -- a live default has another metric
      exact absurd (Route.liveOf_eq_some hlive).2.1 (by simp [floorAt])

/-- A route of IPv6 with the protocol tag. -/
def HasTagged6 (f : Fib) : Prop := ∃ r ∈ f.routes, r.proto = 194 ∧ r.dst.addr.isIpv4 = false

/-- No command of a gateway removes the IPv6 routes. -/
lemma HasTagged6.effect {gp : GatewayPlan} {link : IpAddr → String} {f f' : Fib}
    (h : HasTagged6 f) (he : Route.Effect gp f link f') : HasTagged6 f' := by
  obtain ⟨r, hr, hproto, h6⟩ := h
  rw [HasTagged6]
  rcases he.routes_cases with heq | ⟨r', hr', heq⟩ | ⟨-, heq⟩ <;> rw [heq]
  · exact ⟨r, hr, hproto, h6⟩
  · cases hsame : r'.sameKey r with
    | false => exact ⟨r, mem_replaceRoute.2 (Or.inr ⟨hr, hsame⟩), hproto, h6⟩
    | true =>
        -- the route in its place is of the same destination
        refine ⟨r', mem_replaceRoute.2 (Or.inl rfl), (Route.tagged_of_put hr').2, ?_⟩
        rw [(Route.sameKey_iff.1 hsame).2.1]
        exact h6
  · refine ⟨r, (List.mem_eraseP_of_neg fun hlive => ?_).2 hr, hproto, h6⟩
    simp only [Route.isLive, Bool.and_eq_true, beq_iff_eq] at hlive
    rw [hlive.1.1.2] at h6
    exact absurd h6 (by decide)

omit [Libraries] in
/-- A live default of IPv6 is by way of an IPv6 address. -/
lemma nextHop_of_live6 {link : IpAddr → String} {gp : GatewayPlan} {r : Route}
    (h : Route.liveOf link gp = some r) (h6 : r.dst.addr.isIpv4 = false) :
    ∃ ip, gp.egress = .nextHop ip ∧ ip.isIpv4 = false := by
  rw [Route.liveOf] at h
  cases he : gp.egress with
  | interface iface =>
      rw [he] at h
      obtain rfl := Option.some.inj h
      exact absurd h6 (by simp [Cidr.default4, IpAddr.isIpv4])
  | nextHop ip =>
      rw [he] at h
      obtain rfl := Option.some.inj h
      refine ⟨ip, rfl, ?_⟩
      cases h4 : ip.isIpv4 with
      | false => rfl
      | true =>
          simp only [IpAddr.isIpv6_eq_not, h4] at h6
          exact absurd h6 (by decide)
  | unavailable why => simp [he] at h

/-- Whether a run leaves IPv6 routes with the protocol tag. -/
lemma tagged6_reached (hcs : ∀ c ∈ cs, c ∈ gps.flatMap Route.cmdsOf) (f : Fib) :
    HasTagged6 (Script.run env.runIp cs f).1 ↔ HasTagged6 f ∨
      ∃ gp ∈ gps, (∃ ip, gp.egress = .nextHop ip ∧ ip.isIpv4 = false) ∧
        LetThrough env cs (Route.liveCmd (Route.tableText gp) gp.egress) := by
  refine run_brings (P := HasTagged6) hcs ?_ ?_ ?_ f
  · intro gp _ c hc f h
    exact h.effect (Route.effect_of_mem env gp f hc)
  · rintro gp - ⟨ip, hegress, h6⟩ hip f
    rw [Route.runIp_live, hip]
    simp only [Route.setLive, Route.liveOf, hegress]
    refine ⟨_, mem_replaceRoute.2 (Or.inl rfl), rfl, ?_⟩
    simp only [IpAddr.isIpv6_eq_not, h6]
    decide
  · rintro gp _ c hc f ⟨r, hr, hproto, h6⟩
    rcases Route.mem_routes_runIp hc hr with hr | ⟨hip, ⟨-, rfl⟩ | ⟨heq, hlive⟩⟩
    · exact Or.inl ⟨r, hr, hproto, h6⟩
    · exact absurd h6 (by simp [Route.floorOf, Cidr.default4, IpAddr.isIpv4])
    · exact Or.inr ⟨hip, heq, nextHop_of_live6 hlive h6⟩

end Brought

/-! ### Reconciling a configuration -/

/-- A host that is reached from another one by reconciling a configuration with any containers,
and the runs of commands that this took: of which plan, with what environment, and how far. -/
inductive Reconciled (pfx : String) (gws : Gateways) (h₀ : Host) :
    List (Plan × Env × List Route.IpCmd) → Host → Prop
  | start : Reconciled pfx gws h₀ [] h₀
  | refused {past : List (Plan × Env × List Route.IpCmd)} {h : Host} {targets : List Target}
      {d : Desired} (hr : Reconciled pfx gws h₀ past h)
      (hd : Enforce.compile (Plan.compile targets pfx gws) = .ok d) (env : Env) (k : ℕ)
      (hsame : (Enforce.apply env.world (d.upTo k) h).1 = h) :
      Reconciled pfx gws h₀ past (Enforce.apply env.world (d.upTo k) h).1
  | run {past : List (Plan × Env × List Route.IpCmd)} {h : Host} {targets : List Target}
      {d : Desired} (hr : Reconciled pfx gws h₀ past h)
      (hd : Enforce.compile (Plan.compile targets pfx gws) = .ok d) (env : Env) (k : ℕ)
      {rs : Netfilter.Ruleset} (hrun : (Enforce.apply env.world (d.upTo k) h).1 =
        ⟨rs, (Script.run env.runIp (d.ip.take k) h.fib).1⟩) :
      Reconciled pfx gws h₀ (past ++ [(Plan.compile targets pfx gws, env, d.ip.take k)])
        (Enforce.apply env.world (d.upTo k) h).1

/-- The routes with the protocol tag are of tables with floors. -/
def Guarded (f : Fib) : Prop :=
  ∀ r ∈ f.routes, r.proto = 194 → r.dst.addr.isIpv4 = true → floorAt r.table ∈ f.routes

/-- Running the commands of a gateway, as far as one gets. -/
lemma Guarded.run {f : Fib} (h : Guarded f) (env : Env) (gp : GatewayPlan) (k : ℕ) :
    Guarded (Script.run env.runIp ((Route.cmdsOf gp).take k) f).1 := by
  have hstep : ∀ {f f' : Fib}, Guarded f → floorAt (Route.tableOf gp) ∈ f'.routes →
      Route.Effect gp f env.link f' → Guarded f' := by
    intro f f' hf hfloor he r hr hproto h4
    rcases he.mem_routes hr with hr | rfl | hl
    · exact floorAt_effect (hf r hr hproto h4) he
    · exact hfloor
    · rw [(Route.liveOf_eq_some hl).1]
      exact hfloor
  have hthere : floorAt (Route.tableOf gp) ∈ replaceRoute (Route.floorOf gp) f.routes :=
    mem_replaceRoute.2 (Or.inl rfl)
  refine Route.run_behind_floor (Q := fun f => Guarded f ∧ floorAt (Route.tableOf gp) ∈ f.routes) h
    ⟨hstep h hthere .floor, hthere⟩ (fun _ hf => hf.1) (fun c hc f hf => ?_) k
  have he := Route.effect_of_mem env gp f hc
  exact ⟨hstep hf.1 (floorAt_effect hf.2 he) he, floorAt_effect hf.2 he⟩

section Reconciled

variable {pfx : String} {gws : Gateways} {h₀ h : Host}
  {past : List (Plan × Env × List Route.IpCmd)}

/-- A host that is reached by reconciling is a reached host. -/
lemma Reconciled.reachable (hvalid : gws.validate = .ok ()) (hr : Reconciled pfx gws h₀ past h) :
    Reachable h₀ h := by
  induction hr with
  | start => exact .start
  | @refused past h targets d _ hd env k _ ih =>
      exact .apply ih ⟨pfx, gws, targets, hvalid, rfl, hd⟩ env k
  | @run past h targets d _ hd env k rs _ ih =>
      exact .apply ih ⟨pfx, gws, targets, hvalid, rfl, hd⟩ env k

/-- What the runs leave. -/
structure Left (h₀ h : Host) (past : List (Plan × Env × List Route.IpCmd)) : Prop where
  rules : ∀ r, r ∈ h.fib.rules ↔ r ∈ h₀.fib.rules ∨ ∃ run ∈ past, ∃ gp ∈ run.1.gateways,
    r = Route.ruleOf gp ∧
      LetThrough run.2.1 run.2.2 (Route.ruleCmd (Route.markText gp) (Route.tableText gp))
  floors : ∀ t, floorAt t ∈ h.fib.routes ↔ ∃ run ∈ past, ∃ gp ∈ run.1.gateways,
    Route.tableOf gp = t ∧ LetThrough run.2.1 run.2.2 (Route.floorCmd (Route.tableText gp))
  tagged6 : HasTagged6 h.fib ↔ ∃ run ∈ past, ∃ gp ∈ run.1.gateways,
    (∃ ip, gp.egress = .nextHop ip ∧ ip.isIpv4 = false) ∧
      LetThrough run.2.1 run.2.2 (Route.liveCmd (Route.tableText gp) gp.egress)
  guarded : Guarded h.fib

lemma Reconciled.left (hclean : Clean h₀) (hr : Reconciled pfx gws h₀ past h) :
    Left h₀ h past := by
  induction hr with
  | start =>
      refine ⟨by simp, fun t => ?_, ?_, fun r hr hproto => absurd hproto (hclean.proto r hr)⟩
      · exact iff_of_false (fun hmem => hclean.proto _ hmem rfl) (by simp)
      · refine iff_of_false ?_ (by simp)
        rintro ⟨r, hr, hproto, -⟩
        exact hclean.proto r hr hproto
  | @refused past h targets d _ hd env k hsame ih => rwa [hsame]
  | @run past h targets d _ hd env k rs hrun ih =>
      have hip := (Route.compile_ip hd).1
      have hcs : ∀ c ∈ d.ip.take k,
          c ∈ (Plan.compile targets pfx gws).gateways.flatMap Route.cmdsOf := fun c hc =>
        hip ▸ List.mem_of_mem_take hc
      rw [hrun]
      refine ⟨fun r => ?_, fun t => ?_, ?_, ?_⟩
      · simp only [mem_rules_reached hcs, ih.rules, List.mem_append, List.mem_singleton, or_assoc,
          or_and_right, exists_or, exists_eq_left]
      · simp only [mem_floors_reached hcs, ih.floors, List.mem_append, List.mem_singleton,
          or_and_right, exists_or, exists_eq_left]
      · simp only [tagged6_reached hcs, ih.tagged6, List.mem_append, List.mem_singleton,
          or_and_right, exists_or, exists_eq_left]
      · rw [hip]
        exact Script.run_take_flatMap (fun gp _ k f hf => hf.run env gp k) ih.guarded k

/-- Nothing that was installed is there: no table, no rule that is not of the host itself, and no
route with the protocol tag. -/
structure Removed (h₀ h : Host) : Prop where
  table : h.nft["inet degc"]? = none
  rules : ∀ r ∈ h.fib.rules, r ∈ h₀.fib.rules
  routes : ∀ r ∈ h.fib.routes, r.proto ≠ 194

/-- The rules that are still there when gateways are taken down. -/
lemma mem_foldl_eraseP {gws : Gateways} {rules : List Rule}
    (h : ∀ g ∈ gws, rules.Pairwise fun a b => Route.isRule g a = true → Route.isRule g b = false)
    (r : Rule) : r ∈ gws.foldl (fun rules g => rules.eraseP (Route.isRule g)) rules ↔
      r ∈ rules ∧ ∀ g ∈ gws, Route.isRule g r = false := by
  induction gws generalizing rules with
  | nil => simp
  | cons g gws ih =>
      rw [List.forall_mem_cons] at h
      rw [List.foldl_cons, eraseP_eq_filter h.1, ih fun g' hg' => (h.2 g' hg').filter _,
        List.mem_filter, List.forall_mem_cons, Bool.not_eq_true', and_assoc]

/-- On a reached host no two rules are from the mark of a gateway to its table. -/
lemma Reachable.pairwise_isRule {h₀ h : Host} (hclean : Clean h₀) (hr : Reachable h₀ h)
    (g : Gateway) : h.fib.rules.Pairwise fun a b =>
      Route.isRule g a = true → Route.isRule g b = false := by
  obtain ⟨ms, hms, hours⟩ := (hr.kept hclean).rules
  have hprio : ∀ r ∈ h.fib.rules, Route.isRule g r = true → r.prio = 100 := by
    intro r hr hrule
    rw [hms] at hr
    simp only [List.mem_cons, List.mem_append, List.not_mem_nil, or_false] at hr
    rcases hr with rfl | hr | rfl | rfl
    · exact absurd hrule (by simp [Route.isRule, localRule])
    · exact (hours r hr).1
    · exact absurd hrule (by simp [Route.isRule, mainRule])
    · exact absurd hrule (by simp [Route.isRule, defaultRule])
  refine List.Pairwise.imp_of_mem (fun {a b} ha hb hne hrule => ?_) (hr.tidy hclean).rules
  by_contra hrule'
  rw [Bool.not_eq_false] at hrule'
  have hpa := hprio a ha hrule
  have hpb := hprio b hb hrule'
  simp only [Route.isRule, Bool.and_eq_true, beq_iff_eq] at hrule hrule'
  apply hne
  obtain ⟨prio, mark, table⟩ := a
  obtain ⟨prio', mark', table'⟩ := b
  rw [Rule.mk.injEq]
  exact ⟨hpa.trans hpb.symm, hrule.1.trans hrule'.1.symm, hrule.2.trans hrule'.2.symm⟩

/-- Taking a configuration down removes everything exactly when what is there is of the
configuration. -/
lemma Reachable.removed_down_iff {h₀ h : Host} (hclean : Clean h₀) (hr : Reachable h₀ h)
    {gws : Gateways} (hvalid : gws.validate = .ok ()) {env : Env}
    (hnft : env.nft Nft.teardownScript = .ok ())
    (hip : ∀ g ∈ gws, ∀ c ∈ Route.downCmdsOf g, env.ip c.args = .ok ()) :
    Removed h₀ (Enforce.down env.world gws h).1 ↔
      (∀ r ∈ h.fib.rules, r ∈ h₀.fib.rules ∨ ∃ g ∈ gws, Route.isRule g r = true) ∧
      ∀ r ∈ h.fib.routes, r.proto = 194 → ∃ g ∈ gws, Route.isFlushed g r = true := by
  obtain ⟨rs, hnone, hdown⟩ :=
    Route.down_of_lets (Gateways.validate_eq_ok.1 hvalid).gateways hnft h
  rw [hdown, Route.run_down hip]
  have hrules := mem_foldl_eraseP fun g (_ : g ∈ gws) => hr.pairwise_isRule hclean g
  constructor
  · rintro ⟨-, hnorules, hnoroutes⟩
    refine ⟨fun r hr => ?_, fun r hr hproto => ?_⟩
    · by_contra hnot
      push Not at hnot
      exact hnot.1 (hnorules r ((hrules r).2 ⟨hr, fun g hg => by simpa using hnot.2 g hg⟩))
    · by_contra hnot
      push Not at hnot
      exact hnoroutes r (List.mem_filter.2 ⟨hr, List.all_eq_true.2 fun g hg => by
        simpa using hnot g hg⟩) hproto
  · rintro ⟨hownrules, hownroutes⟩
    refine ⟨hnone, fun r hr => ?_, fun r hr hproto => ?_⟩
    · obtain ⟨hmem, hnot⟩ := (hrules r).1 hr
      refine (hownrules r hmem).resolve_right ?_
      rintro ⟨g, hg, hrule⟩
      rw [hnot g hg] at hrule
      exact absurd hrule (by simp)
    · obtain ⟨hmem, hnot⟩ := List.mem_filter.1 hr
      obtain ⟨g, hg, hin⟩ := hownroutes r hmem hproto
      have hstays := List.all_eq_true.1 hnot g hg
      simp [hin] at hstays

/-- The rules that runs leave are of a configuration when those that were let through are. -/
lemma Left.rules_iff (hleft : Left h₀ h past) (hclean : Clean h₀) :
    (∀ r ∈ h.fib.rules, r ∈ h₀.fib.rules ∨ ∃ g ∈ gws, Route.isRule g r = true) ↔
      ∀ run ∈ past, ∀ gp ∈ run.1.gateways,
        LetThrough run.2.1 run.2.2 (Route.ruleCmd (Route.markText gp) (Route.tableText gp)) →
          ∃ g ∈ gws, g.tableId = gp.gateway.tableId ∧
            g.effectiveMark = gp.gateway.effectiveMark := by
  constructor
  · intro hown run hrun gp hgp hlet
    have hmem := (hleft.rules _).2 (Or.inr ⟨run, hrun, gp, hgp, rfl, hlet⟩)
    obtain ⟨g, hg, hrule⟩ := (hown _ hmem).resolve_left (hclean.ruleOf_not_mem gp)
    exact ⟨g, hg, Route.isRule_ruleOf.1 hrule⟩
  · intro hcond r hr
    refine ((hleft.rules r).1 hr).imp_right ?_
    rintro ⟨run, hrun, gp, hgp, rfl, hlet⟩
    obtain ⟨g, hg, heq⟩ := hcond run hrun gp hgp hlet
    exact ⟨g, hg, Route.isRule_ruleOf.2 heq⟩

/-- The tagged routes that runs leave are of a configuration when the floors that were let through
are, and no live default of IPv6 was. -/
lemma Left.routes_iff (hleft : Left h₀ h past) :
    (∀ r ∈ h.fib.routes, r.proto = 194 → ∃ g ∈ gws, Route.isFlushed g r = true) ↔
      ∀ run ∈ past, ∀ gp ∈ run.1.gateways,
        (LetThrough run.2.1 run.2.2 (Route.floorCmd (Route.tableText gp)) →
          ∃ g ∈ gws, g.tableId = gp.gateway.tableId) ∧
        (LetThrough run.2.1 run.2.2 (Route.liveCmd (Route.tableText gp) gp.egress) →
          ∀ ip, gp.egress = .nextHop ip → ip.isIpv4 = true) := by
  constructor
  · intro hflushed run hrun gp hgp
    refine ⟨fun hlet => ?_, fun hlet ip hegress => ?_⟩
    · have hfloor := (hleft.floors (Route.tableOf gp)).2 ⟨run, hrun, gp, hgp, rfl, hlet⟩
      obtain ⟨g, hg, hin⟩ := hflushed _ hfloor rfl
      simp only [Route.isFlushed, Bool.and_eq_true, beq_iff_eq] at hin
      exact ⟨g, hg, (UInt32.toNat_inj.1 hin.1.1).symm⟩
    · by_contra h6
      obtain ⟨r, hr, hproto, h6⟩ :=
        hleft.tagged6.2 ⟨run, hrun, gp, hgp, ⟨ip, hegress, by simpa using h6⟩, hlet⟩
      obtain ⟨g, -, hin⟩ := hflushed r hr hproto
      simp [Route.isFlushed, h6] at hin
  · intro hcond r hr hproto
    cases h4 : r.dst.addr.isIpv4 with
    | false =>
        obtain ⟨run, hrun, gp, hgp, ⟨ip, hegress, h6⟩, hlet⟩ :=
          hleft.tagged6.1 ⟨r, hr, hproto, h4⟩
        have hfour := (hcond run hrun gp hgp).2 hlet ip hegress
        rw [h6] at hfour
        exact absurd hfour (by simp)
    | true =>
        obtain ⟨run, hrun, gp, hgp, htable, hlet⟩ :=
          (hleft.floors r.table).1 (hleft.guarded r hr hproto h4)
        obtain ⟨g, hg, heq⟩ := (hcond run hrun gp hgp).1 hlet
        exact ⟨g, hg, by simp [Route.isFlushed, hproto, h4, ← htable, Route.tableOf, heq]⟩

/-- After reconciling a configuration, whatever happened, taking it down removes everything exactly
when all rules and floors that were let through are of marks and tables of the configuration, and
no live default of IPv6 was. -/
theorem removed_iff (hvalid : gws.validate = .ok ()) (hclean : Clean h₀)
    (hr : Reconciled pfx gws h₀ past h) {env : Env} (hnft : env.nft Nft.teardownScript = .ok ())
    (hip : ∀ g ∈ gws, ∀ c ∈ Route.downCmdsOf g, env.ip c.args = .ok ()) :
    Removed h₀ (Enforce.down env.world gws h).1 ↔ ∀ run ∈ past, ∀ gp ∈ run.1.gateways,
      (LetThrough run.2.1 run.2.2 (Route.floorCmd (Route.tableText gp)) →
        ∃ g ∈ gws, g.tableId = gp.gateway.tableId) ∧
      (LetThrough run.2.1 run.2.2 (Route.ruleCmd (Route.markText gp) (Route.tableText gp)) →
        ∃ g ∈ gws, g.tableId = gp.gateway.tableId ∧
          g.effectiveMark = gp.gateway.effectiveMark) ∧
      (LetThrough run.2.1 run.2.2 (Route.liveCmd (Route.tableText gp) gp.egress) →
        ∀ ip, gp.egress = .nextHop ip → ip.isIpv4 = true) := by
  have hleft := hr.left hclean
  rw [(hr.reachable hvalid).removed_down_iff hclean hvalid hnft hip, hleft.rules_iff hclean,
    hleft.routes_iff]
  constructor
  · rintro ⟨hrules, hroutes⟩ run hrun gp hgp
    obtain ⟨hfloor, hlive⟩ := hroutes run hrun gp hgp
    exact ⟨hfloor, hrules run hrun gp hgp, hlive⟩
  · intro hcond
    refine ⟨fun run hrun gp hgp => (hcond run hrun gp hgp).2.1, fun run hrun gp hgp => ?_⟩
    obtain ⟨hfloor, -, hlive⟩ := hcond run hrun gp hgp
    exact ⟨hfloor, hlive⟩

end Reconciled

/-! ### A gateway of a container -/

section Declared

omit [Libraries]

/-- A container that declares a gateway by its labels. -/
def gluetunTargets : List Target :=
  [.ofLists "gluetun" [("degc.gateway", "vpn"), ("degc.gateway.mark", "0x4"),
    ("degc.gateway.table", "100")] [("services", [.v4 0xac120002])]]

/-- Reconciling a configuration once, where nothing fails. -/
lemma reconciled_once (targets : List Target) (gws : Gateways)
    (hvalid : @Gateways.validate .plain gws = .ok ())
    (hok : (@Enforce.compile .plain (@Plan.compile .plain targets "degc" gws)).isOk = true)
    (htables : ∀ gp ∈ (@Plan.compile .plain targets "degc" gws).gateways,
      ∀ r ∈ homeHost.fib.routes, r.dst.addr.isIpv4 = true → r.table ≠ Route.tableOf gp) :
    ∃ cs rs,
      cs = (@Plan.compile .plain targets "degc" gws).gateways.flatMap (@Route.cmdsOf .plain) ∧
      @Reconciled .plain "degc" gws homeHost [(@Plan.compile .plain targets "degc" gws, .allOk, cs)]
        ⟨rs, (Script.run Env.allOk.runIp cs homeHost.fib).1⟩ := by
  obtain ⟨d, hc⟩ := exists_compiled targets "degc" gws hvalid hok
  obtain ⟨rs, -, happly⟩ := @Clean.apply_of_lets .plain _ connected_homeHost.toClean _ d hc _
    (Env.lets_allOk d) htables
  have hrun := @Reconciled.run .plain "degc" gws homeHost [] homeHost targets d
    (@Reconciled.start .plain _ _ _) (@Compiled.compile .plain _ _ hc) Env.allOk d.ip.length rs
  rw [Desired.upTo_length, happly, List.take_length] at hrun
  exact ⟨d.ip, rs, @Compiled.ip .plain _ _ hc, hrun rfl⟩

/-- The gateway of a configuration is removed. -/
theorem removed_homePlan : ∃ cs h, @Reconciled .plain "degc" (vpnGateways 100) homeHost
      [(homePlan 100 [], .allOk, cs)] h ∧
    Removed homeHost (@Enforce.down .plain _ Env.allOk.world (vpnGateways 100) h).1 := by
  obtain ⟨cs, rs, -, hr⟩ := reconciled_once [] (vpnGateways 100) (by decide) (by decide) (by decide)
  have hown : ∀ gp ∈ (homePlan 100 []).gateways, (∃ g ∈ vpnGateways 100,
      g.tableId = gp.gateway.tableId ∧ @Gateway.effectiveMark .plain g =
        @Gateway.effectiveMark .plain gp.gateway) ∧ gp.egress = .nextHop (.v4 0xac120002) := by
    decide
  refine ⟨cs, _, hr, (@removed_iff .plain "degc" (vpnGateways 100) _ _ _ (by decide)
    connected_homeHost.toClean hr Env.allOk rfl fun _ _ _ _ => rfl).2 ?_⟩
  intro run hrun gp hgp
  obtain rfl := List.mem_singleton.1 hrun
  obtain ⟨⟨g, hg, htable, hmark⟩, hegress⟩ := hown gp hgp
  refine ⟨fun _ => ⟨g, hg, htable⟩, fun _ => ⟨g, hg, htable, hmark⟩, fun _ ip hip => ?_⟩
  rw [hegress] at hip
  obtain rfl := Egress.nextHop.inj hip
  rfl

/-- A gateway that a container declared is still there when the configuration is taken down. -/
theorem not_removed : @Gateways.validate .plain [] = .ok () ∧ Clean homeHost ∧
    ∃ past h, @Reconciled .plain "degc" [] homeHost past h ∧
      ¬ Removed homeHost (@Enforce.down .plain _ Env.allOk.world [] h).1 := by
  obtain ⟨cs, rs, hcs, hr⟩ := reconciled_once gluetunTargets [] (by decide) (by decide) (by decide)
  refine ⟨by decide, connected_homeHost.toClean, _, _, hr, fun hremoved => ?_⟩
  obtain ⟨rs', -, hdown⟩ := @Route.down_of_lets .plain Env.allOk [] (by simp) rfl
    ⟨rs, (Script.run Env.allOk.runIp cs homeHost.fib).1⟩
  have hrule : ⟨100, some (4, fullMask), 100⟩ ∈ (Script.run Env.allOk.runIp
      ((@Plan.compile .plain gluetunTargets "degc" []).gateways.flatMap (@Route.cmdsOf .plain))
      homeHost.fib).1.rules := by
    decide +kernel
  have hrules := hremoved.rules
  rw [hdown, hcs] at hrules
  exact absurd (hrules _ hrule) (by decide)

end Declared

end Degc
