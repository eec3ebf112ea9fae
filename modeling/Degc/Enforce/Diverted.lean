import Degc.Enforce.Isolation
import Degc.Enforce.Reachable

/-!
# What success means

Running the commands reports success also when the command for a rule, or for the
removal of a live default, fails.  Such a failure is harmless when the rule is there
already, or when there is no live default to remove, and goes unnoticed otherwise.

The main result is `diverted_iff`: success means that every gateway is set up as its
egress asks exactly when some command stops the run or no ignored failure does harm.  A
live default of the other address family is not looked at by any command.
-/

namespace Degc.Route

open Net Text Fib

variable [Libraries]

/-- A gateway is set up as its egress asks: the rule and the floor are there, and the live default
is the one of the egress, or there is none. -/
structure Diverted (link : IpAddr → String) (gp : GatewayPlan) (f : Fib) : Prop where
  rule : ruleOf gp ∈ f.rules
  floor : floorOf gp ∈ f.routes
  live : ∀ r, liveOf link gp = some r → slot r.table r.dst r.metric f.routes = [r]
  none : liveOf link gp = none → ∀ r ∈ f.routes, isLive gp r = false

/-- The failures that are ignored do no harm to a gateway: its rule is let through or is there
already, and the removal of the live default is let through or there is none. -/
def Harmless (env : Env) (gp : GatewayPlan) (f : Fib) : Prop :=
  (ruleOf gp ∈ f.rules ∨ env.ip (ruleCmd (markText gp) (tableText gp)).args = .ok ()) ∧
    ((∃ why, gp.egress = .unavailable why) → (∀ r ∈ f.routes, isLive gp r = false) ∨
      env.ip (liveCmd (tableText gp) gp.egress).args = .ok ())

omit [Libraries] in
/-- The default of the address family that the egress of a gateway does not use. -/
def otherDst (gp : GatewayPlan) : Cidr :=
  match gp.egress with
  | .nextHop ip => if ip.isIpv6 then .default4 else .default6
  | _ => .default6

omit [Libraries] in
/-- A live default in the table of a gateway, of one of the address families. -/
def IsLiveDefault (gp : GatewayPlan) (r : Route) : Prop :=
  r.table = tableOf gp ∧ (r.dst = .default4 ∨ r.dst = .default6) ∧ r.proto = 194 ∧ r.metric = 1

omit [Libraries] in
/-- There is no live default in the table of a gateway but the one of its egress. -/
def Sole (link : IpAddr → String) (gp : GatewayPlan) (f : Fib) : Prop :=
  ∀ r ∈ f.routes, IsLiveDefault gp r → liveOf link gp = some r

omit [Libraries] in
/-- There is no live default of the other address family in the table of a gateway. -/
def NoOther (gp : GatewayPlan) (f : Fib) : Prop :=
  ∀ r ∈ f.routes, IsLiveDefault gp r → r.dst ≠ otherDst gp

omit [Libraries] in
lemma liveOf_eq_none {link : IpAddr → String} {gp : GatewayPlan} :
    liveOf link gp = none ↔ ∃ why, gp.egress = .unavailable why := by
  rw [liveOf]
  cases gp.egress <;> simp

omit [Libraries] in
lemma isLive_iff {gp : GatewayPlan} {r : Route} :
    isLive gp r = true ↔
      r.table = tableOf gp ∧ r.dst = .default4 ∧ r.proto = 194 ∧ r.metric = 1 := by
  simp [isLive, and_assoc]

/-- The live defaults are looked for among the routes of their key. -/
lemma forall_isLive_iff {gp : GatewayPlan} {f : Fib} :
    (∀ r ∈ f.routes, isLive gp r = false) ↔ ∀ r ∈ (held gp f).live, isLive gp r = false := by
  refine ⟨fun h r hr => h r (mem_slot.1 hr).1, fun h r hr => ?_⟩
  by_contra hlive
  rw [Bool.not_eq_false] at hlive
  have hkey := isLive_iff.1 hlive
  have hfalse := h r (mem_slot.2 ⟨hr, hkey.1, hkey.2.1, hkey.2.2.2⟩)
  rw [hlive] at hfalse
  exact absurd hfalse (by simp)

/-- Where the keys of the tagged routes are apart, removing a live default leaves none. -/
lemma forall_eraseP_isLive {gp : GatewayPlan} {f : Fib}
    (hkeyed : Keyed (f.routes.filter (·.proto == 194))) :
    ∀ r ∈ (held gp f).live.eraseP (isLive gp), isLive gp r = false := by
  -- two live defaults would have one key
  have hone : (held gp f).live.Pairwise fun r r' => isLive gp r = true → isLive gp r' = false := by
    refine ((List.pairwise_filter.1 hkeyed).sublist List.filter_sublist).imp fun h hr => ?_
    by_contra hr'
    rw [Bool.not_eq_false] at hr'
    obtain ⟨htable, hdst, hproto, hmetric⟩ := isLive_iff.1 hr
    obtain ⟨htable', hdst', hproto', hmetric'⟩ := isLive_iff.1 hr'
    have hne := h (beq_iff_eq.2 hproto) (beq_iff_eq.2 hproto')
    rw [Route.sameKey_iff.2 ⟨htable.trans htable'.symm, hdst.trans hdst'.symm,
      hmetric.trans hmetric'.symm⟩] at hne
    exact absurd hne (by simp)
  intro r hr
  rw [eraseP_eq_filter hone, List.mem_filter] at hr
  simpa using hr.2

section Gone

variable {env : Env} {gp : GatewayPlan} {f f' : Fib}

/-- Commands none of which stops the run do not stop it. -/
lemma run_of_not_fatal (hgoes : ∀ c ∈ cmdsOf gp, ¬ Fatal env c) :
    (Script.run env.runIp (cmdsOf gp) f).2 = true := by
  by_contra hstop
  have hone : (Script.run env.runIp ([gp].flatMap cmdsOf) f).2 = false := by
    simpa using hstop
  obtain ⟨gp', hgp', c, hc, hfatal⟩ := stops_iff.1 hone
  obtain rfl := List.mem_singleton.1 hgp'
  exact hgoes c hc hfatal

omit [Libraries] in
/-- The command that puts a live default in place may not fail. -/
lemma ignoreFail_of_live {r : Route} (hr : liveOf env.link gp = some r) :
    (liveCmd (tableText gp) gp.egress).ignoreFail = false := by
  rw [liveOf] at hr
  cases he : gp.egress with
  | interface iface => rfl
  | nextHop ip => rfl
  | unavailable why => simp [he] at hr

/-- Behind a run that does not stop, the live default is that of the egress. -/
lemma slot_of_held (hgoes : ∀ c ∈ cmdsOf gp, ¬ Fatal env c)
    (hheld : held gp f' = held gp (Script.run env.runIp (cmdsOf gp) f).1) {r : Route}
    (hr : liveOf env.link gp = some r) : slot r.table r.dst r.metric f'.routes = [r] := by
  rw [held_run_of_goes (run_of_not_fatal hgoes)] at hheld
  have hip : env.ip (liveCmd (tableText gp) gp.egress).args = .ok () := by
    have hnot := hgoes (liveCmd (tableText gp) gp.egress) (by simp [cmdsOf])
    cases hran : env.ip (liveCmd (tableText gp) gp.egress).args with
    | ok u => rfl
    | failed stderr => exact absurd (Or.inr ⟨ignoreFail_of_live hr, stderr, hran⟩) hnot
    | notSpawned cause => exact absurd (Or.inl ⟨cause, hran⟩) hnot
  rw [hip] at hheld
  obtain ⟨htable, hmetric, -, hdst⟩ := liveOf_eq_some hr
  rcases hdst with hdst | hdst
  · have hlive := congrArg Held.live hheld
    rw [htable, hmetric, hdst]
    change (held gp f').live = [r]
    simpa [Held.setLive, liveAfter, hr, hdst] using hlive
  · have hlive := congrArg Held.live6 hheld
    rw [htable, hmetric, hdst]
    change (held gp f').live6 = [r]
    simpa [Held.setLive, liveAfter, hr, hdst] using hlive

/-- Behind a run that does not stop, there is no live default for an egress that is unavailable
when there was none before or the command that removes it was let through. -/
lemma isLive_of_held (hgoes : ∀ c ∈ cmdsOf gp, ¬ Fatal env c)
    (hheld : held gp f' = held gp (Script.run env.runIp (cmdsOf gp) f).1)
    (hkeyed : Keyed (f.routes.filter (·.proto == 194))) (hl : liveOf env.link gp = none) :
    (∀ r ∈ f'.routes, isLive gp r = false) ↔ (∀ r ∈ f.routes, isLive gp r = false) ∨
      env.ip (liveCmd (tableText gp) gp.egress).args = .ok () := by
  rw [held_run_of_goes (run_of_not_fatal hgoes)] at hheld
  rw [forall_isLive_iff, hheld]
  cases hip : env.ip (liveCmd (tableText gp) gp.egress).args with
  | ok u =>
      have hlive : liveAfter env.link gp .default4 (held gp f).live =
          (held gp f).live.eraseP (isLive gp) := by
        simp [liveAfter, hl]
      simpa [Held.setLive, hlive] using forall_eraseP_isLive hkeyed
  | failed stderr => simpa using forall_isLive_iff.symm
  | notSpawned cause => simpa using forall_isLive_iff.symm

/-- A run of the commands of a gateway that does not stop sets the gateway up exactly when the
failures it ignores do no harm. -/
lemma diverted_iff_harmless (hkeyed : Keyed (f.routes.filter (·.proto == 194)))
    (hgoes : ∀ c ∈ cmdsOf gp, ¬ Fatal env c)
    (hheld : held gp f' = held gp (Script.run env.runIp (cmdsOf gp) f).1) :
    Diverted env.link gp f' ↔ Harmless env gp f := by
  have hset := hheld.trans (held_run_of_goes (run_of_not_fatal hgoes))
  have hfloor : floorOf gp ∈ f'.routes := by
    have hslot : (held gp f').floor = [floorOf gp] := by
      rw [hset]
      split <;> rfl
    exact (mem_slot.1 (hslot ▸ List.mem_singleton_self _ : floorOf gp ∈ (held gp f').floor)).1
  have hrule : ruleOf gp ∈ f'.rules ↔
      ruleOf gp ∈ f.rules ∨ env.ip (ruleCmd (markText gp) (tableText gp)).args = .ok () := by
    have hdec : (held gp f').rule = decide (ruleOf gp ∈ f.rules ∨
        env.ip (ruleCmd (markText gp) (tableText gp)).args = .ok ()) := by
      rw [hset]
      split <;> rfl
    exact decide_eq_decide.1 hdec
  have hnone := isLive_of_held hgoes hheld hkeyed
  rw [Harmless, ← hrule]
  constructor
  · rintro ⟨hin, -, -, habsent⟩
    exact ⟨hin, fun hwhy => (hnone (liveOf_eq_none.2 hwhy)).1 (habsent (liveOf_eq_none.2 hwhy))⟩
  · rintro ⟨hin, habsent⟩
    exact ⟨hin, hfloor, fun _ hr => slot_of_held hgoes hheld hr,
      fun hl => (hnone hl).2 (habsent (liveOf_eq_none.1 hl))⟩

omit [Libraries] in
/-- The live default is not of the other address family, and every other default is. -/
lemma dst_of_liveOf {link : IpAddr → String} {r : Route} (hr : liveOf link gp = some r) :
    r.dst ≠ otherDst gp ∧ ∀ dst, (dst = .default4 ∨ dst = .default6) → dst ≠ otherDst gp →
      dst = r.dst := by
  have hne : Cidr.default4 ≠ .default6 := by decide
  cases he : gp.egress with
  | interface iface =>
      simp only [liveOf, he, Option.some.injEq] at hr
      subst hr
      simp only [otherDst, he]
      exact ⟨hne, fun dst hdst h => hdst.resolve_right h⟩
  | nextHop ip =>
      cases h6 : ip.isIpv6 <;>
        simp only [liveOf, he, h6, Bool.false_eq_true, if_false, if_true,
          Option.some.injEq] at hr <;>
        subst hr <;>
        simp only [otherDst, he, h6, Bool.false_eq_true, if_false, if_true]
      · exact ⟨hne, fun dst hdst h => hdst.resolve_right h⟩
      · exact ⟨hne.symm, fun dst hdst h => hdst.resolve_left h⟩
  | unavailable why => simp [liveOf, he] at hr

omit [Libraries] in
/-- The command for the live default leaves the other address family as it is. -/
lemma liveAfter_otherDst {link : IpAddr → String} (live : List Route) :
    liveAfter link gp (otherDst gp) live = live := by
  rw [liveAfter]
  cases hl : liveOf link gp with
  | some r => exact if_neg (dst_of_liveOf hl).1
  | none =>
      obtain ⟨why, he⟩ := liveOf_eq_none.1 hl
      have hdst : otherDst gp = .default6 := by rw [otherDst, he]
      exact if_neg (by rw [hdst]; decide)

lemma slot_otherDst (hgoes : ∀ c ∈ cmdsOf gp, ¬ Fatal env c)
    (hheld : held gp f' = held gp (Script.run env.runIp (cmdsOf gp) f).1) :
    slot (tableOf gp) (otherDst gp) 1 f'.routes = slot (tableOf gp) (otherDst gp) 1 f.routes := by
  have hset := hheld.trans (held_run_of_goes (run_of_not_fatal hgoes))
  have hother : otherDst gp = .default4 ∨ otherDst gp = .default6 := by
    rw [otherDst]
    split
    · split <;> simp
    · simp
  have hafter := @liveAfter_otherDst gp env.link
  -- the slot is a field of what is held, which the command for the live default maps
  rcases hother with ho | ho
  · rw [ho] at hafter ⊢
    change (held gp f').live = (held gp f).live
    rw [hset]
    split
    · exact hafter _
    · rfl
  · rw [ho] at hafter ⊢
    change (held gp f').live6 = (held gp f).live6
    rw [hset]
    split
    · exact hafter _
    · rfl

/-- A gateway that is set up has no live default but its own exactly when none of the other address
family was there before. -/
lemma sole_iff (hgoes : ∀ c ∈ cmdsOf gp, ¬ Fatal env c)
    (hheld : held gp f' = held gp (Script.run env.runIp (cmdsOf gp) f).1)
    (hset : Diverted env.link gp f') : Sole env.link gp f' ↔ NoOther gp f := by
  have hslot := slot_otherDst hgoes hheld
  constructor
  · rintro hsole r hr ⟨htable, hdst, hproto, hmetric⟩ hother
    have hmem : r ∈ slot (tableOf gp) (otherDst gp) 1 f'.routes :=
      hslot ▸ mem_slot.2 ⟨hr, htable, hother, hmetric⟩
    exact (dst_of_liveOf (hsole r (mem_slot.1 hmem).1 ⟨htable, hdst, hproto, hmetric⟩)).1 hother
  · rintro hno r hr ⟨htable, hdst, hproto, hmetric⟩
    have hown : r.dst ≠ otherDst gp := by
      intro hother
      have hmem : r ∈ slot (tableOf gp) (otherDst gp) 1 f.routes :=
        hslot ▸ mem_slot.2 ⟨hr, htable, hother, hmetric⟩
      exact hno r (mem_slot.1 hmem).1 ⟨htable, hdst, hproto, hmetric⟩ hother
    cases hl : liveOf env.link gp with
    | some r' =>
        obtain ⟨htable', hmetric', -, -⟩ := liveOf_eq_some hl
        have hmem : r ∈ slot r'.table r'.dst r'.metric f'.routes :=
          mem_slot.2 ⟨hr, htable.trans htable'.symm, (dst_of_liveOf hl).2 _ hdst hown,
            hmetric.trans hmetric'.symm⟩
        rw [hset.live r' hl] at hmem
        rw [List.mem_singleton.1 hmem]
    | none =>
        obtain ⟨why, he⟩ := liveOf_eq_none.1 hl
        have h4 : r.dst = .default4 := hdst.resolve_right (by simpa [otherDst, he] using hown)
        have hfalse := hset.none hl r hr
        rw [isLive_iff.2 ⟨htable, h4, hproto, hmetric⟩] at hfalse
        cases hfalse

end Gone

/-- In a run of the commands of a whole plan that does not stop, what is held of a gateway is what
its own commands leave. -/
lemma held_plan {plan : Plan} {d : Desired} (hcompile : Enforce.compile plan = .ok d) {env : Env}
    {f : Fib} (hgoes : ¬ Stops env plan.gateways) {gp : GatewayPlan} (hgp : gp ∈ plan.gateways) :
    held gp (Script.run env.runIp (plan.gateways.flatMap cmdsOf) f).1 =
      held gp (Script.run env.runIp (cmdsOf gp) f).1 := by
  obtain ⟨before, after, hplan⟩ := List.append_of_mem hgp
  obtain ⟨hbefore, hafter⟩ := table_ne hcompile hplan
  rw [hplan]
  refine (held_run env hbefore hafter f).2 fun hstops => hgoes ?_
  obtain ⟨gp', hgp', hfatal⟩ := hstops
  exact ⟨gp', hplan ▸ List.mem_append_left _ hgp', hfatal⟩

/-- The same for a run of the commands of a whole plan. -/
lemma diverted_run_iff {plan : Plan} {d : Desired} (hcompile : Enforce.compile plan = .ok d)
    {env : Env} {f : Fib} (hkeyed : Keyed (f.routes.filter (·.proto == 194)))
    (hgoes : ¬ Stops env plan.gateways) {gp : GatewayPlan} (hgp : gp ∈ plan.gateways) :
    Diverted env.link gp (Script.run env.runIp (plan.gateways.flatMap cmdsOf) f).1 ↔
      Harmless env gp f :=
  diverted_iff_harmless hkeyed (fun c hc hfatal => hgoes ⟨gp, hgp, c, hc, hfatal⟩)
    (held_plan hcompile hgoes hgp)

/-- A run of all commands that reports success leaves every gateway set up as its egress asks
exactly when the failures that were ignored do no harm; it reports success exactly when no command
stops it.  It also leaves no other live default exactly when there was none of the other address
family. -/
theorem diverted_iff {plan : Plan} {d : Desired} (hcompile : Enforce.compile plan = .ok d)
    (env : Env) {h : Host} (hkeyed : Keyed (h.fib.routes.filter (·.proto == 194))) :
    (((apply env.world.ip d.ip h).2 = .ok () → ∀ gp ∈ plan.gateways,
        Diverted env.link gp (apply env.world.ip d.ip h).1.fib) ↔
      Stops env plan.gateways ∨ ∀ gp ∈ plan.gateways, Harmless env gp h.fib) ∧
    (((apply env.world.ip d.ip h).2 = .ok () → ∀ gp ∈ plan.gateways,
        Diverted env.link gp (apply env.world.ip d.ip h).1.fib ∧
          Sole env.link gp (apply env.world.ip d.ip h).1.fib) ↔
      Stops env plan.gateways ∨
        ∀ gp ∈ plan.gateways, Harmless env gp h.fib ∧ NoOther gp h.fib) := by
  obtain ⟨hfst, hsnd⟩ := env.routeApply_eq d.ip h
  rw [(compile_ip hcompile).1] at hfst hsnd
  have hok : (apply env.world.ip d.ip h).2 = .ok () ↔ ¬ Stops env plan.gateways := by
    rw [← stops_iff (f := h.fib), (compile_ip hcompile).1, hsnd]
    simp
  rw [hok, or_iff_not_imp_left, or_iff_not_imp_left, (compile_ip hcompile).1, hfst]
  refine ⟨imp_congr_right fun hgoes => forall_congr' fun gp => forall_congr' fun hgp => ?_,
    imp_congr_right fun hgoes => forall_congr' fun gp => forall_congr' fun hgp => ?_⟩
  · exact diverted_run_iff hcompile hkeyed hgoes hgp
  · rw [← diverted_run_iff hcompile hkeyed hgoes hgp]
    exact and_congr_right (sole_iff (fun c hc hfatal => hgoes ⟨gp, hgp, c, hc, hfatal⟩)
      (held_plan hcompile hgoes hgp))

/-- The gateway of the plan of the home network. -/
@[reducible] def homeGateway : GatewayPlan := (homePlan 100 []).gateways.get ⟨0, by decide⟩

/-- The rule of the gateway fails. -/
@[reducible] def ruleFails : Env :=
  .allBut (ruleCmd (@markText .plain homeGateway) (tableText homeGateway)).args

omit [Libraries] in
/-- Where no command fails, success means that the gateway is set up, with one live default. -/
theorem diverted_homePlan : ∃ d, @Enforce.compile .plain (homePlan 100 []) = .ok d ∧
    ((apply Env.allOk.world.ip d.ip homeHost).2 = .ok () → ∀ gp ∈ (homePlan 100 []).gateways,
      @Diverted .plain Env.allOk.link gp (apply Env.allOk.world.ip d.ip homeHost).1.fib ∧
      Sole Env.allOk.link gp (apply Env.allOk.world.ip d.ip homeHost).1.fib) := by
  obtain ⟨d, hc⟩ := exists_compiled [] "degc" (vpnGateways 100) (by decide) (by decide)
  have hd := @Compiled.compile .plain _ _ hc
  have hnone : ∀ r ∈ homeHost.fib.routes, r.proto ≠ 194 := by decide
  exact ⟨d, hd, (@diverted_iff .plain _ d hd Env.allOk homeHost (by decide)).2.2
    (Or.inr fun gp _ => ⟨⟨Or.inr rfl, fun _ => Or.inr rfl⟩,
      fun r hr hlive => absurd hlive.2.2.1 (hnone r hr)⟩)⟩

omit [Libraries] in
/-- Where the command for the rule fails, success is reported without a rule. -/
theorem not_diverted : ∃ d, @Enforce.compile .plain (homePlan 100 []) = .ok d ∧
    Keyed homeHost.fib.routes ∧ homeGateway ∈ (homePlan 100 []).gateways ∧
    (apply ruleFails.world.ip d.ip homeHost).2 = .ok () ∧
    ¬ @Diverted .plain ruleFails.link homeGateway
      (apply ruleFails.world.ip d.ip homeHost).1.fib := by
  obtain ⟨d, hc⟩ := exists_compiled [] "degc" (vpnGateways 100) (by decide) (by decide)
  refine ⟨d, @Compiled.compile .plain _ _ hc, by decide, List.get_mem _ _, ?_, ?_⟩
  · rw [@Compiled.ip .plain _ _ hc]
    decide +kernel
  · rintro ⟨hrule, -, -, -⟩
    rw [@Compiled.ip .plain _ _ hc] at hrule
    exact absurd hrule (by decide +kernel)

end Degc.Route
