import Degc.Enforce.Commands

/-!
# Gateways when commands fail

The commands of all gateways are one list, which is run up to the first command
that must not fail and does.  What the host holds of a gateway, its rule, its
floor and its live default, is changed by the gateway's own commands only
(`held_of_ne`), but whether these are reached depends on those before them.

The main result is `isolated_iff`: two runs in which the commands of a gateway fare
alike leave the same of it exactly when both reach its commands, or neither does,
or its commands have nothing to change.
-/

namespace Degc.Route

open Net Text Fib

variable [Libraries]

/-! ### What the host holds of a gateway -/

/-- The floor, the rule and the live defaults of both families. -/
@[ext]
structure Held where
  floor : List Route
  rule : Bool
  live : List Route
  live6 : List Route
  deriving DecidableEq

/-- What the host holds of a gateway. -/
def held (gp : GatewayPlan) (f : Fib) : Held where
  floor := slot (tableOf gp) .default4 9999 f.routes
  rule := decide (ruleOf gp ∈ f.rules)
  live := slot (tableOf gp) .default4 1 f.routes
  live6 := slot (tableOf gp) .default6 1 f.routes

/-- The live defaults of a family after the command for the live default. -/
def liveAfter (link : IpAddr → String) (gp : GatewayPlan) (dst : Cidr) (live : List Route) :
    List Route :=
  match liveOf link gp with
  | some r => if r.dst = dst then [r] else live
  | none => if dst = .default4 then live.eraseP (isLive gp) else live

/-- Putting the live default in place, or removing the one that is there. -/
def Held.setLive (link : IpAddr → String) (gp : GatewayPlan) (v : Held) : Held :=
  { v with
    live := liveAfter link gp .default4 v.live
    live6 := liveAfter link gp .default6 v.live6 }

lemma held_floor (gp : GatewayPlan) (f : Fib) :
    held gp { f with routes := replaceRoute (floorOf gp) f.routes } =
      { held gp f with floor := [floorOf gp] } := by
  have hfloor : slot (tableOf gp) .default4 9999 (replaceRoute (floorOf gp) f.routes) =
      [floorOf gp] := slot_replaceRoute_self (floorOf gp) f.routes
  have hlive : ∀ dst, slot (tableOf gp) dst 1 (replaceRoute (floorOf gp) f.routes) =
      slot (tableOf gp) dst 1 f.routes := fun dst =>
    slot_replaceRoute_of_ne _ (by simp [floorOf])
  simp [held, hfloor, hlive]

lemma held_rule (gp : GatewayPlan) (f : Fib) :
    held gp (if ruleOf gp ∈ f.rules then f
      else { f with rules := insertRule (ruleOf gp) f.rules }) =
        { held gp f with rule := true } := by
  split_ifs with h
  · simp [held, h]
  · simp [held, mem_insertRule]

lemma held_live (link : IpAddr → String) (gp : GatewayPlan) (f : Fib) :
    held gp { f with routes := setLive link gp f.routes } = (held gp f).setLive link gp := by
  rw [setLive]
  cases hl : liveOf link gp with
  | some r =>
      obtain ⟨htable, hmetric, -, -⟩ := liveOf_eq_some hl
      have hfloor : slot (tableOf gp) .default4 9999 (replaceRoute r f.routes) =
          slot (tableOf gp) .default4 9999 f.routes :=
        slot_replaceRoute_of_ne _ (by simp [hmetric])
      have hlive : ∀ dst, slot (tableOf gp) dst 1 (replaceRoute r f.routes) =
          liveAfter link gp dst (slot (tableOf gp) dst 1 f.routes) := by
        intro dst
        simp only [liveAfter, hl]
        split_ifs with hdst
        · have hself := slot_replaceRoute_self r f.routes
          rwa [htable, hmetric, hdst] at hself
        · exact slot_replaceRoute_of_ne _ fun h => hdst h.2.1
      simp [held, Held.setLive, hfloor, hlive]
  | none =>
      have hother : ∀ dst metric, ¬ (dst = Cidr.default4 ∧ metric = 1) →
          slot (tableOf gp) dst metric (f.routes.eraseP (isLive gp)) =
            slot (tableOf gp) dst metric f.routes := fun dst metric hne =>
        filter_eraseP fun r _ hr => by
          simp only [isLive, Bool.and_eq_true, beq_iff_eq] at hr
          rw [Bool.eq_false_iff]
          intro hin
          simp only [Bool.and_eq_true, beq_iff_eq] at hin
          exact hne ⟨hin.1.2.symm.trans hr.1.1.2, hin.2.symm.trans hr.2⟩
      have hlive : ∀ dst, slot (tableOf gp) dst 1 (f.routes.eraseP (isLive gp)) =
          liveAfter link gp dst (slot (tableOf gp) dst 1 f.routes) := by
        intro dst
        simp only [liveAfter, hl]
        split_ifs with hdst
        · subst hdst
          refine filter_eraseP_of_imp fun r _ hr => ?_
          simp only [isLive, Bool.and_eq_true] at hr ⊢
          exact ⟨hr.1.1, hr.2⟩
        · exact hother dst 1 fun h => hdst h.1
      simp [held, Held.setLive, hother, hlive]

/-- The commands of another gateway, with another table, change nothing. -/
lemma held_of_ne {gp gp' : GatewayPlan} (hne : tableOf gp' ≠ tableOf gp) {link : IpAddr → String}
    {f f' : Fib} (h : Effect gp' f link f') : held gp f' = held gp f := by
  have hslot := slot_congr (h.filter_table hne)
  have hrule : ruleOf gp ∈ f'.rules ↔ ruleOf gp ∈ f.rules := by
    have hother : ruleOf gp ≠ ruleOf gp' := fun heq => hne (congrArg Rule.table heq).symm
    cases h <;> simp [mem_insertRule, hother]
  simp [held, hslot, hrule]

/-! ### Reaching a gateway -/

/-- The commands of gateways stop a run. -/
def Stops (env : Env) (gps : List GatewayPlan) : Prop := ∃ gp ∈ gps, ∃ c ∈ cmdsOf gp, Fatal env c

lemma stops_iff {env : Env} {gps : List GatewayPlan} {f : Fib} :
    (Script.run env.runIp (gps.flatMap cmdsOf) f).2 = false ↔ Stops env gps := by
  classical
  have hflag : ∀ c ∈ gps.flatMap cmdsOf, ∀ f, (env.runIp c f).2 = !decide (Fatal env c) := by
    intro c hc f
    obtain ⟨gp, -, hc⟩ := List.mem_flatMap.1 hc
    have hsnd : (env.runIp c f).2 = false ↔ Fatal env c := runIp_snd hc f
    by_cases hfatal : Fatal env c
    · simp [hfatal, hsnd.2 hfatal]
    · simpa [hfatal] using mt hsnd.1 hfatal
  rw [Script.run_snd_of_flag hflag, List.all_eq_false]
  simp only [List.mem_flatMap, Bool.not_eq_true', decide_eq_false_iff_not, not_not]
  constructor
  · rintro ⟨c, ⟨gp, hgp, hc⟩, hfatal⟩
    exact ⟨gp, hgp, c, hc, hfatal⟩
  · rintro ⟨gp, hgp, c, hc, hfatal⟩
    exact ⟨c, ⟨gp, hgp, hc⟩, hfatal⟩

/-- The commands of other gateways, with other tables, change nothing. -/
lemma held_run_of_ne (env : Env) {gp : GatewayPlan} {gps : List GatewayPlan}
    (hne : ∀ gp' ∈ gps, tableOf gp' ≠ tableOf gp) (f : Fib) :
    held gp (Script.run env.runIp (gps.flatMap cmdsOf) f).1 = held gp f := by
  refine Script.run_frame fun c hc f => ?_
  obtain ⟨gp', hgp', hc⟩ := List.mem_flatMap.1 hc
  exact held_of_ne (hne gp' hgp') (effect_of_mem env gp' f hc)

/-! ### The commands of a gateway -/

/-- The commands of a gateway have nothing to change, as far as they are run: the floor is in
place, and so are the rule and the live default unless their commands fail. -/
def Settled (env : Env) (gp : GatewayPlan) (v : Held) : Prop :=
  env.ip (floorCmd (tableText gp)).args = .ok () →
    v.floor = [floorOf gp] ∧
    (env.ip (ruleCmd (markText gp) (tableText gp)).args = .ok () → v.rule = true) ∧
    ((∀ cause, env.ip (ruleCmd (markText gp) (tableText gp)).args ≠ .notSpawned cause) →
      env.ip (liveCmd (tableText gp) gp.egress).args = .ok () → v.setLive env.link gp = v)

/-- The last command of a gateway, run alone. -/
lemma held_run_live (env : Env) (gp : GatewayPlan) (f : Fib) :
    held gp (Script.run env.runIp [liveCmd (tableText gp) gp.egress] f).1 =
      match env.ip (liveCmd (tableText gp) gp.egress).args with
      | .ok () => (held gp f).setLive env.link gp
      | _ => held gp f := by
  have hone : (Script.run env.runIp [liveCmd (tableText gp) gp.egress] f).1 =
      (env.runIp (liveCmd (tableText gp) gp.egress) f).1 := by
    rcases hc : env.runIp (liveCmd (tableText gp) gp.egress) f with ⟨f', _ | _⟩
    · rw [Script.run_cons_of_false hc]
    · rw [Script.run_cons_of_true hc, Script.run_nil]
  rw [hone, runIp_live]
  cases env.ip (liveCmd (tableText gp) gp.egress).args with
  | ok u => exact held_live env.link gp f
  | _ => rfl

/-- Running the commands of a gateway leaves of it what there was exactly when they have nothing
to change. -/
lemma held_run_eq_iff (env : Env) (gp : GatewayPlan) (f : Fib) :
    held gp (Script.run env.runIp (cmdsOf gp) f).1 = held gp f ↔ Settled env gp (held gp f) := by
  have hcomm : [floorOf gp] = (held gp f).floor ↔ (held gp f).floor = [floorOf gp] := eq_comm
  rw [cmdsOf, Settled]
  cases hfloor : env.ip (floorCmd (tableText gp)).args with
  | notSpawned cause =>
      simp [Script.run_cons_of_false (show env.runIp _ f = (f, false) by rw [runIp_floor, hfloor])]
  | failed stderr =>
      simp [Script.run_cons_of_false (show env.runIp _ f = (f, false) by rw [runIp_floor, hfloor])]
  | ok u =>
      rw [Script.run_cons_of_true (by rw [runIp_floor, hfloor])]
      cases hrule : env.ip (ruleCmd (markText gp) (tableText gp)).args with
      | notSpawned cause =>
          rw [Script.run_cons_of_false (by rw [runIp_rule, hrule]), held_floor]
          simp [Held.ext_iff, hcomm]
      | failed stderr =>
          rw [Script.run_cons_of_true (by rw [runIp_rule, hrule]), held_run_live, held_floor]
          cases env.ip (liveCmd (tableText gp) gp.egress).args <;>
            simp [Held.ext_iff, Held.setLive, hcomm]
      | ok u =>
          rw [Script.run_cons_of_true (by rw [runIp_rule, hrule]), held_run_live, held_rule,
            held_floor]
          cases env.ip (liveCmd (tableText gp) gp.egress).args <;>
            simp [Held.ext_iff, Held.setLive, hcomm]

/-- What the commands of a gateway leave of it when they do not stop the run. -/
lemma held_run_of_goes {env : Env} {gp : GatewayPlan} {f : Fib}
    (hgoes : (Script.run env.runIp (cmdsOf gp) f).2 = true) :
    held gp (Script.run env.runIp (cmdsOf gp) f).1 =
      match env.ip (liveCmd (tableText gp) gp.egress).args with
      | .ok () => Held.setLive env.link gp { held gp f with
          floor := [floorOf gp]
          rule := decide (ruleOf gp ∈ f.rules ∨
            env.ip (ruleCmd (markText gp) (tableText gp)).args = .ok ()) }
      | _ => { held gp f with
          floor := [floorOf gp]
          rule := decide (ruleOf gp ∈ f.rules ∨
            env.ip (ruleCmd (markText gp) (tableText gp)).args = .ok ()) } := by
  rw [cmdsOf] at hgoes ⊢
  cases hfloor : env.ip (floorCmd (tableText gp)).args with
  | notSpawned cause =>
      rw [Script.run_cons_of_false
        (show env.runIp _ f = (f, false) by rw [runIp_floor, hfloor])] at hgoes
      exact absurd hgoes (by simp)
  | failed stderr =>
      rw [Script.run_cons_of_false
        (show env.runIp _ f = (f, false) by rw [runIp_floor, hfloor])] at hgoes
      exact absurd hgoes (by simp)
  | ok u =>
      rw [Script.run_cons_of_true (by rw [runIp_floor, hfloor])] at hgoes ⊢
      cases hrule : env.ip (ruleCmd (markText gp) (tableText gp)).args with
      | notSpawned cause =>
          rw [Script.run_cons_of_false (by rw [runIp_rule, hrule])] at hgoes
          exact absurd hgoes (by simp)
      | failed stderr =>
          rw [Script.run_cons_of_true (by rw [runIp_rule, hrule]), held_run_live, held_floor]
          cases env.ip (liveCmd (tableText gp) gp.egress).args <;> simp [held]
      | ok u =>
          rw [Script.run_cons_of_true (by rw [runIp_rule, hrule]), held_run_live, held_rule,
            held_floor]
          cases env.ip (liveCmd (tableText gp) gp.egress).args <;> simp

/-- In two runs in which the commands of a gateway fare alike, they leave the same of it. -/
lemma held_run_congr {env env' : Env} {gp : GatewayPlan} (hlink : env.link = env'.link)
    (hagree : ∀ c ∈ cmdsOf gp, env.ip c.args = env'.ip c.args) {f f' : Fib}
    (h : held gp f = held gp f') :
    held gp (Script.run env.runIp (cmdsOf gp) f).1 =
      held gp (Script.run env'.runIp (cmdsOf gp) f').1 := by
  refine (Script.run_congr h fun c hc f f' h => ?_).1
  have hc' := hagree c hc
  simp only [cmdsOf, List.mem_cons, List.not_mem_nil, or_false] at hc
  rcases hc with rfl | rfl | rfl
  · rw [runIp_floor, runIp_floor, hc']
    split
    · simp only [held_floor, h, and_self]
    · exact ⟨h, rfl⟩
  · rw [runIp_rule, runIp_rule, hc']
    split
    · simp only [held_rule, h, and_self]
    · exact ⟨h, rfl⟩
    · exact ⟨h, rfl⟩
  · rw [runIp_live, runIp_live, hc', hlink]
    split
    · simp only [held_live, h, and_self]
    · exact ⟨h, rfl⟩
    · exact ⟨h, rfl⟩

/-! ### Two runs -/

/-- What a run of all commands leaves of a gateway: what there was when it stops before the
gateway, else what the commands of the gateway leave. -/
lemma held_run (env : Env) {before after : List GatewayPlan} {gp : GatewayPlan}
    (hbefore : ∀ gp' ∈ before, tableOf gp' ≠ tableOf gp)
    (hafter : ∀ gp' ∈ after, tableOf gp' ≠ tableOf gp) (f : Fib) :
    (Stops env before → held gp (Script.run env.runIp
      ((before ++ gp :: after).flatMap cmdsOf) f).1 = held gp f) ∧
    (¬ Stops env before → held gp (Script.run env.runIp
      ((before ++ gp :: after).flatMap cmdsOf) f).1 =
        held gp (Script.run env.runIp (cmdsOf gp) f).1) := by
  rw [List.flatMap_append, List.flatMap_cons]
  have hfirst := held_run_of_ne env hbefore f
  constructor
  · intro hstops
    rw [Script.run_append_of_false (stops_iff.2 hstops), hfirst]
  · intro hgoes
    have hsnd : (Script.run env.runIp (before.flatMap cmdsOf) f).2 = true := by
      simpa using mt stops_iff.1 hgoes
    rw [Script.run_append_of_true hsnd, ← held_run_congr rfl (fun _ _ => rfl) hfirst]
    set f₁ := (Script.run env.runIp (before.flatMap cmdsOf) f).1
    -- the gateways behind it have other tables, whether they are reached or not
    cases hown : (Script.run env.runIp (cmdsOf gp) f₁).2 with
    | false => rw [Script.run_append_of_false hown]
    | true => rw [Script.run_append_of_true hown, held_run_of_ne env hafter]

/-- Two runs in which the commands of a gateway fare alike leave its floor, its rule and its live
default in the same state exactly when the gateways before it stop both runs or neither, or its
commands have nothing to change. -/
theorem isolated_iff {plan : Plan} {d : Desired} (hcompile : Enforce.compile plan = .ok d)
    {before after : List GatewayPlan} {gp : GatewayPlan}
    (hplan : plan.gateways = before ++ gp :: after) {env env' : Env} (hlink : env.link = env'.link)
    (hagree : ∀ c ∈ cmdsOf gp, env.ip c.args = env'.ip c.args) (h : Host) :
    held gp (apply env.world.ip d.ip h).1.fib = held gp (apply env'.world.ip d.ip h).1.fib ↔
      (Stops env before ↔ Stops env' before) ∨ Settled env gp (held gp h.fib) := by
  obtain ⟨hbefore, hafter⟩ := table_ne hcompile hplan
  rw [(env.routeApply_eq d.ip h).1, (env'.routeApply_eq d.ip h).1, (compile_ip hcompile).1, hplan]
  obtain ⟨hstops, hgoes⟩ := held_run env hbefore hafter h.fib
  obtain ⟨hstops', hgoes'⟩ := held_run env' hbefore hafter h.fib
  have hown := held_run_congr hlink hagree (f := h.fib) rfl
  have hsettled := held_run_eq_iff env gp h.fib
  by_cases hs : Stops env before <;> by_cases hs' : Stops env' before
  · rw [hstops hs, hstops' hs']
    simp [hs, hs']
  · rw [hstops hs, hgoes' hs', ← hown, eq_comm, hsettled]
    simp [hs, hs']
  · rw [hgoes hs, hstops' hs', hsettled]
    simp [hs, hs']
  · rw [hgoes hs, hgoes' hs', hown]
    simp [hs, hs']

/-- The first gateway of a plan. -/
@[reducible] def vpnPlan : GatewayPlan := (Nft.namedPlan "vpn" "work").gateways.get ⟨0, by decide⟩

/-- The second gateway of the plan. -/
@[reducible] def workPlan : GatewayPlan := (Nft.namedPlan "vpn" "work").gateways.get ⟨1, by decide⟩

/-- A host without rules and routes. -/
def bareHost : Host := ⟨∅, ⟨[], [], []⟩⟩

/-- One command of the first gateway fails. -/
@[reducible] def failingEnv (i : Fin 3) : Env := .allBut ((@cmdsOf .plain vpnPlan).get i).args

omit [Libraries] in
lemma compile_namedPlan : ∃ d, @Enforce.compile .plain (Nft.namedPlan "vpn" "work") = .ok d := by
  have hok : (@Enforce.compile .plain (Nft.namedPlan "vpn" "work")).isOk = true := by decide
  cases h : @Enforce.compile .plain (Nft.namedPlan "vpn" "work") with
  | error e => exact absurd (h ▸ hok) (by simp [Except.isOk, Except.toBool])
  | ok d => exact ⟨d, rfl⟩

omit [Libraries] in
/-- Where only the rule of the first gateway fails, the second one is left as without a failure. -/
theorem isolated_from_rule :
    ∃ d, @Enforce.compile .plain (Nft.namedPlan "vpn" "work") = .ok d ∧
      @held .plain workPlan (apply Env.allOk.world.ip d.ip bareHost).1.fib =
        @held .plain workPlan (apply (failingEnv 1).world.ip d.ip bareHost).1.fib := by
  obtain ⟨d, hd⟩ := compile_namedPlan
  refine ⟨d, hd, (@isolated_iff .plain _ d hd [vpnPlan] [] workPlan rfl Env.allOk (failingEnv 1)
    rfl (by decide) bareHost).2 (Or.inl ⟨?_, ?_⟩)⟩
  · rintro ⟨_, _, c, _, hfatal⟩
    exact absurd hfatal (not_fatal (Or.inl rfl))
  · rintro ⟨gp, hgp, c, hc, hfatal⟩
    obtain rfl := List.mem_singleton.1 hgp
    have hall : ∀ c ∈ @cmdsOf .plain vpnPlan, (failingEnv 1).ip c.args = .ok () ∨
        c.ignoreFail = true ∧ (failingEnv 1).ip c.args = .failed "" := by decide
    exact absurd hfatal (not_fatal (hall c hc))

omit [Libraries] in
/-- Where the live default of the first gateway fails, the second one is left without its floor
and its rule. -/
theorem not_isolated :
    ∃ d, @Enforce.compile .plain (Nft.namedPlan "vpn" "work") = .ok d ∧
      (∀ c ∈ @cmdsOf .plain workPlan, Env.allOk.ip c.args = (failingEnv 2).ip c.args) ∧
      @held .plain workPlan (apply Env.allOk.world.ip d.ip bareHost).1.fib =
        ⟨[floorOf workPlan], true, (liveOf Env.allOk.link workPlan).toList, []⟩ ∧
      @held .plain workPlan (apply (failingEnv 2).world.ip d.ip bareHost).1.fib =
        ⟨[], false, [], []⟩ := by
  obtain ⟨d, hd⟩ := compile_namedPlan
  refine ⟨d, hd, by decide, ?_⟩
  rw [(@compile_ip .plain _ d hd).1]
  decide +kernel

end Degc.Route
