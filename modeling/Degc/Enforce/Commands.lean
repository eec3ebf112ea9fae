import Degc.Enforce.SetNames
import Degc.Host

/-!
# What the routing commands do

The commands of a plan and their effects on the rules and routes of a host, in the
terms of the policy routing: each gateway has one rule, one floor and at most one
live default, all of them in its own table or naming it.

The main results are the effect of each of the three commands of a gateway
(`runIp_floor`, `runIp_rule`, `runIp_live`) and, where only the kinds of effects
matter, `effect_of_mem`.
-/

namespace Degc.Route

open Net Text Fib

variable [Libraries]

/-! ### The commands of a plan -/

/-- The table of a gateway. -/
def tableOf (gp : GatewayPlan) : ℕ := gp.gateway.tableId.toNat

/-- The table of a gateway as it stands in the commands. -/
def tableText (gp : GatewayPlan) : String := toString gp.gateway.tableId

/-- The mark of a gateway as it stands in the commands. -/
def markText (gp : GatewayPlan) : String := "0x" ++ hex (Nft.markOf gp)

/-- The commands of a gateway. -/
def cmdsOf (gp : GatewayPlan) : List IpCmd :=
  [floorCmd (tableText gp), ruleCmd (markText gp) (tableText gp), liveCmd (tableText gp) gp.egress]

lemma gatewayCmds_eq {gp : GatewayPlan} (h : gp.gateway.markValue = .ok gp.gateway.effectiveMark) :
    gatewayCmds gp = .ok (cmdsOf gp) := by
  rw [gatewayCmds, h]
  rfl

lemma guardOf_eq {gp : GatewayPlan} (h : gp.gateway.markValue = .ok gp.gateway.effectiveMark) :
    Enforce.guardOf gp = .ok (markText gp, gp.gateway.tableId) := by
  rw [Enforce.guardOf, h]
  rfl

omit [Libraries] in
lemma mapM_of_ok {α β : Type} {f : α → Except String β} {g : α → β} {as : List α}
    (h : ∀ a ∈ as, f a = .ok (g a)) : as.mapM f = .ok (as.map g) := by
  induction as with
  | nil => rfl
  | cons a as ih =>
      rw [List.forall_mem_cons] at h
      rw [List.mapM_cons, h.1, ih h.2]
      rfl

/-- The commands and the guards of a compiled plan. -/
lemma compile_ip {plan : Plan} {d : Desired} (h : Enforce.compile plan = .ok d) :
    d.ip = plan.gateways.flatMap cmdsOf ∧
      d.guards = plan.gateways.map fun gp => (markText gp, gp.gateway.tableId) := by
  obtain ⟨hapart, -, hip, hguards⟩ := Nft.compile_eq_ok h
  have hmark := Nft.markValue_of_apart hapart
  constructor
  · rw [build, mapM_of_ok fun gp hgp => gatewayCmds_eq (hmark gp hgp)] at hip
    exact (Except.ok.inj hip).symm
  · rw [mapM_of_ok fun gp hgp => guardOf_eq (hmark gp hgp)] at hguards
    exact (Except.ok.inj hguards).symm

/-! ### The rule and the routes of a gateway -/

/-- The rule of a gateway. -/
def ruleOf (gp : GatewayPlan) : Rule := ⟨100, some (Nft.markOf gp, fullMask), tableOf gp⟩

/-- Two gateways have the same rule when they have the same table and the same mark. -/
lemma ruleOf_inj {gp gp' : GatewayPlan} : ruleOf gp' = ruleOf gp ↔
    gp.gateway.tableId = gp'.gateway.tableId ∧
      gp.gateway.effectiveMark = gp'.gateway.effectiveMark := by
  simp only [ruleOf, Rule.mk.injEq, true_and, Option.some.injEq, Prod.mk.injEq, and_true,
    Nft.markOf, tableOf, UInt32.toNat_inj]
  exact ⟨fun h => ⟨h.2.symm, h.1.symm⟩, fun h => ⟨h.2.symm, h.1.symm⟩⟩

/-- The floor of a gateway. -/
def floorOf (gp : GatewayPlan) : Route := ⟨tableOf gp, .default4, .blackhole, 194, 9999⟩

/-- The live default of a gateway, if its egress is available. -/
def liveOf (link : IpAddr → String) (gp : GatewayPlan) : Option Route :=
  match gp.egress with
  | .interface iface => some ⟨tableOf gp, .default4, .dev iface, 194, 1⟩
  | .nextHop ip =>
      some ⟨tableOf gp, if ip.isIpv6 then .default6 else .default4, .via ip (link ip), 194, 1⟩
  | .unavailable _ => none

omit [Libraries] in
/-- The live default of a gateway is a default of its table, of one of the families. -/
lemma liveOf_eq_some {link : IpAddr → String} {gp : GatewayPlan} {r : Route}
    (h : liveOf link gp = some r) :
    r.table = tableOf gp ∧ r.metric = 1 ∧ r.proto = 194 ∧
      (r.dst = .default4 ∨ r.dst = .default6) := by
  simp only [liveOf] at h
  split at h
  · obtain rfl := Option.some.inj h
    exact ⟨rfl, rfl, rfl, Or.inl rfl⟩
  · next ip _ =>
      obtain rfl := Option.some.inj h
      refine ⟨rfl, rfl, rfl, ?_⟩
      cases ip.isIpv6
      · exact Or.inl rfl
      · exact Or.inr rfl
  · simp at h

omit [Libraries] in
/-- The live default of a gateway without a next hop of IPv6 is one of IPv4. -/
lemma liveOf_dst {link : IpAddr → String} {gp : GatewayPlan} {r : Route}
    (h : liveOf link gp = some r) (h4 : ∀ ip, gp.egress = .nextHop ip → ip.isIpv4 = true) :
    r.dst = .default4 := by
  rw [liveOf] at h
  cases he : gp.egress with
  | unavailable why => simp [he] at h
  | interface iface =>
      rw [he] at h
      exact (Option.some.inj h) ▸ rfl
  | nextHop ip =>
      rw [he] at h
      obtain rfl := Option.some.inj h
      have hip := h4 ip he
      cases ip with
      | v4 a => rfl
      | v6 a => exact absurd hip (by simp [IpAddr.isIpv4])

/-- Whether a route is a live default of a gateway. -/
def isLive (gp : GatewayPlan) (r : Route) : Bool :=
  r.table == tableOf gp && r.dst == .default4 && r.proto == 194 && r.metric == 1

/-- Putting the live default of a gateway in place, or removing the one that is there. -/
def setLive (link : IpAddr → String) (gp : GatewayPlan) (routes : List Route) : List Route :=
  match liveOf link gp with
  | some r => replaceRoute r routes
  | none => routes.eraseP (isLive gp)

section Effects

variable (env : Env) (gp : GatewayPlan) (f : Fib)

lemma markText_eq : markText gp = "0x" ++ hex (Nft.markOf gp) := by
  rfl

omit [Libraries] in
/-- The floor is put in place unless the command fails. -/
lemma runIp_floor :
    env.runIp (floorCmd (tableText gp)) f =
      match env.ip (floorCmd (tableText gp)).args with
      | .ok () => ({ f with routes := replaceRoute (floorOf gp) f.routes }, true)
      | _ => (f, false) := by
  have hexec : Iproute.exec env.link (floorCmd (tableText gp)).args f =
      .ok { f with routes := replaceRoute (floorOf gp) f.routes } :=
    Iproute.exec_blackhole env.link f (tableOf gp) 194 9999
  rw [Env.runIp, hexec]
  cases env.ip (floorCmd (tableText gp)).args <;> rfl

/-- The rule is there after its command unless the command fails, which does not stop the run. -/
lemma runIp_rule :
    env.runIp (ruleCmd (markText gp) (tableText gp)) f =
      match env.ip (ruleCmd (markText gp) (tableText gp)).args with
      | .ok () =>
          (if ruleOf gp ∈ f.rules then f
            else { f with rules := insertRule (ruleOf gp) f.rules }, true)
      | .failed _ => (f, true)
      | .notSpawned _ => (f, false) := by
  have hexec : Iproute.exec env.link (ruleCmd (markText gp) (tableText gp)).args f =
      (Iproute.Cmd.ruleAdd (ruleOf gp)).exec f := by
    rw [markText_eq]
    exact Iproute.exec_ruleAdd env.link f (tableOf gp) (Nft.markOf gp) 100
  rw [Env.runIp, hexec, Iproute.Cmd.exec]
  cases env.ip (ruleCmd (markText gp) (tableText gp)).args with
  | notSpawned cause => rfl
  | failed stderr => rfl
  | ok u => by_cases h : ruleOf gp ∈ f.rules <;> simp [h, ruleCmd]

omit [Libraries] in
/-- The live default is put in place or removed unless the command fails. -/
lemma runIp_live :
    env.runIp (liveCmd (tableText gp) gp.egress) f =
      match env.ip (liveCmd (tableText gp) gp.egress).args with
      | .ok () => ({ f with routes := setLive env.link gp f.routes }, true)
      | .failed _ => (f, (liveOf env.link gp).isNone)
      | .notSpawned _ => (f, false) := by
  rw [Env.runIp, setLive, liveOf]
  cases he : gp.egress with
  | interface iface =>
      have hexec : Iproute.exec env.link (liveCmd (tableText gp) (.interface iface)).args f =
          .ok { f with routes :=
            replaceRoute ⟨tableOf gp, .default4, .dev iface, 194, 1⟩ f.routes } :=
        Iproute.exec_dev env.link f (tableOf gp) 194 1 iface
      rw [hexec]
      cases env.ip (liveCmd (tableText gp) (.interface iface)).args <;> rfl
  | nextHop ip =>
      have hexec : Iproute.exec env.link (liveCmd (tableText gp) (.nextHop ip)).args f =
          .ok { f with routes := replaceRoute ⟨tableOf gp,
            if ip.isIpv6 then .default6 else .default4, .via ip (env.link ip), 194, 1⟩ f.routes } :=
        Iproute.exec_via env.link f (tableOf gp) 194 1 ip
      rw [hexec]
      cases env.ip (liveCmd (tableText gp) (.nextHop ip)).args <;> rfl
  | unavailable why =>
      have hexec : Iproute.exec env.link (liveCmd (tableText gp) (.unavailable why)).args f =
          if f.routes.any (isLive gp) then .ok { f with routes := f.routes.eraseP (isLive gp) }
          else .error "RTNETLINK answers: No such process" :=
        Iproute.exec_routeDel env.link f (tableOf gp) 194 1
      rw [hexec]
      cases env.ip (liveCmd (tableText gp) (.unavailable why)).args with
      | notSpawned cause => rfl
      | failed stderr => rfl
      | ok u =>
          by_cases hany : f.routes.any (isLive gp) = true
          · rw [if_pos hany]
          · -- there is no live default: the command fails, and removing it changes nothing
            have hsame : f.routes.eraseP (isLive gp) = f.routes :=
              List.eraseP_of_forall_not fun r hr hlive => hany (List.any_eq_true.2 ⟨r, hr, hlive⟩)
            rw [if_neg hany, hsame]
            rfl

/-- The rules after a command of a gateway. -/
lemma mem_rules_runIp {c : IpCmd} (hc : c ∈ cmdsOf gp) (r : Rule) :
    r ∈ (env.runIp c f).1.rules ↔ r ∈ f.rules ∨
      c = ruleCmd (markText gp) (tableText gp) ∧ env.ip c.args = .ok () ∧ r = ruleOf gp := by
  have hfloor : floorCmd (tableText gp) ≠ ruleCmd (markText gp) (tableText gp) := by
    simp [floorCmd, ruleCmd]
  have hlive : liveCmd (tableText gp) gp.egress ≠ ruleCmd (markText gp) (tableText gp) := by
    cases gp.egress <;> simp [liveCmd, ruleCmd]
  simp only [cmdsOf, List.mem_cons, List.not_mem_nil, or_false] at hc
  rcases hc with rfl | rfl | rfl
  · rw [runIp_floor]
    split <;> simp [hfloor]
  · rw [runIp_rule]
    cases hip : env.ip (ruleCmd (markText gp) (tableText gp)).args with
    | notSpawned cause => simp
    | failed stderr => simp
    | ok u =>
        by_cases hmem : ruleOf gp ∈ f.rules
        · simp only [hmem, if_true, true_and]
          exact ⟨Or.inl, fun h => h.elim id fun h => h ▸ hmem⟩
        · simp [hmem, mem_insertRule, or_comm]
  · rw [runIp_live]
    split <;> simp [hlive]

/-- What a command of a gateway can do. -/
inductive Effect (link : IpAddr → String) : Fib → Prop
  | same : Effect link f
  | floor : Effect link { f with routes := replaceRoute (floorOf gp) f.routes }
  | rule (h : ruleOf gp ∉ f.rules) : Effect link { f with rules := insertRule (ruleOf gp) f.rules }
  | live : Effect link { f with routes := setLive link gp f.routes }

/-- Every command of a gateway does one of these things. -/
lemma effect_of_mem {c : IpCmd} (hc : c ∈ cmdsOf gp) : Effect gp f env.link (env.runIp c f).1 := by
  simp only [cmdsOf, List.mem_cons, List.not_mem_nil, or_false] at hc
  rcases hc with rfl | rfl | rfl
  · rw [runIp_floor]
    split
    · exact .floor
    · exact .same
  · rw [runIp_rule]
    split
    · by_cases h : ruleOf gp ∈ f.rules
      · simpa [h] using Effect.same
      · simpa [h] using Effect.rule h
    · exact .same
    · exact .same
  · rw [runIp_live]
    split
    · exact .live
    · exact .same
    · exact .same

variable {env gp f} {link : IpAddr → String} {f' : Fib}

/-- Running the commands of a gateway, as far as one gets, keeps what the commands keep once the
floor is there: the floor comes first, and without it the run stops. -/
lemma run_behind_floor {P Q : Fib → Prop} (hP : P f)
    (hfloor : Q { f with routes := replaceRoute (floorOf gp) f.routes }) (hQP : ∀ f, Q f → P f)
    (hstep : ∀ c ∈ cmdsOf gp, ∀ f, Q f → Q (env.runIp c f).1) (k : ℕ) :
    P (Script.run env.runIp ((cmdsOf gp).take k) f).1 := by
  cases k with
  | zero => exact hP
  | succ k =>
      -- the floor comes first and its failure is not ignored
      have hfirst := runIp_floor env gp f
      cases hip : env.ip (floorCmd (tableText gp)).args with
      | notSpawned cause =>
          rw [hip] at hfirst
          rwa [cmdsOf, List.take_succ_cons, Script.run_cons_of_false hfirst]
      | failed stderr =>
          rw [hip] at hfirst
          rwa [cmdsOf, List.take_succ_cons, Script.run_cons_of_false hfirst]
      | ok u =>
          rw [hip] at hfirst
          rw [cmdsOf, List.take_succ_cons, Script.run_cons_of_true hfirst]
          exact hQP _ (Script.run_invariant (fun c hc =>
            hstep c (List.mem_cons_of_mem _ (List.mem_of_mem_take hc))) hfloor)

omit [Libraries] in
/-- What is put in place is in the table of the gateway and tagged. -/
lemma tagged_of_put {r : Route} (hr : r = floorOf gp ∨ liveOf link gp = some r) :
    r.table = tableOf gp ∧ r.proto = 194 := by
  rcases hr with rfl | hlive
  · exact ⟨rfl, rfl⟩
  · obtain ⟨htable, -, hproto, -⟩ := liveOf_eq_some hlive
    exact ⟨htable, hproto⟩

/-- What a command does to the routes: nothing, or the floor or the live default is put in place,
or there is none and the one that is there is removed. -/
lemma Effect.routes_cases (h : Effect gp f link f') :
    f'.routes = f.routes ∨
      (∃ r, (r = floorOf gp ∨ liveOf link gp = some r) ∧ f'.routes = replaceRoute r f.routes) ∨
      liveOf link gp = none ∧ f'.routes = f.routes.eraseP (isLive gp) := by
  cases h with
  | same => exact Or.inl rfl
  | rule h => exact Or.inl rfl
  | floor => exact Or.inr (Or.inl ⟨_, Or.inl rfl, rfl⟩)
  | live =>
      simp only [setLive]
      cases hl : liveOf link gp with
      | some r => exact Or.inr (Or.inl ⟨r, Or.inr rfl, rfl⟩)
      | none => exact Or.inr (Or.inr ⟨rfl, rfl⟩)

/-- Nothing is done to the routes of another table. -/
lemma Effect.filter_table (h : Effect gp f link f') {t : ℕ} (ht : tableOf gp ≠ t) :
    f'.routes.filter (·.table == t) = f.routes.filter (·.table == t) := by
  rcases h.routes_cases with heq | ⟨r, hr, heq⟩ | ⟨-, heq⟩
  · rw [heq]
  · have htable := (tagged_of_put hr).1
    rw [heq]
    refine filter_replaceRoute (by simpa [htable] using ht) fun r' _ hr' => ?_
    have hne : r.table ≠ r'.table := by
      rw [htable, beq_iff_eq.1 hr']
      exact ht
    simp [Route.sameKey, hne]
  · rw [heq]
    refine filter_eraseP fun r _ hr => ?_
    simp only [isLive, Bool.and_eq_true, beq_iff_eq] at hr
    simpa [hr.1.1.1] using ht

/-- The routes that are there were there, or are the floor or the live default. -/
lemma Effect.mem_routes (h : Effect gp f link f') {r : Route} (hr : r ∈ f'.routes) :
    r ∈ f.routes ∨ r = floorOf gp ∨ liveOf link gp = some r := by
  rcases h.routes_cases with heq | ⟨r', hr', heq⟩ | ⟨-, heq⟩
  · exact Or.inl (heq ▸ hr)
  · rw [heq] at hr
    rcases mem_replaceRoute.1 hr with rfl | ⟨hr, -⟩
    · exact Or.inr hr'
    · exact Or.inl hr
  · rw [heq] at hr
    exact Or.inl (List.mem_of_mem_eraseP hr)

/-- The routes that are there after a command of a gateway were there, or the command was let
through to put them in place. -/
lemma mem_routes_runIp {c : IpCmd} (hc : c ∈ cmdsOf gp) {r : Route}
    (hr : r ∈ (env.runIp c f).1.routes) :
    r ∈ f.routes ∨ env.ip c.args = .ok () ∧
      (c = floorCmd (tableText gp) ∧ r = floorOf gp ∨
        c = liveCmd (tableText gp) gp.egress ∧ liveOf env.link gp = some r) := by
  simp only [cmdsOf, List.mem_cons, List.not_mem_nil, or_false] at hc
  rcases hc with rfl | rfl | rfl
  · rw [runIp_floor] at hr
    split at hr
    · next hip =>
        rcases mem_replaceRoute.1 hr with rfl | ⟨hr, -⟩
        · exact Or.inr ⟨hip, Or.inl ⟨rfl, rfl⟩⟩
        · exact Or.inl hr
    · exact Or.inl hr
  · rw [runIp_rule] at hr
    split at hr
    · split at hr <;> exact Or.inl hr
    · exact Or.inl hr
    · exact Or.inl hr
  · rw [runIp_live] at hr
    split at hr
    · next hip =>
        simp only [setLive] at hr
        cases hl : liveOf env.link gp with
        | some r' =>
            rw [hl] at hr
            rcases mem_replaceRoute.1 hr with rfl | ⟨hr, -⟩
            · exact Or.inr ⟨hip, Or.inr ⟨rfl, rfl⟩⟩
            · exact Or.inl hr
        | none =>
            rw [hl] at hr
            exact Or.inl (List.mem_of_mem_eraseP hr)
    · exact Or.inl hr
    · exact Or.inl hr

end Effects

/-- No two gateways of a compiled plan share a table. -/
lemma table_ne {plan : Plan} {d : Desired} (h : Enforce.compile plan = .ok d)
    {before after : List GatewayPlan} {gp : GatewayPlan}
    (hplan : plan.gateways = before ++ gp :: after) :
    (∀ gp' ∈ before, tableOf gp' ≠ tableOf gp) ∧ ∀ gp' ∈ after, tableOf gp' ≠ tableOf gp := by
  have hnodup := (Nft.compile_eq_ok h).1.tables
  rw [List.map_map, hplan, List.map_append, List.map_cons, List.nodup_middle, List.nodup_cons,
    ← List.map_append] at hnodup
  have hne : ∀ gp' ∈ before ++ after, tableOf gp' ≠ tableOf gp := fun gp' hgp' heq =>
    hnodup.1 (List.mem_map.2 ⟨gp', hgp', UInt32.toNat_inj.1 heq⟩)
  exact ⟨fun gp' hgp' => hne gp' (List.mem_append_left _ hgp'),
    fun gp' hgp' => hne gp' (List.mem_append_right _ hgp')⟩

/-! ### Commands that stop the run -/

/-- A command stops a run when it cannot be started, or fails although it must not. -/
def Fatal (env : Env) (c : IpCmd) : Prop :=
  (∃ cause, env.ip c.args = .notSpawned cause) ∨
    c.ignoreFail = false ∧ ∃ stderr, env.ip c.args = .failed stderr

omit [Libraries] in
lemma not_fatal {env : Env} {c : IpCmd}
    (h : env.ip c.args = .ok () ∨ c.ignoreFail = true ∧ env.ip c.args = .failed "") :
    ¬ Fatal env c := by
  rintro (⟨cause, hc⟩ | ⟨hi, stderr, hc⟩) <;> rcases h with h | ⟨hi', h⟩ <;> simp_all

/-- A run stops at a command of a gateway exactly when the command is fatal. -/
lemma runIp_snd {env : Env} {gp : GatewayPlan} {c : IpCmd} (hc : c ∈ cmdsOf gp) (f : Fib) :
    (env.runIp c f).2 = false ↔ Fatal env c := by
  simp only [cmdsOf, List.mem_cons, List.not_mem_nil, or_false] at hc
  rw [Fatal]
  rcases hc with rfl | rfl | rfl
  · rw [runIp_floor]
    cases env.ip (floorCmd (tableText gp)).args <;> simp [floorCmd]
  · rw [runIp_rule]
    cases env.ip (ruleCmd (markText gp) (tableText gp)).args <;> simp [ruleCmd]
  · rw [runIp_live, liveOf]
    cases gp.egress with
    | interface iface =>
        cases env.ip (liveCmd (tableText gp) (.interface iface)).args <;> simp [liveCmd]
    | nextHop ip => cases env.ip (liveCmd (tableText gp) (.nextHop ip)).args <;> simp [liveCmd]
    | unavailable why =>
        cases env.ip (liveCmd (tableText gp) (.unavailable why)).args <;> simp [liveCmd]

end Degc.Route
