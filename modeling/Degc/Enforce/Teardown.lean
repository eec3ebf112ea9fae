import Degc.Enforce.Commands

/-!
# Taking a configuration down

Taking down removes the table of the packet filter and then, for each gateway of the
configuration, its rule and the IPv4 routes with the protocol tag in its table.  None
of the commands for the routing stops the run unless it cannot be started.

The main results are the effects of the two commands of a gateway (`runIp_ruleDel`,
`runIp_flush`) and what a whole run does to the host (`down_fst`, `down_of_lets`).
-/

namespace Degc.Route

open Net Text Fib Netfilter

variable [Libraries]

/-! ### The commands -/

/-- The command that removes the rule of a gateway. -/
def ruleDelCmd (g : Gateway) : IpCmd where
  args := ["rule", "del", "fwmark", "0x" ++ hex g.effectiveMark.toNat, "table", toString g.tableId]
  ignoreFail := true

omit [Libraries] in
/-- The command that removes the routes in the table of a gateway. -/
def flushCmd (g : Gateway) : IpCmd where
  args := ["route", "flush", "table", toString g.tableId, "proto", rtProto]
  ignoreFail := true

/-- The commands that take a gateway down. -/
def downCmdsOf (g : Gateway) : List IpCmd := [ruleDelCmd g, flushCmd g]

/-- The commands that take valid gateways down. -/
lemma teardown_eq {gws : Gateways} (h : ∀ g ∈ gws, g.Valid) :
    teardown gws = .ok (gws.flatMap downCmdsOf) := by
  have hcmds : ∀ g ∈ gws, teardownCmds g = .ok (downCmdsOf g) := by
    intro g hg
    rw [teardownCmds, (h g hg).markValue.1]
    rfl
  rw [teardown, mapM_of_ok hcmds]
  rfl

/-- Whether a rule is from the mark of a gateway to its table. -/
def isRule (g : Gateway) (r : Fib.Rule) : Bool :=
  r.mark == some (g.effectiveMark.toNat, fullMask) && r.table == g.tableId.toNat

/-- Whether a route is an IPv4 route with the protocol tag in the table of a gateway. -/
def isFlushed (g : Gateway) (r : Route) : Bool :=
  r.table == g.tableId.toNat && r.proto == 194 && r.dst.addr.isIpv4

/-- The rule of a gateway of a plan is that of a gateway with its table and its mark. -/
lemma isRule_ruleOf {g : Gateway} {gp : GatewayPlan} : isRule g (ruleOf gp) = true ↔
    g.tableId = gp.gateway.tableId ∧ g.effectiveMark = gp.gateway.effectiveMark := by
  simp only [isRule, ruleOf, tableOf, Nft.markOf, Bool.and_eq_true, beq_iff_eq, Option.some.injEq,
    Prod.mk.injEq, and_true, UInt32.toNat_inj]
  exact ⟨fun h => ⟨h.2.symm, h.1.symm⟩, fun h => ⟨h.2.symm, h.1.symm⟩⟩

section Effects

variable (env : Env) (g : Gateway) (f : Fib)

/-- The rule is removed unless the command fails, which does not stop the run. -/
lemma runIp_ruleDel :
    env.runIp (ruleDelCmd g) f =
      match env.ip (ruleDelCmd g).args with
      | .ok () => ({ f with rules := f.rules.eraseP (isRule g) }, true)
      | .failed _ => (f, true)
      | .notSpawned _ => (f, false) := by
  have hexec : Iproute.exec env.link (ruleDelCmd g).args f =
      if f.rules.any (isRule g) then .ok { f with rules := f.rules.eraseP (isRule g) }
      else .error "RTNETLINK answers: No such file or directory" :=
    Iproute.exec_ruleDel env.link f g.tableId.toNat g.effectiveMark.toNat
  rw [Env.runIp, hexec]
  cases env.ip (ruleDelCmd g).args with
  | notSpawned cause => rfl
  | failed stderr => rfl
  | ok u =>
      by_cases hany : f.rules.any (isRule g) = true
      · rw [if_pos hany]
      · -- there is no such rule: the command fails, and removing it changes nothing
        have hsame : f.rules.eraseP (isRule g) = f.rules :=
          List.eraseP_of_forall_not fun r hr hrule => hany (List.any_eq_true.2 ⟨r, hr, hrule⟩)
        rw [if_neg hany, hsame]
        rfl

omit [Libraries] in
/-- The routes are removed unless the command fails, which does not stop the run. -/
lemma runIp_flush :
    env.runIp (flushCmd g) f =
      match env.ip (flushCmd g).args with
      | .ok () => ({ f with routes := f.routes.filter fun r => !isFlushed g r }, true)
      | .failed _ => (f, true)
      | .notSpawned _ => (f, false) := by
  have hexec : Iproute.exec env.link (flushCmd g).args f =
      .ok { f with routes := f.routes.filter fun r => !isFlushed g r } :=
    Iproute.exec_routeFlush env.link f g.tableId.toNat 194
  rw [Env.runIp, hexec]
  cases env.ip (flushCmd g).args <;> rfl

end Effects

/-- What the commands do when all of them are let through. -/
lemma run_down {env : Env} {gws : Gateways}
    (hip : ∀ g ∈ gws, ∀ c ∈ downCmdsOf g, env.ip c.args = .ok ()) (f : Fib) :
    (Script.run env.runIp (gws.flatMap downCmdsOf) f).1 =
      { f with
        rules := gws.foldl (fun rules g => rules.eraseP (isRule g)) f.rules
        routes := f.routes.filter fun r => gws.all fun g => !isFlushed g r } := by
  induction gws generalizing f with
  | nil => simp
  | cons g gws ih =>
      rw [List.forall_mem_cons] at hip
      have hdel := runIp_ruleDel env g f
      rw [hip.1 _ (by simp [downCmdsOf])] at hdel
      have hflush := runIp_flush env g { f with rules := f.rules.eraseP (isRule g) }
      rw [hip.1 _ (by simp [downCmdsOf])] at hflush
      rw [List.flatMap_cons, downCmdsOf, List.cons_append, Script.run_cons_of_true hdel,
        List.cons_append, Script.run_cons_of_true hflush, List.nil_append, ih hip.2]
      simp [List.filter_filter, Bool.and_comm]

/-! ### The whole of it -/

omit [Libraries] in
/-- The script removes the table, whether it was there or not. -/
lemma loadText_teardownScript (rs : Ruleset) :
    ∃ rs', loadText Nft.teardownScript rs = some rs' ∧ rs'["inet degc"]? = none := by
  have hread : readScript Nft.teardownScript =
      some [.addTable "inet degc", .deleteTable "inet degc"] := by decide
  refine ⟨(rs.insertIfNew "inet degc" {}).erase "inet degc", ?_, by simp⟩
  simp [loadText, hread, load, Loader.steps_cons, Loader.step]

/-- Where the programs are let through, the table is removed and the commands are run. -/
theorem down_of_lets {env : Env} {gws : Gateways} (hvalid : ∀ g ∈ gws, g.Valid)
    (hnft : env.nft Nft.teardownScript = .ok ()) (h : Host) :
    ∃ rs, rs["inet degc"]? = none ∧ (Enforce.down env.world gws h).1 =
      ⟨rs, (Script.run env.runIp (gws.flatMap downCmdsOf) h.fib).1⟩ := by
  obtain ⟨rs, hload, hnone⟩ := loadText_teardownScript h.nft
  refine ⟨rs, hnone, ?_⟩
  simp only [Enforce.down, Enforce.nftApply, Env.world, hnft, hload, teardown_eq hvalid]
  exact (env.routeApply_eq _ _).1

/-- Taking valid gateways down leaves the host as it is, or removes the table and runs the
commands. -/
theorem down_fst (env : Env) {gws : Gateways} (hvalid : ∀ g ∈ gws, g.Valid) (h : Host) :
    (Enforce.down env.world gws h).1 = h ∨ ∃ rs, rs["inet degc"]? = none ∧
      (Enforce.down env.world gws h).1 =
        ⟨rs, (Script.run env.runIp (gws.flatMap downCmdsOf) h.fib).1⟩ := by
  cases hnft : env.nft Nft.teardownScript with
  | notSpawned cause => exact Or.inl (by simp [Enforce.down, Enforce.nftApply, Env.world, hnft])
  | failed stderr => exact Or.inl (by simp [Enforce.down, Enforce.nftApply, Env.world, hnft])
  | ok u => exact Or.inr (down_of_lets hvalid hnft h)

end Degc.Route
