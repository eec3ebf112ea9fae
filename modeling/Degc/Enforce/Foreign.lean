import Degc.Enforce.Reachable
import Degc.Enforce.Teardown

/-!
# What belongs to others

Plans are applied and configurations taken down, in any order, on any host.  The
check before a plan is applied keeps the commands away from tables with IPv4 routes
of others, and what is removed is named by the protocol tag or by a mark and a table.

The main result is `Operated.untouched`: the IPv4 routes without the protocol tag
stay as they are, and so do the rules from other marks, or to other tables, than
those of the gateways.
-/

namespace Degc

open Net Text Fib

/-- Whether a route is an IPv4 route without the protocol tag. -/
def isForeign (r : Route) : Bool := r.dst.addr.isIpv4 && r.proto != 194

/-- A rule from no mark of a gateway to its table, given the marks and tables that are used. -/
def ForeignRule (used : ℕ → ℕ → Prop) (r : Rule) : Prop :=
  ∀ m, r.mark = some (m, fullMask) → ¬ used m r.table

variable [Libraries]

/-- A host that is reached from another one by applying plans and taking configurations down,
whatever fails and wherever applying is stopped.  The marks and tables of the gateways are among
those that are used. -/
inductive Operated (used : ℕ → ℕ → Prop) (h₀ : Host) : Host → Prop
  | start : Operated used h₀ h₀
  | apply {h : Host} {p : Plan} {d : Desired} (hr : Operated used h₀ h) (hc : Compiled p d)
      (hused : ∀ gp ∈ p.gateways, used (Nft.markOf gp) (Route.tableOf gp)) (env : Env) (k : ℕ) :
      Operated used h₀ (Enforce.apply env.world (d.upTo k) h).1
  | down {h : Host} {gws : Gateways} (hr : Operated used h₀ h) (hvalid : gws.validate = .ok ())
      (hused : ∀ g ∈ gws, used g.effectiveMark.toNat g.tableId.toNat) (env : Env) :
      Operated used h₀ (Enforce.down env.world gws h).1

/-- What stays: the foreign routes and rules; and the devices have names that are words. -/
structure Untouched (used : ℕ → ℕ → Prop) (f₀ f : Fib) : Prop where
  routes : f.routes.filter isForeign = f₀.routes.filter isForeign
  rules : ∀ r ∈ f₀.rules, ForeignRule used r → r ∈ f.rules
  devs : ∀ r ∈ f.routes, ∀ dev ∈ r.hop.oif, IsWord dev

/-- A command of a gateway whose table has no foreign routes touches none. -/
lemma Untouched.effect {used : ℕ → ℕ → Prop} {f₀ f f' : Fib} (h : Untouched used f₀ f)
    {gp : GatewayPlan} (hegress : Nft.PlainEgress gp.egress)
    (hfree : ∀ r ∈ f₀.routes, isForeign r = true → r.table ≠ Route.tableOf gp)
    {link : IpAddr → String} (hlink : ∀ a, IsWord (link a)) (he : Route.Effect gp f link f') :
    Untouched used f₀ f' where
  routes := by
    rw [← h.routes]
    have hapart : ∀ r ∈ f.routes, isForeign r = true → r.table ≠ Route.tableOf gp := by
      intro r hr hforeign
      have hmem : r ∈ f₀.routes.filter isForeign := h.routes ▸ List.mem_filter.2 ⟨hr, hforeign⟩
      exact hfree r (List.mem_filter.1 hmem).1 hforeign
    rcases he.routes_cases with heq | ⟨r, hr, heq⟩ | ⟨-, heq⟩ <;> rw [heq]
    · obtain ⟨htable, hproto⟩ := Route.tagged_of_put hr
      refine filter_replaceRoute (by simp [isForeign, hproto]) fun r' hr' hforeign => ?_
      rw [← Bool.not_eq_true, Route.sameKey_iff]
      exact fun hkey => hapart r' hr' hforeign (hkey.1.symm.trans htable)
    · refine filter_eraseP fun r _ hr => ?_
      simp only [Route.isLive, Bool.and_eq_true, beq_iff_eq] at hr
      simp [isForeign, hr.1.2]
  rules := fun r hr hforeign => by
    have hold := h.rules r hr hforeign
    cases he with
    | rule hnew => exact mem_insertRule.2 (Or.inr hold)
    | _ => exact hold
  devs := fun r hr => by
    rcases he.mem_routes hr with hr | rfl | hl
    · exact h.devs r hr
    · exact (ourRoute_floor gp).devs
    · exact (ourRoute_live hlink hegress hl).devs

/-- A command that takes a gateway down touches nothing foreign. -/
lemma Untouched.downCmd {used : ℕ → ℕ → Prop} {f₀ f : Fib} (h : Untouched used f₀ f) {g : Gateway}
    (hused : used g.effectiveMark.toNat g.tableId.toNat) (env : Env) {c : Route.IpCmd}
    (hc : c ∈ Route.downCmdsOf g) : Untouched used f₀ (env.runIp c f).1 := by
  simp only [Route.downCmdsOf, List.mem_cons, List.not_mem_nil, or_false] at hc
  rcases hc with rfl | rfl
  · rw [Route.runIp_ruleDel]
    split
    · refine ⟨h.routes, fun r hr hforeign => ?_, h.devs⟩
      refine (List.mem_eraseP_of_neg ?_).2 (h.rules r hr hforeign)
      simp only [Route.isRule, Bool.and_eq_true, beq_iff_eq, not_and]
      exact fun hmark htable => hforeign _ hmark (htable ▸ hused)
    · exact h
    · exact h
  · rw [Route.runIp_flush]
    split
    · refine ⟨?_, h.rules, fun r hr => h.devs r (List.mem_filter.1 hr).1⟩
      rw [← h.routes, List.filter_filter]
      refine List.filter_congr fun r _ => ?_
      cases hforeign : isForeign r with
      | false => rfl
      | true =>
          simp only [isForeign, Bool.and_eq_true, bne_iff_ne] at hforeign
          simp [Route.isFlushed, hforeign.2]
    · exact h
    · exact h

/-- Whatever is applied and taken down, foreign routes and rules are not touched. -/
theorem Operated.untouched {used : ℕ → ℕ → Prop} {h₀ h : Host}
    (hdev : ∀ r ∈ h₀.fib.routes, ∀ dev ∈ r.hop.oif, IsWord dev) (hr : Operated used h₀ h) :
    Untouched used h₀.fib h.fib := by
  induction hr with
  | start => exact ⟨rfl, fun r hr _ => hr, hdev⟩
  | @apply h p d _ hc _ env k ih =>
      rcases env.apply_fst (d.upTo k) h with hsame | ⟨hcheck, rs, -, happly⟩
      · rwa [hsame]
      · have hfree := (hc.preflight ih.devs).1 hcheck
        rw [happly]
        refine Script.run_invariant (fun c hmem f hf => ?_) ih
        have hmem' : c ∈ p.gateways.flatMap Route.cmdsOf := hc.ip ▸ List.mem_of_mem_take hmem
        obtain ⟨gp, hgp, hcmd⟩ := List.mem_flatMap.1 hmem'
        refine hf.effect (hc.plainEgress gp hgp) (fun r hr hforeign htable => ?_) env.isWord_link
          (Route.effect_of_mem env gp f hcmd)
        -- the foreign routes of the table were there when the check passed
        have hthere : r ∈ h.fib.routes.filter isForeign :=
          ih.routes ▸ List.mem_filter.2 ⟨hr, hforeign⟩
        simp only [isForeign, Bool.and_eq_true, bne_iff_ne] at hforeign
        exact hforeign.2 ((hfree gp hgp).routes r (List.mem_filter.1 hthere).1 htable hforeign.1)
  | @down h gws _ hvalid hused env ih =>
      have hgws := (Gateways.validate_eq_ok.1 hvalid).gateways
      rcases Route.down_fst env hgws h with hsame | ⟨rs, -, hdown⟩
      · rwa [hsame]
      · rw [hdown]
        refine Script.run_invariant (fun c hmem f hf => ?_) ih
        obtain ⟨g, hg, hcmd⟩ := List.mem_flatMap.1 hmem
        exact hf.downCmd (hused g hg) env hcmd

omit [Libraries] in
/-- Applying the plan of the home network and taking its configuration down touches nothing
foreign. -/
theorem untouched_homePlan : ∃ d, @Compiled .plain (homePlan 100 []) d ∧
    Untouched (fun m t => m = 4 ∧ t = 100) homeHost.fib (@Enforce.down .plain _ Env.allOk.world
      (vpnGateways 100) (@Enforce.apply .plain _ Env.allOk.world (d.upTo 3) homeHost).1).1.fib := by
  obtain ⟨d, hc⟩ := exists_compiled [] "degc" (vpnGateways 100) (by decide) (by decide)
  refine ⟨d, hc, @Operated.untouched .plain _ _ _ (by decide) ?_⟩
  exact @Operated.down .plain _ _ _ _ (@Operated.apply .plain _ _ _ _ d (@Operated.start .plain _ _)
    hc (by decide) Env.allOk 3) (by decide) (by decide) Env.allOk

end Degc
