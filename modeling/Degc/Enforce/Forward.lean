import Degc.Enforce.Traverse

/-!
# How packets are routed on a host that is reached

The rules of the plans stand between those of the local and of the main table, and
the plans leave both tables alone: a packet without a mark is routed as on the clean
host, and a packet with the mark of a gateway by the table of the gateway when the
rule is there, and like one without a mark when it is not.

The main results are `Kept.route_unmarked`, `Kept.route_diverted` and
`Kept.route_undiverted`.
-/

namespace Fib

open Net

/-- A lookup depends only on the routes of its table. -/
lemma lookup_of_table {routes routes' : List Route} {t : ℕ}
    (h : routes'.filter (·.table == t) = routes.filter (·.table == t)) (dst : IpAddr) :
    lookup routes' t dst = lookup routes t dst := by
  have hcut : ∀ rs : List Route, rs.filter (·.serves t dst) =
      (rs.filter (·.table == t)).filter fun r => r.dst.contains dst := by
    intro rs
    rw [List.filter_filter]
    exact List.filter_congr fun r _ => by rw [Route.serves, Bool.and_comm]
  exact lookup_congr (by rw [hcut, hcut, h])

/-- Rules between those of the local and of the main table are asked between the tables. -/
lemma route_v4 {f : Fib} {ms : List Rule}
    (hrules : f.rules = localRule :: (ms ++ [mainRule, defaultRule])) (m : ℕ) (a : BitVec 32) :
    f.route m (.v4 a) = (lookup f.routes 255 (.v4 a)).or
      (((ms.filter (·.fits m)).findSome? fun r => lookup f.routes r.table (.v4 a)).or
        ((lookup f.routes 254 (.v4 a)).or (lookup f.routes 253 (.v4 a)))) := by
  have hlocal : localRule.fits m = true := rfl
  have hlast : [mainRule, defaultRule].filter (·.fits m) = [mainRule, defaultRule] := rfl
  rw [route, rulesFor, hrules, List.filter_cons, if_pos hlocal, List.filter_append, hlast,
    List.findSome?_cons, List.findSome?_append]
  simp only [localRule, mainRule, defaultRule, List.findSome?_cons, List.findSome?_nil]
  cases lookup f.routes 255 (.v4 a) <;> cases lookup f.routes 254 (.v4 a) <;>
    cases lookup f.routes 253 (.v4 a) <;> rfl

/-- Rules that all name one table, of which there is one, ask that table. -/
lemma findSome?_of_table {rules : List Rule} {t : ℕ} (ht : ∀ r ∈ rules, r.table = t)
    (hne : rules ≠ []) {routes : List Route} {dst : IpAddr} :
    (rules.findSome? fun r => lookup routes r.table dst) = lookup routes t dst := by
  induction rules with
  | nil => exact absurd rfl hne
  | cons r rules ih =>
      rw [List.forall_mem_cons] at ht
      rw [List.findSome?_cons, ht.1]
      cases hl : lookup routes t dst with
      | some r' => rfl
      | none =>
          cases rules with
          | nil => rfl
          | cons r' rules => exact (ih ht.2 (by simp)).trans hl

end Fib

namespace Degc

open Net Text Fib

variable {h₀ : Host} {f : Fib}

/-! ### The tables of the host -/

/-- The main table and the local table stay as they are. -/
lemma Kept.lookup_eq (hconn : Connected h₀) (hk : Kept h₀.fib f) {t : ℕ} (ht : t = 254 ∨ t = 255)
    (dst : IpAddr) : lookup f.routes t dst = lookup h₀.fib.routes t dst := by
  obtain ⟨r, hr, htable, h4⟩ : ∃ r ∈ h₀.fib.routes, r.table = t ∧ r.dst.addr.isIpv4 = true := by
    rcases ht with rfl | rfl
    · obtain ⟨r, hr, htable, hdst⟩ := hconn.main
      exact ⟨r, hr, htable, by rw [hdst]; rfl⟩
    · exact hconn.own
  exact lookup_of_table (htable ▸ hk.tables r hr h4) dst

/-- The main table has a route for every IPv4 address. -/
lemma Connected.lookup_main (hconn : Connected h₀) (a : BitVec 32) :
    ∃ r, lookup h₀.fib.routes 254 (.v4 a) = some r := by
  obtain ⟨r, hr, htable, hdst⟩ := hconn.main
  cases h : lookup h₀.fib.routes 254 (.v4 a) with
  | some r' => exact ⟨r', rfl⟩
  | none =>
      have hserves : r.serves 254 (.v4 a) = true := by simp [Route.serves, htable, hdst]
      rw [lookup_eq_none.1 h r hr] at hserves
      exact absurd hserves (by simp)

/-- A route for IPv4 on a clean, connected host. -/
lemma Connected.route_v4 (hconn : Connected h₀) (m : ℕ) (a : BitVec 32) :
    h₀.fib.route m (.v4 a) =
      (lookup h₀.fib.routes 255 (.v4 a)).or (lookup h₀.fib.routes 254 (.v4 a)) := by
  obtain ⟨r, hr⟩ := hconn.lookup_main a
  have hrules : h₀.fib.rules = localRule :: ([] ++ [mainRule, defaultRule]) := hconn.rules
  rw [Fib.route_v4 hrules, hr]
  rfl

/-! ### Packets without and with a mark -/

/-- A packet without a mark is routed as on the clean host. -/
lemma Kept.route_unmarked (hconn : Connected h₀) (hk : Kept h₀.fib f) (dst : IpAddr) :
    f.route 0 dst = h₀.fib.route 0 dst := by
  cases dst with
  | v4 a =>
      obtain ⟨ms, hms, hours⟩ := hk.rules
      obtain ⟨r, hr⟩ := hconn.lookup_main a
      have hnone : ms.filter (·.fits 0) = [] := by
        rw [List.filter_eq_nil_iff]
        intro r' hr' hfits
        obtain ⟨-, m, hm0, hm, hmark⟩ := hours r' hr'
        obtain ⟨prio, mark, table⟩ := r'
        obtain rfl : mark = some (m, fullMask) := hmark
        exact hm0.ne ((fits_fullMask hm (by decide)).1 hfits)
      rw [Fib.route_v4 hms, hconn.route_v4, hnone, hk.lookup_eq hconn (Or.inl rfl),
        hk.lookup_eq hconn (Or.inr rfl), hr]
      rfl
  | v6 a =>
      -- there are no rules of IPv6 but those of the host
      have hroutes : ∀ r ∈ [localRule, mainRule],
          lookup f.routes r.table (.v6 a) = lookup h₀.fib.routes r.table (.v6 a) := by
        intro r hr
        simp only [List.mem_cons, List.not_mem_nil, or_false] at hr
        rcases hr with rfl | rfl
        · exact hk.lookup_eq hconn (Or.inr rfl) _
        · exact hk.lookup_eq hconn (Or.inl rfl) _
      have hfits : [localRule, mainRule].filter (·.fits 0) = [localRule, mainRule] := rfl
      rw [route, route, rulesFor, rulesFor, hk.rules6, hconn.rules6, hfits,
        List.findSome?_cons, List.findSome?_cons, List.findSome?_cons, List.findSome?_cons,
        hroutes localRule (by simp), hroutes mainRule (by simp)]
      rfl

variable [Libraries]

/-- The rules from the mark of a gateway are its own. -/
def OwnRules (gp : GatewayPlan) (f : Fib) : Prop :=
  ∀ r ∈ f.rules, ∀ m, r.mark = some (Nft.markOf gp, m) → r.table = Route.tableOf gp

/-- A rule between the usual ones that a packet with the mark of a gateway fits is the one of the
gateway. -/
lemma OwnRules.eq_ruleOf {gp : GatewayPlan} (hown : OwnRules gp f)
    (hmark : Nft.markOf gp < 2 ^ 32) {r : Rule} (hr : r ∈ f.rules) (hours : OurRule r)
    (hfits : r.fits (Nft.markOf gp) = true) : r = Route.ruleOf gp := by
  obtain ⟨hprio, m, -, hm, hrm⟩ := hours
  have htable := hown r hr
  obtain ⟨prio, mark, table⟩ := r
  obtain rfl : mark = some (m, fullMask) := hrm
  obtain rfl : Nft.markOf gp = m := (fits_fullMask hm hmark).1 hfits
  obtain rfl : prio = 100 := hprio
  obtain rfl : table = Route.tableOf gp := htable fullMask rfl
  rfl

/-- A packet with the mark of a gateway is routed by the table of the gateway when the rule of the
gateway is there and the table has a route. -/
lemma Kept.route_diverted (hk : Kept h₀.fib f) {gp : GatewayPlan} (hown : OwnRules gp f)
    (hmark : Nft.markOf gp < 2 ^ 32) (hrule : Route.ruleOf gp ∈ f.rules) {a : BitVec 32}
    (hlocal : lookup f.routes 255 (.v4 a) = none)
    (hfloor : lookup f.routes (Route.tableOf gp) (.v4 a) ≠ none) :
    f.route (Nft.markOf gp) (.v4 a) = lookup f.routes (Route.tableOf gp) (.v4 a) := by
  obtain ⟨ms, hms, hours⟩ := hk.rules
  have hfits : (Route.ruleOf gp).fits (Nft.markOf gp) = true := (fits_fullMask hmark hmark).2 rfl
  have hmem : Route.ruleOf gp ∈ ms.filter (·.fits (Nft.markOf gp)) := by
    refine List.mem_filter.2 ⟨?_, hfits⟩
    have hne : ∀ r ∈ [localRule, mainRule, defaultRule], Route.ruleOf gp ≠ r := by
      simp [Route.ruleOf, localRule, mainRule, defaultRule]
    rw [hms, List.mem_cons, List.mem_append] at hrule
    rcases hrule with h | h | h
    · exact absurd h (hne _ (by simp))
    · exact h
    · exact absurd rfl (hne _ (List.mem_cons_of_mem _ h))
  -- all rules for the mark look up the table of the gateway, in whatever order they are
  have htable : ∀ r ∈ ms.filter (·.fits (Nft.markOf gp)), r.table = Route.tableOf gp := by
    intro r hr
    obtain ⟨hr, hfits⟩ := List.mem_filter.1 hr
    have hrules : r ∈ f.rules := by
      rw [hms]
      exact List.mem_cons_of_mem _ (List.mem_append_left _ hr)
    rw [hown.eq_ruleOf hmark hrules (hours r hr) hfits]
    rfl
  rw [Fib.route_v4 hms, hlocal, findSome?_of_table htable (List.ne_nil_of_mem hmem)]
  cases hl : lookup f.routes (Route.tableOf gp) (.v4 a) with
  | none => exact absurd hl hfloor
  | some r => rfl

/-- A packet with the mark of a gateway whose rule is not there is routed as one without a
mark. -/
lemma Kept.route_undiverted (hconn : Connected h₀) (hk : Kept h₀.fib f) {gp : GatewayPlan}
    (hown : OwnRules gp f) (hmark : Nft.markOf gp < 2 ^ 32) (hrule : Route.ruleOf gp ∉ f.rules)
    {a : BitVec 32} (hlocal : lookup f.routes 255 (.v4 a) = none) :
    f.route (Nft.markOf gp) (.v4 a) = lookup h₀.fib.routes 254 (.v4 a) := by
  obtain ⟨ms, hms, hours⟩ := hk.rules
  obtain ⟨r, hr⟩ := hconn.lookup_main a
  have hnone : ms.filter (·.fits (Nft.markOf gp)) = [] := by
    rw [List.filter_eq_nil_iff]
    intro r hr hfits
    have hrules : r ∈ f.rules := by
      rw [hms]
      exact List.mem_cons_of_mem _ (List.mem_append_left _ hr)
    exact hrule (hown.eq_ruleOf hmark hrules (hours r hr) hfits ▸ hrules)
  rw [Fib.route_v4 hms, hlocal, hnone, hk.lookup_eq hconn (Or.inl rfl), hr]
  rfl

/-! ### The rules behind a run -/

/-- No two gateways of a compiled plan share a mark. -/
lemma Compiled.eq_of_mark {p : Plan} {d : Desired} (hc : Compiled p d) {gp gp' : GatewayPlan}
    (hgp : gp ∈ p.gateways) (hgp' : gp' ∈ p.gateways) (h : Nft.markOf gp = Nft.markOf gp') :
    gp = gp' := by
  have hnodup := (Nft.compile_eq_ok hc.compile).1.marks
  rw [List.map_map] at hnodup
  exact List.inj_on_of_nodup_map hnodup hgp hgp' (UInt32.toNat_inj.1 h)

/-- No two gateways of a compiled plan share a table. -/
lemma Compiled.eq_of_table {p : Plan} {d : Desired} (hc : Compiled p d) {gp gp' : GatewayPlan}
    (hgp : gp ∈ p.gateways) (hgp' : gp' ∈ p.gateways) (h : Route.tableOf gp = Route.tableOf gp') :
    gp = gp' := by
  have hnodup := (Nft.compile_eq_ok hc.compile).1.tables
  rw [List.map_map] at hnodup
  exact List.inj_on_of_nodup_map hnodup hgp hgp' (UInt32.toNat_inj.1 h)

/-- Running commands of gateways removes no rule, and adds rules of the gateways only. -/
lemma rules_of_run (env : Env) {gps : List GatewayPlan} {cs : List Route.IpCmd}
    (hcs : ∀ c ∈ cs, c ∈ gps.flatMap Route.cmdsOf) (f : Fib) :
    (∀ r ∈ f.rules, r ∈ (Script.run env.runIp cs f).1.rules) ∧
      ∀ r ∈ (Script.run env.runIp cs f).1.rules, r ∈ f.rules ∨ ∃ gp ∈ gps, r = Route.ruleOf gp := by
  refine Script.run_invariant (P := fun f' : Fib => (∀ r ∈ f.rules, r ∈ f'.rules) ∧
    ∀ r ∈ f'.rules, r ∈ f.rules ∨ ∃ gp ∈ gps, r = Route.ruleOf gp) (fun c hc f' hf' => ?_)
    ⟨fun _ hr => hr, fun _ hr => Or.inl hr⟩
  obtain ⟨gp, hgp, hcmd⟩ := List.mem_flatMap.1 (hcs c hc)
  constructor
  · intro r hr
    exact (Route.mem_rules_runIp env gp f' hcmd r).2 (Or.inl (hf'.1 r hr))
  · intro r hr
    rcases (Route.mem_rules_runIp env gp f' hcmd r).1 hr with hr | ⟨-, -, rfl⟩
    · exact hf'.2 r hr
    · exact Or.inr ⟨gp, hgp, rfl⟩

/-- A run of commands of a plan that passed the check leaves each gateway the rules from its
mark. -/
lemma Compiled.ownRules {p : Plan} {d : Desired} (hc : Compiled p d) {f : Fib}
    (hfree : ∀ gp ∈ p.gateways, Route.Free f gp) (env : Env) {cs : List Route.IpCmd}
    (hcs : ∀ c ∈ cs, c ∈ p.gateways.flatMap Route.cmdsOf) :
    ∀ gp ∈ p.gateways, OwnRules gp (Script.run env.runIp cs f).1 := by
  intro gp hgp r hr m hmark
  rcases (rules_of_run env hcs f).2 r hr with hold | ⟨gp', hgp', rfl⟩
  · exact ((hfree gp hgp).rules r hold m hmark).1
  · have hsame : Nft.markOf gp' = Nft.markOf gp := by
      simpa [Route.ruleOf] using congrArg (Option.map Prod.fst) hmark
    rw [hc.eq_of_mark hgp' hgp hsame]
    rfl

end Degc
