import Degc.Enforce.Foreign
import Degc.Enforce.KillSwitch

/-!
# What others do to the host

Others have tables of the packet filter of their own, which stay as they are
(`Operated.tables`).  They may also take away what plans installed: a manager of the
network removes rules it does not know, the kernel withdraws routes, an administrator
flushes the packet filter.  The next plan that is applied puts everything back
(`Meddled.restored`).  Where the table is gone, the rules and routes that are left do
nothing (`Meddled.released`).
-/

namespace Degc

open Net Text Fib Netfilter

variable [Libraries]

/-! ### The tables of others -/

omit [Libraries] in
/-- Taking down leaves the other tables as they are. -/
lemma loadText_teardownScript_other {rs rs' : Ruleset}
    (hload : loadText Nft.teardownScript rs = some rs') {key : String} (hkey : key ≠ "inet degc") :
    rs'[key]? = rs[key]? := by
  have hread : readScript Nft.teardownScript =
      some [.addTable "inet degc", .deleteTable "inet degc"] := by decide
  have hrs' : (rs.insertIfNew "inet degc" {}).erase "inet degc" = rs' := by
    simpa [loadText, hread, load, Loader.steps_cons, Loader.step] using hload
  rw [← hrs']
  simp [Std.TreeMap.getElem?_erase, Std.TreeMap.getElem?_insertIfNew, hkey.symm]

/-- The same of taking a configuration down. -/
lemma nft_down (env : Env) {gws : Gateways} (hvalid : ∀ g ∈ gws, g.Valid) (h : Host) {key : String}
    (hkey : key ≠ "inet degc") : (Enforce.down env.world gws h).1.nft[key]? = h.nft[key]? := by
  cases hnft : env.nft Nft.teardownScript with
  | notSpawned cause => simp [Enforce.down, Enforce.nftApply, Env.world, hnft]
  | failed stderr => simp [Enforce.down, Enforce.nftApply, Env.world, hnft]
  | ok u =>
      obtain ⟨rs, hload, -⟩ := Route.loadText_teardownScript h.nft
      have hdown : (Enforce.down env.world gws h).1.nft = rs := by
        simp only [Enforce.down, Enforce.nftApply, Env.world, hnft, hload,
          Route.teardown_eq hvalid]
        exact congrArg Host.nft (env.routeApply_eq _ _).1
      rw [hdown, loadText_teardownScript_other hload hkey]

/-- Whatever is applied and taken down, and whatever fails, the tables of others are as they
were. -/
theorem Operated.tables {used : ℕ → ℕ → Prop} {h₀ h : Host} (hr : Operated used h₀ h) {key : String}
    (hkey : key ≠ "inet degc") : h.nft[key]? = h₀.nft[key]? := by
  induction hr with
  | start => rfl
  | @apply h p d _ hc _ env k ih =>
      rcases env.apply_fst (d.upTo k) h with hsame | ⟨-, rs, hload, happly⟩
      · rwa [hsame]
      · rw [happly, ← ih]
        have hscript := (Nft.compile_eq_ok hc.compile).2.1
        exact (Nft.loadText_congr hc.plainEgress hscript hload hload).2 key hkey
  | @down h gws _ hvalid _ env ih =>
      rw [← ih]
      exact nft_down env (Gateways.validate_eq_ok.1 hvalid).gateways h hkey

/-- The host in the home network, with a table of another program. -/
def natHost : Host := { homeHost with nft := (∅ : Ruleset).insert "ip nat" {} }

omit [Libraries] in
/-- Applying the plan of the home network and taking its configuration down leaves the table of
another program as it is. -/
theorem tables_homePlan : ∃ d, @Compiled .plain (homePlan 100 []) d ∧
    (@Enforce.down .plain _ Env.allOk.world (vpnGateways 100) (@Enforce.apply .plain _
      Env.allOk.world (d.upTo 3) natHost).1).1.nft["ip nat"]? = some {} := by
  obtain ⟨d, hc⟩ := exists_compiled [] "degc" (vpnGateways 100) (by decide) (by decide)
  have hoperated := @Operated.down .plain (fun m t => m = 4 ∧ t = 100) natHost _ (vpnGateways 100)
    (@Operated.apply .plain _ _ _ _ d (@Operated.start .plain _ _) hc (by decide) Env.allOk 3)
    (by decide) (by decide) Env.allOk
  refine ⟨d, hc, (@Operated.tables .plain _ _ _ hoperated "ip nat" (by decide)).trans ?_⟩
  simp [natHost]

/-! ### What others take away -/

/-- Others take rules and routes away. -/
def Host.takeAway (h : Host) (goneRule : Fib.Rule → Bool) (goneRoute : Fib.Route → Bool) : Host :=
  { h with
    fib := { h.fib with
      rules := h.fib.rules.filter fun r => !goneRule r
      routes := h.fib.routes.filter fun r => !goneRoute r } }

omit [Libraries] in
lemma takeAway_none (h : Host) : h.takeAway (fun _ => false) (fun _ => false) = h := by
  simp [Host.takeAway]

/-- A host that is reached by applying plans and taking configurations down, whatever fails and
wherever applying is stopped, while others take away what plans install and make of the packet
filter what they like. -/
inductive Meddled (h₀ : Host) : Host → Prop
  | start : Meddled h₀ h₀
  | apply {h : Host} {p : Plan} {d : Desired} (hr : Meddled h₀ h) (hc : Compiled p d) (env : Env)
      (k : ℕ) : Meddled h₀ (Enforce.apply env.world (d.upTo k) h).1
  | down {h : Host} {gws : Gateways} (hr : Meddled h₀ h) (hvalid : gws.validate = .ok ())
      (env : Env) : Meddled h₀ (Enforce.down env.world gws h).1
  | takeAway {h : Host} (hr : Meddled h₀ h) {goneRule : Fib.Rule → Bool}
      {goneRoute : Fib.Route → Bool} (hrule : ∀ r, goneRule r = true → OurRule r)
      (hroute : ∀ r, goneRoute r = true → r.proto = 194) :
      Meddled h₀ (h.takeAway goneRule goneRoute)
  | flush {h : Host} (hr : Meddled h₀ h) (nft : Ruleset) : Meddled h₀ { h with nft := nft }

section Less

variable {h₀ h : Host} {f : Fib}

omit [Libraries] in
/-- What is kept of a clean host is kept when tagged routes are taken away. -/
lemma Kept.filter_routes (hclean : Clean h₀) (hk : Kept h₀.fib f) {gone : Fib.Route → Bool}
    (hgone : ∀ r, gone r = true → r.proto = 194) :
    Kept h₀.fib { f with routes := f.routes.filter fun r => !gone r } where
  rules := hk.rules
  rules6 := hk.rules6
  tables r hr h4 := by
    have htable := hk.tables r hr h4
    have hcut : (f.routes.filter fun r => !gone r).filter (·.table == r.table) =
        (f.routes.filter (·.table == r.table)).filter fun r => !gone r := by
      rw [List.filter_filter, List.filter_filter]
      simp only [Bool.and_comm]
    rw [hcut, htable, List.filter_eq_self]
    intro r' hr'
    -- the routes of the clean host are not tagged
    have hproto := hclean.proto r' (List.mem_filter.1 hr').1
    simpa using fun hg => hproto (hgone r' hg)
  routes r hr := hk.routes r (List.mem_filter.1 hr).1

omit [Libraries] in
/-- The same when others take away what plans install. -/
lemma Kept.takeAway (hclean : Clean h₀) (hk : Kept h₀.fib h.fib) {goneRule : Fib.Rule → Bool}
    {goneRoute : Fib.Route → Bool} (hrule : ∀ r, goneRule r = true → OurRule r)
    (hroute : ∀ r, goneRoute r = true → r.proto = 194) :
    Kept h₀.fib (h.takeAway goneRule goneRoute).fib := by
  have hk' := hk.filter_routes hclean hroute
  obtain ⟨ms, hms, hours⟩ := hk.rules
  have hstays : ∀ r : Fib.Rule, r.mark = none → goneRule r = false := by
    intro r hnone
    by_contra hgone
    obtain ⟨-, m, -, -, hmark⟩ := hrule r (Bool.not_eq_false _ ▸ hgone)
    rw [hnone] at hmark
    cases hmark
  refine ⟨⟨ms.filter fun r => !goneRule r, ?_, fun r hr => hours r (List.mem_filter.1 hr).1⟩,
    hk'.rules6, hk'.tables, hk'.routes⟩
  simp [Host.takeAway, hms, hstays localRule rfl, hstays mainRule rfl, hstays defaultRule rfl]

omit [Libraries] in
lemma Tidy.takeAway (htidy : Tidy h.fib) (goneRule : Fib.Rule → Bool)
    (goneRoute : Fib.Route → Bool) : Tidy (h.takeAway goneRule goneRoute).fib where
  rules := htidy.rules.filter _
  tagged := htidy.tagged.sublist (List.filter_sublist.filter _)

/-- The same when a command takes a gateway down. -/
lemma Kept.downCmd (hclean : Clean h₀) (hk : Kept h₀.fib f) (env : Env) {g : Gateway}
    {c : Route.IpCmd} (hc : c ∈ Route.downCmdsOf g) : Kept h₀.fib (env.runIp c f).1 := by
  simp only [Route.downCmdsOf, List.mem_cons, List.not_mem_nil, or_false] at hc
  rcases hc with rfl | rfl
  · rw [Route.runIp_ruleDel]
    split
    · obtain ⟨ms, hms, hours⟩ := hk.rules
      -- the rules of the host have no mark
      have hstays : ∀ r : Fib.Rule, r.mark = none → ¬ Route.isRule g r = true := by
        intro r hnone
        simp [Route.isRule, hnone]
      refine { hk with rules := ⟨ms.eraseP (Route.isRule g), ?_, fun r hr =>
        hours r (List.mem_of_mem_eraseP hr)⟩ }
      have hlast : [mainRule, defaultRule].eraseP (Route.isRule g) = [mainRule, defaultRule] := by
        rw [List.eraseP_cons_of_neg (hstays mainRule rfl),
          List.eraseP_cons_of_neg (hstays defaultRule rfl), List.eraseP_nil]
      rw [hms, List.eraseP_cons_of_neg (hstays localRule rfl), List.eraseP_append]
      split
      · rfl
      · next hnone =>
          rw [hlast, List.eraseP_of_forall_not]
          exact fun r hr hrule => hnone (List.any_eq_true.2 ⟨r, hr, hrule⟩)
    · exact hk
    · exact hk
  · rw [Route.runIp_flush]
    split
    · refine hk.filter_routes hclean fun r hr => ?_
      simp only [Route.isFlushed, Bool.and_eq_true, beq_iff_eq] at hr
      exact hr.1.2
    · exact hk
    · exact hk

lemma Tidy.downCmd (htidy : Tidy f) (env : Env) {g : Gateway} {c : Route.IpCmd}
    (hc : c ∈ Route.downCmdsOf g) : Tidy (env.runIp c f).1 := by
  simp only [Route.downCmdsOf, List.mem_cons, List.not_mem_nil, or_false] at hc
  rcases hc with rfl | rfl
  · rw [Route.runIp_ruleDel]
    split
    · exact ⟨htidy.rules.sublist List.eraseP_sublist, htidy.tagged⟩
    · exact htidy
    · exact htidy
  · rw [Route.runIp_flush]
    split
    · exact ⟨htidy.rules, htidy.tagged.sublist (List.filter_sublist.filter _)⟩
    · exact htidy
    · exact htidy

end Less

/-- What is kept on the hosts that are reached. -/
lemma Meddled.kept {h₀ h : Host} (hclean : Clean h₀) (hr : Meddled h₀ h) :
    Kept h₀.fib h.fib ∧ Tidy h.fib := by
  induction hr with
  | start => exact ⟨hclean.kept, hclean.tidy⟩
  | apply _ hc env k ih => exact ⟨ih.1.apply hclean hc env k, ih.2.apply hc env k⟩
  | @down h gws _ hvalid env ih =>
      rcases Route.down_fst env (Gateways.validate_eq_ok.1 hvalid).gateways h with
        hsame | ⟨rs, -, hdown⟩
      · rwa [hsame]
      · rw [hdown]
        refine Script.run_invariant (P := fun f => Kept h₀.fib f ∧ Tidy f)
          (fun c hmem f hf => ?_) ih
        obtain ⟨g, -, hc⟩ := List.mem_flatMap.1 hmem
        exact ⟨hf.1.downCmd hclean env hc, hf.2.downCmd env hc⟩
  | @takeAway h _ goneRule goneRoute hrule hroute ih =>
      exact ⟨ih.1.takeAway hclean hrule hroute, ih.2.takeAway goneRule goneRoute⟩
  | flush _ nft ih => exact ih

/-- A plan that is applied successfully on a host that is reached, where the failures that are
ignored do no harm, sets all its gateways up. -/
lemma Meddled.setUp {h₀ h h' : Host} (hclean : Clean h₀) (hr : Meddled h₀ h) {p : Plan}
    {d : Desired} (hc : Compiled p d) {env : Env}
    (happly : Enforce.apply env.world d h = (h', .ok ()))
    (hharmless : ∀ gp ∈ p.gateways, Route.Harmless env gp h.fib) : SetUp env.link h₀ h' p := by
  obtain ⟨hk, htidy⟩ := hr.kept hclean
  exact hk.setUp hclean htidy hc happly hharmless

/-- Such a plan leaves the rule, the floor and the live default of every gateway. -/
lemma Meddled.diverted {h₀ h h' : Host} (hclean : Clean h₀) (hr : Meddled h₀ h) {p : Plan}
    {d : Desired} (hc : Compiled p d) {env : Env}
    (happly : Enforce.apply env.world d h = (h', .ok ()))
    (hharmless : ∀ gp ∈ p.gateways, Route.Harmless env gp h.fib) :
    ∀ gp ∈ p.gateways, Route.Diverted env.link gp h'.fib := by
  obtain ⟨-, rs, -, rfl, hgoes⟩ := env.apply_eq_ok happly
  exact hc.diverted_of_goes (hr.kept hclean).2 hgoes hharmless

/-- On a connected host, whatever was applied, taken down and taken away before, a plan that is
applied successfully, where the failures that are ignored do no harm, makes the host forward packets
as the plan is for. -/
theorem Meddled.restored {h₀ h h' : Host} (hconn : Connected h₀) (hr : Meddled h₀ h) {p : Plan}
    {d : Desired} (hc : Compiled p d) {env : Env}
    (happly : Enforce.apply env.world d h = (h', .ok ()))
    (hharmless : ∀ gp ∈ p.gateways, Route.Harmless env gp h.fib) : DataPlane env.link h₀ h' p :=
  (hr.setUp hconn.toClean hc happly hharmless).forwards hconn

omit [Libraries] in
/-- In the home network a run is killed behind the packet filter, which is flushed then; the next
run puts everything in place. -/
theorem restored_homePlan : ∃ d h', @Compiled .plain (homePlan 100 appTargets) d ∧
    @Enforce.apply .plain _ Env.allOk.world d { (@Enforce.apply .plain _ Env.allOk.world (d.upTo 0)
      homeHost).1 with nft := ∅ } = (h', .ok ()) ∧
    h'.forward ⟨.v4 0xac120007, .v4 0x01010101, 0, none⟩ =
      some ⟨100, .default4, .via (.v4 0xac120002) "eth0", 194, 1⟩ := by
  obtain ⟨d, hc⟩ := exists_compiled appTargets "degc" (vpnGateways 100) (by decide) (by decide)
  obtain ⟨rs, -, happly⟩ := @Clean.apply_of_lets .plain _ connected_homeHost.toClean _ _ hc _
    (Env.lets_allOk d) (by decide)
  have hmeddled := @Meddled.flush .plain _ _ (@Meddled.apply .plain _ _ _ _ (@Meddled.start .plain
    homeHost) hc .allOk 0) ∅
  have hback : { (@Enforce.apply .plain _ Env.allOk.world (d.upTo 0) homeHost).1 with nft := ∅ } =
      homeHost := by
    rcases @Env.apply_fst Env.allOk .plain (d.upTo 0) homeHost with hsame | ⟨-, rs, -, happly⟩
    · rw [hsame]
      rfl
    · rw [happly]
      rfl
  rw [← hback] at happly
  have hplane := @Meddled.restored .plain _ _ _ connected_homeHost hmeddled _ _ hc _ happly
    (@Compiled.harmless_of_lets .plain _ _ hc _ (Env.lets_allOk d) _)
  have hegress : ∀ gp ∈ (homePlan 100 appTargets).gateways,
      gp.egress = .nextHop (.v4 0xac120002) := by decide
  have halone : Alone (homePlan 100 appTargets) (.v4 0xac120007) :=
    alone_of_one (by decide) hegress (by rintro ip ⟨⟩; rfl) _
  have hforward := @DataPlane.forward .plain _ _ _ _ hplane
    ⟨.v4 0xac120007, .v4 0x01010101, 0, none⟩ ⟨rfl, rfl, by decide⟩ halone
  exact ⟨d, _, hc, happly, hforward.trans (by decide +kernel)⟩

/-! ### Without the table -/

omit [Libraries] in
/-- Without the table on two hosts, a packet goes the same way where its route is the same. -/
lemma forward_congr_of_no_table {h h' : Host} (ht : h.nft["inet degc"]? = none)
    (ht' : h'.nft["inet degc"]? = none) {pkt : Packet}
    (hroute : h.fib.route pkt.mark pkt.dst = h'.fib.route pkt.mark pkt.dst) :
    h.forward pkt = h'.forward pkt := by
  simp [Host.forward, Host.hook, ht, ht', hroute]

/-- On a connected host, whatever was applied, taken down and taken away before, nothing is diverted
where the table is gone; and taking any configuration down takes the table away as soon as `nft`
is let through, whatever becomes of the routing commands. -/
theorem Meddled.released {h₀ h : Host} (hconn : Connected h₀) (hr : Meddled h₀ h) :
    (h.nft["inet degc"]? = none → ∀ pkt : Packet, pkt.mark = 0 →
      h.forward pkt = h₀.forward pkt) ∧
    ∀ (gws : Gateways) (env : Env), gws.validate = .ok () → env.nft Nft.teardownScript = .ok () →
      ∀ pkt : Packet, pkt.mark = 0 →
        (Enforce.down env.world gws h).1.forward pkt = h₀.forward pkt := by
  have hnone : ∀ {h : Host}, Meddled h₀ h → h.nft["inet degc"]? = none → ∀ pkt : Packet,
      pkt.mark = 0 → h.forward pkt = h₀.forward pkt := by
    intro h hr ht pkt hmark
    refine forward_congr_of_no_table ht hconn.table ?_
    rw [hmark, (hr.kept hconn.toClean).1.route_unmarked hconn]
  refine ⟨hnone hr, fun gws env hvalid hnft => ?_⟩
  obtain ⟨rs, ht, hdown⟩ :=
    Route.down_of_lets (Gateways.validate_eq_ok.1 hvalid).gateways hnft h
  exact hnone (hr.down hvalid env) (by rw [hdown]; exact ht)

/-- The packet filter works, and every routing command fails. -/
def noIp : Env :=
  { Env.allOk with ip := fun _ => .failed "RTNETLINK answers: Operation not permitted" }

omit [Libraries] in
/-- In the home network taking down hands the container back to the router, though the rule and the
routes stay. -/
theorem released_homePlan : ∃ d h, @Compiled .plain (homePlan 100 appTargets) d ∧
    @Enforce.apply .plain _ Env.allOk.world d homeHost = (h, .ok ()) ∧
    (@Enforce.down .plain _ noIp.world (vpnGateways 100) h).1.forward
      ⟨.v4 0xac120007, .v4 0x01010101, 0, none⟩ =
        some ⟨254, .default4, .via (.v4 0xc0a80001) "eth0", 3, 0⟩ := by
  obtain ⟨d, hc⟩ := exists_compiled appTargets "degc" (vpnGateways 100) (by decide) (by decide)
  obtain ⟨rs, -, happly⟩ := @Clean.apply_of_lets .plain _ connected_homeHost.toClean _ _ hc _
    (Env.lets_allOk d) (by decide)
  have hr := @Meddled.apply .plain _ _ _ _ (@Meddled.start .plain homeHost) hc .allOk d.ip.length
  rw [Desired.upTo_length, happly] at hr
  have hreleased := (@Meddled.released .plain _ _ connected_homeHost hr).2 (vpnGateways 100) noIp
    (by decide) rfl ⟨.v4 0xac120007, .v4 0x01010101, 0, none⟩ rfl
  exact ⟨d, _, hc, happly, hreleased.trans (by decide)⟩

end Degc
