import Degc.Daemon.Agrees
import Degc.Enforce.Display

/-!
# The status

What `degc status` prints: a line for each gateway, the problems, and the desired state
of the host, of the containers that run at the time.

The main result is `Reaches.tells`: next to a daemon in a quiet state the status prints
the table that the host has, and the marks and tables of the rules and routes on it.
-/

namespace Degc

open Net Text Netfilter

/-! ### The command -/

/-- A text that is filled up with blanks. -/
def padded (width : ℕ) (s : String) : String :=
  s ++ String.ofList (List.replicate (width - s.length) ' ')

namespace Status

/-- The egress of a gateway. -/
def egressText : Egress → String
  | .interface i => s!"interface {i}"
  | .nextHop ip => s!"via {showIp ip}"
  | .unavailable why => s!"UNAVAILABLE ({why})"

/-- The line of a gateway, given the text of its mark. -/
def gatewayLine (gp : GatewayPlan) (mark : String) : String :=
  s!"# gateway {padded 12 gp.gateway.name} egress={egressText gp.egress}  " ++
    s!"mark={mark} table={gp.gateway.tableId}  members={gp.members.size}"

variable [Libraries]

/-- The lines of a gateway.  A mark that cannot be read is shown as a question mark. -/
def gatewayLines (gp : GatewayPlan) : List String :=
  let mark := match gp.gateway.markValue with
    | .error _ => "?"
    | .ok m => "0x" ++ hex m.toNat
  let names := ", ".intercalate gp.memberNames.toList
  gatewayLine gp mark :: if gp.memberNames.isEmpty then [] else [s!"#   members: {names}"]

/-- A line for each problem of a plan. -/
def problemLines (plan : Plan) : List String :=
  plan.unresolved.map (fun (container, via) =>
    s!"# WARNING: container {debugStr container} wants gateway {debugStr via} — no such gateway") ++
  plan.conflicts.map (fun (container, gws) =>
    s!"# WARNING: container {debugStr container} matches multiple gateway selectors " ++
      s!"{Reconcile.debugStrs gws} — not routed (set degc.via)") ++
  plan.discoveryErrors.map fun err => s!"# WARNING: {err}"

/-- The lines in front of the desired state. -/
def planLines (plan : Plan) : List String := plan.gateways.flatMap gatewayLines ++ problemLines plan

end Status

variable [Libraries]

/-- What is printed of the resolved plan and the desired state, and how it ends. -/
def status (fromStr : String → Except String (List Gateway))
    (readToString : String → Except ReadError String) (var : String → Except VarError String)
    (answer : Except String (List ContainerSummary)) : String × Except String Unit :=
  let config := Config.fromEnv var
  match loadGateways fromStr readToString config with
  | .error e => ("", .error e)
  | .ok gateways =>
      match listTargets answer with
      | .error e => ("", .error e)
      | .ok targets =>
          let plan := Plan.compile targets config.labelPrefix gateways
          match Enforce.compile plan with
          -- the plan is printed before it is compiled
          | .error e => (unlines (Status.planLines plan), .error e)
          | .ok desired => (unlines (Status.planLines plan) ++ desired.display, .ok ())

/-- The mark of a gateway that is valid is shown as it stands in the commands. -/
lemma Status.gatewayLine_mem {gp : GatewayPlan} (hvalid : gp.gateway.Valid) :
    gatewayLine gp (Route.markText gp) ∈ gatewayLines gp := by
  rw [gatewayLines, hvalid.markValue.1]
  exact List.mem_cons_self

namespace Daemon

/-- What the status prints agrees with the host: the script in it, which can be read back, describes
the table of the packet filter, and each gateway has its line and is set up; with a next hop that is
not of IPv6 its table holds nothing else of IPv4. -/
structure Tells (s : Daemon) (a : Attempt) (printed : List String) (d : Desired) : Prop where
  reads : readDisplay d.display = (d.nft, d.ip)
  table : s.dryRun = false → ∃ rs t, loadText d.nft ∅ = some rs ∧ rs["inet degc"]? = some t ∧
    s.host.nft["inet degc"]? = some t
  gateways : ∀ gp ∈ s.plan.gateways, Status.gatewayLine gp (Route.markText gp) ∈ printed ∧
    (s.dryRun = false → NoHarm a s.plan → Route.Diverted a.env.link gp s.host.fib ∧
      ((∀ ip, gp.egress = .nextHop ip → ip.isIpv4 = true) → Converged a.env.link gp s.host.fib))

/-- Next to a daemon in a quiet state after a reconcile that succeeded, with its environment and its
file, the status succeeds and agrees with the host. -/
theorem Reaches.tells {h₀ : Host} (hconn : Connected h₀) {s : Daemon} (hs : Reaches h₀ s)
    (hquiet : Quiet s) {a : Attempt} (hlast : s.attempts.getLast? = some a)
    (hok : (s.outcome a).stats.isOk = true) {fromStr : String → Except String (List Gateway)}
    {readToString : String → Except ReadError String} {var : String → Except VarError String}
    (hconfig : Config.fromEnv var = s.config)
    (hload : loadGateways fromStr readToString s.config = .ok s.gateways) :
    ∃ printed d, status fromStr readToString var (.ok s.running) =
      (unlines printed ++ d.display, .ok ()) ∧ Tells s a printed d := by
  have hknown := hs.known
  obtain ⟨hr, hhost, -⟩ := hknown.last a hlast
  obtain ⟨targets, d, hanswer, hd, happly, -, -⟩ := outcome_ok hok
  obtain rfl := listed_of_seen hknown hquiet.idle (hquiet.seen hknown) hquiet.silent hlast hanswer
  have hc : Compiled s.plan d := ⟨_, _, _, hknown.valid, rfl, hd⟩
  have hsystem := apply_of_select happly (hhost hquiet.drifted)
  refine ⟨Status.planLines s.plan, d, ?_, ?_, fun hdry => ?_, fun gp hgp => ⟨?_, ?_⟩⟩
  · have hlist : listTargets (.ok s.running) = .ok (s.running.map (·.target)) := rfl
    simp only [status, hconfig, hload, hlist]
    rw [plan, hd]
  · obtain ⟨notes, script, hparts⟩ := exists_parts hc
    exact hparts.shown.reads
  · obtain ⟨-, rs, hrs, hnft, -⟩ := a.env.apply_eq_ok (hsystem hdry)
    have hscript := (Nft.compile_eq_ok hc.compile).2.1
    -- the table does not depend on what the script is loaded into
    obtain ⟨rs₀, hrs₀⟩ := Nft.exists_loadText hc.plainEgress hscript ∅
    obtain ⟨sets, ht, -⟩ := Nft.table_of_loadText hc.plainEgress hscript hrs₀
    have hsame := (Nft.loadText_congr hc.plainEgress hscript hrs hrs₀).1
    exact ⟨rs₀, _, hrs₀, ht, by rw [hnft, hsame, ht]⟩
  · have hline := Status.gatewayLine_mem (hc.valid gp hgp)
    exact List.mem_append_left _ (List.mem_flatMap.2 ⟨gp, hgp, hline⟩)
  · intro hdry hharm
    exact ⟨hr.diverted hconn.toClean hc (hsystem hdry) hharm gp hgp,
      (hr.setUp hconn.toClean hc (hsystem hdry) hharm).converged gp hgp⟩

omit [Libraries] in
/-- The status in the home network. -/
theorem tells_subscribed : ∃ printed d, @status .plain (fun _ => .ok (vpnGateways 100))
      (fun _ => .ok "") homeVar (.ok [appContainer]) = (unlines printed ++ d.display, .ok ()) ∧
    @Tells .plain subscribedDaemon (listedDaemon.attempt .startup .allOk 0) printed d :=
  @Reaches.tells .plain _ connected_homeHost _ reaches_subscribed quiet_subscribed _ rfl
    isOk_subscribed _ _ _ rfl loadGateways_home

end Daemon

end Degc
