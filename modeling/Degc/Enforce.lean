import Degc.Enforce.Nft
import Degc.Enforce.Route

/-!
# Enforcing a plan

The desired state of the host that a plan compiles into, as data and as text, and
applying it to the host: the check against the live host, the transaction of the
packet filter, the routing commands.
-/

namespace Degc

open Text

variable [Libraries]

/-- The desired state of the host. -/
structure Desired where
  warnings : List String
  /-- The script for the table of the packet filter. -/
  nft : String
  /-- The routing commands, in order. -/
  ip : List Route.IpCmd
  /-- The mark and the table of each gateway, to check before the host is changed. -/
  guards : List (String × UInt32)

omit [Libraries]

/-- The line in front of the script. -/
def nftHeader : String := "# --- nftables (nft -f -) ---"

/-- The line in front of the commands. -/
def ipHeader : String := "# --- routing (ip) ---"

/-- A command as it is shown. -/
def Route.IpCmd.display (c : Route.IpCmd) : String :=
  let note := if c.ignoreFail then "    # ok if absent" else ""
  s!"ip {unwords c.args}{note}"

/-- A desired state as it is shown. -/
def Desired.display (d : Desired) : String :=
  unlines (["# degc desired host state"] ++ d.warnings.map (fun w => s!"# WARNING: {w}") ++
    [nftHeader]) ++ d.nft ++ unlines (ipHeader :: d.ip.map (·.display))

namespace Enforce

/-- The mark and the table of a gateway. -/
def guardOf (gp : GatewayPlan) : Except String (String × UInt32) := do
  return ("0x" ++ hex (← gp.gateway.markValue).toNat, gp.gateway.tableId)

/-- Compiling a plan into the desired state of the host. -/
def compile (plan : Plan) : Except String Desired := do
  checkUniqueRouting (plan.gateways.map (·.gateway))
  let guards ← plan.gateways.mapM guardOf
  return {
    warnings := plan.unresolved.map fun (c, via) =>
      s!"container {debugStr c} opted into gateway {debugStr via} — no such gateway (not routed)"
    nft := ← Nft.buildScript plan
    ip := ← Route.build plan
    guards := guards }

/-- Putting a context in front of what went wrong with `nft`. -/
def nftApply {σ : Type} (nft : String → σ → Ran σ) (script : String) (s : σ) :
    σ × Except String Unit :=
  match nft script s with
  | .notSpawned cause => (s, .error s!"spawning nft (is nftables installed?): {cause}")
  | .failed stderr => (s, .error s!"nft -f rejected the ruleset: {trim stderr}")
  | .ok s' => (s', .ok ())

/-- What the programs that are run do in a state: what `ip` prints, if it succeeds, and what
becomes of a script and of a command. -/
structure World (σ : Type) where
  ipShow : List String → σ → Option String
  nft : String → σ → Ran σ
  ip : List String → σ → Ran σ

/-- What applying a desired state does to the host: the check, the transaction, the commands.
The warnings are logged in front of it, by the backend. -/
def apply {σ : Type} (w : World σ) (d : Desired) (s : σ) : σ × Except String Unit :=
  -- where `ip` fails there is no output, and nothing to find in it
  match Route.preflight (fun args => (w.ipShow args s).getD "") d.guards with
  | .error e => (s, .error e)
  | .ok () =>
      match nftApply w.nft d.nft s with
      | (s', .error e) => (s', .error e)
      -- the table is in place from here on, also when a command stops the run
      | (s', .ok ()) => Route.apply w.ip d.ip s'

/-- Removing the table of the packet filter and the policy routing of the configured gateways. -/
def down {σ : Type} (w : World σ) (gateways : Gateways) (s : σ) : σ × Except String Unit :=
  match nftApply w.nft Nft.teardownScript s with
  | (s', .error e) => (s', .error e)
  | (s', .ok ()) =>
      match Route.teardown gateways with
      | .error e => (s', .error e)
      | .ok cmds => Route.apply w.ip cmds s'

end Enforce

end Degc
