import Degc.Kernel.Script
import Degc.Plan

/-!
# The policy routing commands

Compiling a plan into `ip` commands, the check against the live host before they
are run, and running them.  What the host prints and what its commands do are
parameters here.
-/

namespace Degc

open Net Text

/-- What becomes of a command that is run in a state. -/
inductive Ran (σ : Type)
  | notSpawned (cause : String)
  | failed (stderr : String)
  | ok (s : σ)
  deriving DecidableEq

namespace Route

/-- The protocol tag of every route that is installed. -/
def rtProto : String := "194"

/-- The priority of the rules. -/
def rulePriority : String := "100"

/-- One `ip` command: its arguments, and whether its failure is expected. -/
structure IpCmd where
  args : List String
  ignoreFail : Bool
  deriving DecidableEq, Repr

/-! ### Building the commands -/

/-- The floor of a table: a default that drops. -/
def floorCmd (table : String) : IpCmd where
  args := ["route", "replace", "blackhole", "default", "table", table, "proto", rtProto, "metric",
    "9999"]
  ignoreFail := false

/-- The rule from a mark to a table. -/
def ruleCmd (mark table : String) : IpCmd where
  args := ["rule", "add", "fwmark", mark, "table", table, "priority", rulePriority]
  ignoreFail := true

/-- The live default of a table, or its removal. -/
def liveCmd (table : String) : Egress → IpCmd
  | .interface iface =>
      { args := ["route", "replace", "default", "dev", iface, "table", table, "proto", rtProto,
          "metric", "1"]
        ignoreFail := false }
  | .nextHop ip =>
      { args := ["route", "replace", "default", "via", showIp ip, "table", table, "proto", rtProto,
          "metric", "1"]
        ignoreFail := false }
  | .unavailable _ =>
      -- only the floor is to stay
      { args := ["route", "del", "default", "table", table, "proto", rtProto, "metric", "1"]
        ignoreFail := true }

variable [Libraries]

/-- The commands of one gateway: the floor first, then the rule, then the live default. -/
def gatewayCmds (gp : GatewayPlan) : Except String (List IpCmd) := do
  let mark := "0x" ++ hex (← gp.gateway.markValue).toNat
  let table := toString gp.gateway.tableId
  return [floorCmd table, ruleCmd mark table, liveCmd table gp.egress]

/-- The commands for the whole plan. -/
def build (plan : Plan) : Except String (List IpCmd) := do
  return (← plan.gateways.mapM gatewayCmds).flatten

/-- The commands that remove the policy routing of one gateway. -/
def teardownCmds (gw : Gateway) : Except String (List IpCmd) := do
  let mark := "0x" ++ hex (← gw.markValue).toNat
  let table := toString gw.tableId
  return [⟨["rule", "del", "fwmark", mark, "table", table], true⟩,
    ⟨["route", "flush", "table", table, "proto", rtProto], true⟩]

/-- The commands that remove the policy routing of every configured gateway. -/
def teardown (gateways : Gateways) : Except String (List IpCmd) := do
  return (← gateways.mapM teardownCmds).flatten

/-! ### Looking at the host -/

omit [Libraries] in
/-- The first line of a list of routes that lacks the protocol tag. -/
def foreignRoute (routes : String) : Option String :=
  ((lines routes).map trim).find? fun l => l ≠ "" && !contains l s!"proto {rtProto}"

/-- The word behind the first occurrence of a word. -/
def wordAfter (w : String) (ws : List String) : Option String :=
  (ws.dropWhile (· ≠ w)).tail.head?

/-- Whether a line is a rule for a mark that looks up another table than the given one.  The
mark may have a mask behind it. -/
def isConflicting (mark table line : String) : Bool :=
  let toks := words line
  toks.contains "fwmark" &&
    -- the mask behind the mark is not compared
    (wordAfter "fwmark" toks).map (fun t => (split '/' t).head?.getD t) == some mark &&
    wordAfter "lookup" toks != some table

/-- The first rule of a list that sends a mark to another table than the given one. -/
def conflictingFwmarkRule (rules mark table : String) : Option String :=
  ((lines rules).find? (isConflicting mark table)).map trim

/-- Checking that the table of one gateway has no foreign routes and that its mark is not routed
elsewhere, given the rules and how the host shows its routes. -/
def checkGuard (ipShow : List String → String) (rules mark table : String) : Except String Unit :=
  match foreignRoute (ipShow ["-o", "route", "show", "table", table]) with
  | some foreign =>
      .error (s!"routing table {table} already holds a non-degc route ({debugStr foreign}); " ++
        "refusing to touch it — set a free `table` for this gateway")
  | none =>
      match conflictingFwmarkRule rules mark table with
      | some rule =>
          .error (s!"fwmark {mark} is already routed elsewhere ({debugStr rule}); " ++
            "set a free `mark` for this gateway")
      | none => .ok ()

/-- Checking all gateways. -/
def preflight (ipShow : List String → String) (guards : List (String × UInt32)) :
    Except String Unit :=
  let rules := ipShow ["-o", "rule", "show"]
  guards.forM fun (mark, table) => checkGuard ipShow rules mark (toString table)

/-! ### Running the commands -/

/-- Running the commands one after the other, up to the first one that cannot be started, or
that fails although it must not. -/
def apply {σ : Type} (ip : List String → σ → Ran σ) : List IpCmd → σ → σ × Except String Unit
  | [], s => (s, .ok ())
  | c :: cs, s =>
      match ip c.args s with
      | .notSpawned cause =>
          (s, .error s!"spawning `ip {unwords c.args}` (is iproute2 installed?): {cause}")
      | .failed stderr =>
          -- whatever the failure is, not only that there is nothing to do
          if c.ignoreFail then apply ip cs s
          else (s, .error s!"`ip {unwords c.args}` failed: {trim stderr}")
      | .ok s' => apply ip cs s'

/-- The state after a command, and whether the next one is run. -/
def step {σ : Type} (ip : List String → σ → Ran σ) (c : IpCmd) (s : σ) : σ × Bool :=
  match ip c.args s with
  | .notSpawned _ => (s, false)
  | .failed _ => (s, c.ignoreFail)
  | .ok s' => (s', true)

omit [Libraries] in
/-- Running the commands is a run that may stop. -/
theorem apply_eq_run {σ : Type} (ip : List String → σ → Ran σ) (cs : List IpCmd) (s : σ) :
    (apply ip cs s).1 = (Script.run (step ip) cs s).1 ∧
      ((apply ip cs s).2 = .ok () ↔ (Script.run (step ip) cs s).2 = true) := by
  induction cs generalizing s with
  | nil => simp [apply]
  | cons c cs ih =>
      rw [apply]
      cases hc : ip c.args s with
      | notSpawned cause =>
          rw [Script.run_cons_of_false (show step ip c s = (s, false) by rw [step, hc])]
          simp
      | failed stderr =>
          cases hi : c.ignoreFail with
          | false =>
              rw [Script.run_cons_of_false (show step ip c s = (s, false) by rw [step, hc, hi])]
              simp
          | true =>
              rw [Script.run_cons_of_true (show step ip c s = (s, true) by rw [step, hc, hi])]
              exact ih s
      | ok s' =>
          rw [Script.run_cons_of_true (show step ip c s = (s', true) by rw [step, hc])]
          exact ih s'

end Route

end Degc
