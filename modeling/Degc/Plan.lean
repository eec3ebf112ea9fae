import Degc.Docker

/-!
# The plan

Compiling the current containers and the configured gateways into the plan: the
gateways, configured and self-declared, each with its egress resolved against
the current containers and the set of its members' addresses.
-/

namespace Degc

open Net
open Std (TreeMap TreeSet)

variable [Libraries]

/-- The egress of a gateway, resolved against the current containers. -/
inductive Egress
  | interface (iface : String)
  | nextHop (ip : IpAddr)
  | unavailable (why : String)
  deriving DecidableEq, Repr

/-- A gateway with its resolved egress and its members. -/
structure GatewayPlan where
  gateway : Gateway
  egress : Egress
  members : TreeSet IpAddr
  memberNames : TreeSet String

/-- The whole plan. -/
structure Plan where
  gateways : List GatewayPlan
  /-- Containers that opted in but named no known gateway, with the name. -/
  unresolved : List (String × String)
  /-- Containers matched by the selectors of several gateways, with the gateways. -/
  conflicts : List (String × List String)
  /-- One message for each self-declared gateway with malformed knobs. -/
  discoveryErrors : List String

namespace Plan

/-! ### The merged gateways -/

/-- The name under which a gateway container is looked up again: its Compose service, or its
own name. -/
def egressContainer (t : Target) : String := t.labels["com.docker.compose.service"]?.getD t.name

/-- The gateways merged so far and the messages about malformed ones. -/
abbrev Discovery := List Gateway × List String

/-- Taking the gateway a container declares, if any, into the merged set.  A gateway that is
already there wins. -/
def discover (pfx : String) (d : Discovery) (t : Target) : Discovery :=
  match gatewayName pfx t.labels with
  | none => d
  | some name =>
      -- the malformed knobs of a taken name are not even read
      if d.1.any (·.name == name) then d
      else
        match discoveredGateway pfx name (egressContainer t) t.labels with
        | .ok g => (d.1 ++ [g], d.2)
        | .error e => (d.1, d.2 ++ [s!"gateway container {debugStr t.name}: {e}"])

/-- The configured gateways with the self-declared ones behind them. -/
def merge (pfx : String) (gateways : Gateways) (targets : List Target) : Discovery :=
  targets.foldl (discover pfx) (gateways, [])

/-! ### The assignment of the containers -/

/-- What the assignment of the containers collects. -/
structure Assignment where
  members : TreeMap String (TreeSet IpAddr) := ∅
  memberNames : TreeMap String (TreeSet String) := ∅
  unresolved : List (String × String) := []
  conflicts : List (String × List String) := []

/-- Adding the addresses and the name of a container to the member sets of a gateway. -/
def addMember (a : Assignment) (gw : String) (t : Target) : Assignment :=
  { a with
    members := a.members.insert gw ((a.members.getD gw ∅).insertMany t.addrs)
    memberNames := a.memberNames.insert gw ((a.memberNames.getD gw ∅).insert t.name) }

/-- The names of the gateways with a selector that matches the labels. -/
def matched (merged : Gateways) (labels : Labels) : List String :=
  (merged.filter fun g => g.members.any (selectorMatches · labels)).map (·.name)

/-- Assigning a container: nothing for a gateway container; an opted-in container goes to the
gateway it resolves to; otherwise the selectors decide. -/
def assign (pfx : String) (merged : Gateways) (a : Assignment) (t : Target) : Assignment :=
  if (gatewayName pfx t.labels).isSome then a
  else
    match optIn pfx t.labels with
    | some via =>
        match merged.resolve via with
        | some gw => addMember a gw.name t
        -- the selectors have no say in an opt-in
        | none => { a with unresolved := a.unresolved ++ [(t.name, via.getD "<default>")] }
    | none =>
        match matched merged t.labels with
        | [] => a
        | [one] => addMember a one t
        | many => { a with conflicts := a.conflicts ++ [(t.name, many)] }

/-- The assignment of all containers. -/
def assignment (pfx : String) (merged : Gateways) (targets : List Target) : Assignment :=
  targets.foldl (assign pfx merged) {}

/-! ### The egresses -/

/-- Whether a container is meant by a name: its own, or that of its Compose service. -/
def isMatch (sel : String) (t : Target) : Bool :=
  t.name == sel || t.labels["com.docker.compose.service"]? == some sel

/-- The current IPv4 address of the first container that is meant by a name. -/
def gatewayContainerIp (sel : String) (targets : List Target) : Option IpAddr :=
  -- a container without an IPv4 address hides the ones behind it
  (targets.find? (isMatch sel)).bind fun t => t.addrs.find? IpAddr.isIpv4

/-- Resolving the egress of a gateway against the current containers. -/
def resolveEgress (gw : Gateway) (targets : List Target) : Egress :=
  match gw.egress.interface with
  | some iface => .interface iface
  | none =>
      match gw.egress.nextHop with
      | some nh =>
          match parseIp nh with
          | some ip => .nextHop ip
          | none => .unavailable s!"nextHop {debugStr nh} is not an IP"
      | none =>
          match gw.egress.container with
          | some sel =>
              match gatewayContainerIp sel targets with
              | some ip => .nextHop ip
              | none => .unavailable s!"gateway container {debugStr sel} not running"
          | none => .unavailable "no egress configured"

/-! ### The plan -/

/-- The gateways with their egresses and their members, which are taken out of the collected
sets one after the other. -/
def gatewayPlans (targets : List Target) :
    TreeMap String (TreeSet IpAddr) → TreeMap String (TreeSet String) → List Gateway →
      List GatewayPlan
  | _, _, [] => []
  | members, memberNames, gw :: gws =>
      { gateway := gw
        egress := resolveEgress gw targets
        members := members.getD gw.name ∅
        memberNames := memberNames.getD gw.name ∅ } ::
        -- a later gateway of the same name would get nothing
        gatewayPlans targets (members.erase gw.name) (memberNames.erase gw.name) gws

/-- Compiling the current containers and the configured gateways into the plan. -/
def compile (targets : List Target) (pfx : String) (gateways : Gateways) : Plan :=
  let d := merge pfx gateways targets
  let a := assignment pfx d.1 targets
  { gateways := gatewayPlans targets a.members a.memberNames d.1
    unresolved := a.unresolved
    conflicts := a.conflicts
    discoveryErrors := d.2 }

end Plan

end Degc
