import Degc.Plan

/-!
# The nftables script

Compiling a plan into the script for the `inet degc` table: one transaction that
adds, deletes and redefines the table.  The script is assembled from lines; each
gateway adds its sets and at most one rule to each chain, except that the forward
chain can get two, one for each address family.
-/

namespace Degc.Nft

open Net Text

variable [Libraries]

/-- The script that removes the table, whether or not it is there. -/
def teardownScript : String := unlines ["add table inet degc", "delete table inet degc"]

/-- A name with every character that a set identifier cannot hold replaced. -/
def sanitize (name : String) : String :=
  String.ofList (name.toList.map fun c => if c.isAlphanum || c == '_' then c else '_')

/-- The definition of a set; the elements are left out when there are none. -/
def emitSet (name typ : String) (interval : Bool) (elems : List String) : List String :=
  [s!"    set {name} \x7b", s!"        type {typ}"] ++
    (if interval then ["        flags interval"] else []) ++
    (if elems.isEmpty then [] else
      ["        elements = \x7b " ++ ", ".intercalate elems ++ " \x7d"]) ++
    ["    \x7d"]

/-- The set of the networks to exclude and the clause that does, both empty when there is
nothing to exclude. -/
def exclClause (name typ daddrKw : String) (cidrs : List String) : List String × String :=
  if cidrs.isEmpty then ([], "") else (emitSet name typ true cidrs, s!" {daddrKw} != @{name}")

/-- The IPv4 members of a gateway. -/
def members4 (gp : GatewayPlan) : List IpAddr := gp.members.toList.filter (·.isIpv4)

/-- The IPv6 members of a gateway. -/
def members6 (gp : GatewayPlan) : List IpAddr := gp.members.toList.filter (·.isIpv6)

/-- The networks that stay direct and can be read. -/
def locals (gw : Gateway) : List IpNetwork :=
  -- what cannot be read is left out without a message
  gw.localSubnetsEffective.filterMap fun s => (Libraries.networkFromStr s).toOption

/-- The IPv4 networks that stay direct. -/
def locals4 (gw : Gateway) : List IpNetwork := (locals gw).filter (·.addr.isIpv4)

/-- The IPv6 networks that stay direct. -/
def locals6 (gw : Gateway) : List IpNetwork := (locals gw).filter (·.addr.isIpv6)

/-- The name of the set of the IPv4 members. -/
def viaName (gw : Gateway) : String := s!"degc_via_{sanitize gw.name}"

/-- The name of the set of the IPv4 networks that stay direct. -/
def localName (gw : Gateway) : String := s!"degc_local_{sanitize gw.name}"

/-- The name of the set of the IPv6 members. -/
def via6Name (gw : Gateway) : String := s!"degc_via6_{sanitize gw.name}"

/-- The name of the set of the IPv6 networks that stay direct. -/
def local6Name (gw : Gateway) : String := s!"degc_local6_{sanitize gw.name}"

/-- The lines a gateway adds to the sets and to the three chains. -/
structure Rules where
  sets : List String
  markRules : List String
  snatRules : List String
  killRules : List String

/-- The rule that masquerades what a gateway sends out. -/
def snatRules (mark : String) (snat : Bool) : Egress → List String
  | .interface iface =>
      if snat then [s!"        meta mark {mark} oifname \"{iface}\" masquerade"] else []
  | .nextHop _ => if snat then [s!"        meta mark {mark} masquerade"] else []
  | .unavailable _ => []

/-- The rule that drops what a gateway must not send out. -/
def killRules (mark : String) : Egress → List String
  | .interface iface => [s!"        meta mark {mark} oifname != \"{iface}\" drop"]
  | .unavailable why => [s!"        meta mark {mark} drop   # egress unavailable: {why}"]
  -- which device the next hop is on is not known here
  | .nextHop _ => []

/-- The lines of one gateway.  The sets of the IPv6 addresses and the rule over them are there
only when a member has an IPv6 address. -/
def gatewayRules (gp : GatewayPlan) : Except String Rules := do
  let gw := gp.gateway
  let mark := "0x" ++ hex (← gw.markValue).toNat
  let excl4 := exclClause (localName gw) "ipv4_addr" "ip daddr"
    ((locals4 gw).map Libraries.networkToString)
  let excl6 := exclClause (local6Name gw) "ipv6_addr" "ip6 daddr"
    ((locals6 gw).map Libraries.networkToString)
  return {
    sets := emitSet (viaName gw) "ipv4_addr" false ((members4 gp).map showIp) ++ excl4.1 ++
      if (members6 gp).isEmpty then []
      else emitSet (via6Name gw) "ipv6_addr" false ((members6 gp).map showIp) ++ excl6.1
    markRules := [s!"        ip saddr @{viaName gw}{excl4.2} meta mark set {mark}"]
    snatRules := snatRules mark gw.snatEnabled gp.egress
    killRules :=
      (if (members6 gp).isEmpty then []
        else [s!"        ip6 saddr @{via6Name gw}{excl6.2} drop"]) ++
        killRules mark gp.egress }

/-- A base chain that accepts what its rules do not decide. -/
def chain (name typ hook priority : String) (rules : List String) : List String :=
  [s!"    chain {name} \x7b",
    s!"        type {typ} hook {hook} priority {priority}; policy accept;"] ++ rules ++ ["    \x7d"]

/-- The script for the whole plan. -/
def buildScript (plan : Plan) : Except String String := do
  let rules ← plan.gateways.mapM gatewayRules
  let snat := rules.flatMap (·.snatRules)
  return unlines <|
    ["add table inet degc", "delete table inet degc", "table inet degc \x7b"] ++
      rules.flatMap (·.sets) ++
      chain "degc_mark" "filter" "prerouting" "mangle" (rules.flatMap (·.markRules)) ++
      (if snat.isEmpty then [] else chain "degc_snat" "nat" "postrouting" "srcnat" snat) ++
      chain "degc_killswitch" "filter" "forward" "filter" (rules.flatMap (·.killRules)) ++
      ["\x7d"]

end Degc.Nft
