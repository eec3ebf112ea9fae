import Degc.Net.AddrText
import Degc.Text.Escape

/-!
# The gateway configuration and the container labels

The gateway model, the label convention and the resolution rules over a list of
gateways.  An error is the text a reader of the log sees, the contexts in front
of their causes.

Three things come from libraries: which characters the debug form of a string
escapes by their code point, how a network is read, and how it is written.  They are
the fields of the class `Libraries`.  What is assumed of them is how a network is
written: as its address, a slash and its length.
-/

namespace Degc

open Net Text
open Std (TreeMap TreeSet)

/-- A network: an address and a number of leading bits within its width. -/
structure IpNetwork extends Cidr where
  len_le : len ≤ addr.width

/-- What is taken from libraries. -/
class Libraries where
  /-- The characters the debug form of a string escapes by their code point. -/
  escaped : Char → Bool
  /-- Reading a network, or the message of the error. -/
  networkFromStr : String → Except String IpNetwork
  /-- A network as text. -/
  networkToString : IpNetwork → String
  /-- The text is documented as `address/length`. -/
  networkToString_eq : ∀ n, networkToString n = showCidr n.toCidr

/-- The libraries on plain text: printable ASCII is not escaped, and a network is an address
in its usual form with or without a length. -/
@[reducible] def Libraries.plain : Libraries where
  escaped c := c.toNat < 0x20 || 0x7f ≤ c.toNat
  networkFromStr s :=
    match (parseCidr s).or ((parseIp s).map Cidr.single) with
    | some c => if h : c.len ≤ c.addr.width then .ok ⟨c, h⟩ else .error s!"invalid prefix: {s}"
    | none => .error s!"invalid address: {s}"
  networkToString n := showCidr n.toCidr
  networkToString_eq _ := rfl

variable [Libraries]

/-- The debug form of a string. -/
def debugStr (s : String) : String := debug Libraries.escaped s

/-- The documented text of a network. -/
def IpNetwork.toText (n : IpNetwork) : String := showCidr n.toCidr

lemma networkToString_eq : Libraries.networkToString = IpNetwork.toText :=
  funext Libraries.networkToString_eq

/-- Failing with a message unless a condition holds. -/
def ensure (c : Bool) (message : String) : Except String Unit :=
  if c then .ok () else .error message

/-- Putting a context in front of an error. -/
def withContext {α : Type} (context : String) (r : Except String α) : Except String α :=
  r.mapError fun cause => s!"{context}: {cause}"

/-! ### The model -/

/-- Where a gateway sends marked traffic, before resolution. -/
structure CfgEgress where
  interface : Option String := none
  container : Option String := none
  nextHop : Option String := none

/-- A label selector: a container matches when it carries every listed label with the
given value. -/
abbrev Selector := TreeMap String String

/-- The labels of a container. -/
abbrev Labels := TreeMap String String

/-- A gateway: an egress target and its routing knobs. -/
structure Gateway where
  name : String
  egress : CfgEgress
  snat : Option Bool := none
  mark : Option String := none
  table : Option UInt32 := none
  default : Bool := false
  localSubnets : List String := []
  members : List Selector := []

/-- The parsed gateways document. -/
abbrev Gateways := List Gateway

/-! ### The effective values of a gateway -/

/-- `"0x4"` or `"4"` as a number. -/
def parseMark (s : String) : Except String UInt32 :=
  let s := trim s
  let v := match stripBeginning "0x" s with
    -- without the beginning the number is decimal, even with letters in it
    | none => (parseU32 10 s).toOption
    | some hex => (parseU32 16 hex).toOption
  match v with
  | some v => .ok v
  | none => .error s!"not a u32: {debugStr s}"

/-- The FNV-1a hash of a string. -/
def fnv1a (s : String) : UInt32 :=
  (s.toList.flatMap String.utf8EncodeChar).foldl
    (fun h b => (h ^^^ b.toUInt32) * 0x01000193) 0x811c9dc5

/-- The mark derived from a gateway name. -/
def autoMark (name : String) : UInt32 := 0x1000 + fnv1a name % 0xE000

/-- The routing table derived from a gateway name. -/
def autoTable (name : String) : UInt32 := 5000 + fnv1a name % 1000

/-- The private ranges, which stay direct by default. -/
def defaultLocalSubnets : List String := ["10.0.0.0/8", "172.16.0.0/12", "192.168.0.0/16"]

namespace Gateway

/-- The effective mark: the explicit one, or the one derived from the name. -/
def markValue (g : Gateway) : Except String UInt32 :=
  match g.mark with
  | some m => withContext s!"gateway {g.name}: bad mark {debugStr m}" (parseMark m)
  | none => .ok (autoMark g.name)

/-- The effective routing table. -/
def tableId (g : Gateway) : UInt32 := g.table.getD (autoTable g.name)

/-- Whether to masquerade onto the egress. -/
def snatEnabled (g : Gateway) : Bool := g.snat.getD g.egress.interface.isSome

/-- The destinations that stay direct. -/
def localSubnetsEffective (g : Gateway) : List String :=
  if g.localSubnets.isEmpty then defaultLocalSubnets else g.localSubnets

end Gateway

/-- Whether a name is plausible for a network interface. -/
def validIfname (name : String) : Bool :=
  decide (1 ≤ name.utf8ByteSize ∧ name.utf8ByteSize ≤ 15) &&
    name.toList.all fun c => c.isAlphanum || c == '.' || c == '-' || c == '_'

/-! ### Validation -/

/-- The number of egress kinds that are set. -/
def CfgEgress.kinds (e : CfgEgress) : ℕ :=
  [e.interface.isSome, e.container.isSome, e.nextHop.isSome].count true

/-- Validating one gateway. -/
def Gateway.validate (g : Gateway) : Except String Unit := do
  let ctx := s!"gateway {g.name}"
  ensure (g.egress.kinds == 1)
    s!"{ctx}: egress needs exactly one of interface/container/nextHop (got {g.egress.kinds})"
  g.mark.forM fun m => do
    let v ← withContext s!"{ctx}: bad mark {debugStr m}" (parseMark m)
    ensure (v != 0) s!"{ctx}: mark must be non-zero (0 matches all unmarked traffic)"
  g.table.forM fun t => ensure (0 < t) s!"{ctx}: table must be > 0"
  g.egress.interface.forM fun iface =>
    ensure (validIfname iface)
      s!"{ctx}: bad interface name {debugStr iface} (want 1-15 of [A-Za-z0-9._-])"
  g.egress.nextHop.forM fun nh =>
    withContext s!"{ctx}: bad nextHop {debugStr nh}"
      (ensure (parseIp nh).isSome "invalid IP address syntax")
  g.localSubnets.forM fun s => do
    let _ ← withContext s!"{ctx}: bad localSubnet {debugStr s}" (Libraries.networkFromStr s)
  g.members.forM fun sel =>
    ensure (!sel.isEmpty) s!"{ctx}: a members selector must not be empty (it would match nothing)"

/-- Checking that no two gateways share an effective mark or table, given the marks and
tables of the gateways before. -/
def checkUniqueRoutingFrom :
    TreeMap UInt32 String → TreeMap UInt32 String → List Gateway → Except String Unit
  | _, _, [] => .ok ()
  | marks, tables, g :: gs => do
      let mark ← g.markValue
      match marks[mark]? with
      | some other =>
          let text := "0x" ++ hex mark.toNat
          .error (s!"gateways {debugStr other} and {debugStr g.name} resolve to the same mark " ++
            s!"{text} — set an explicit `mark` on one")
      | none =>
          match tables[g.tableId]? with
          | some other =>
              .error (s!"gateways {debugStr other} and {debugStr g.name} resolve to the same " ++
                s!"table {g.tableId} — set an explicit `table` on one")
          | none =>
              checkUniqueRoutingFrom (marks.insert mark g.name) (tables.insert g.tableId g.name) gs

/-- Checking that no two gateways share an effective mark or table. -/
def checkUniqueRouting (gs : List Gateway) : Except String Unit := checkUniqueRoutingFrom ∅ ∅ gs

namespace Gateways

/-- Validating every gateway and the uniqueness of the names, given the names seen and the
number of default gateways before; the number of default gateways. -/
def validateFrom : TreeMap String Unit → ℕ → Gateways → Except String ℕ
  | _, defaults, [] => .ok defaults
  | seen, defaults, g :: gs => do
      g.validate
      ensure (!seen.contains g.name) s!"duplicate gateway {debugStr g.name}"
      validateFrom (seen.insert g.name ()) (defaults + g.default.toNat) gs

/-- Validating the whole set. -/
def validate (gs : Gateways) : Except String Unit := do
  let defaults ← validateFrom ∅ 0 gs
  ensure (decide (defaults ≤ 1)) "more than one default gateway"
  checkUniqueRouting gs

/-- The gateway a `via` value names, or the default one. -/
def resolve (gs : Gateways) : Option String → Option Gateway
  | some name => gs.find? (·.name == name)
  -- without a default, an only gateway is the default
  | none => (gs.find? (·.default)).or (if gs.length = 1 then gs.head? else none)

end Gateways

/-- Parsing a gateways document, given how a document is read. -/
def parseGateways (fromStr : String → Except String (List Gateway)) (text : String) :
    Except String Gateways := do
  let gs ← withContext "parse gateways document" (fromStr text)
  Gateways.validate gs
  return gs

/-! ### Labels -/

/-- Whether a container opts in, and the gateway it names. -/
def optIn (pfx : String) (labels : Labels) : Option (Option String) :=
  if labels[s!"{pfx}.enable"]? = some "true" then some labels[s!"{pfx}.via"]? else none

/-- The gateway name a container advertises. -/
def gatewayName (pfx : String) (labels : Labels) : Option String :=
  (labels[s!"{pfx}.gateway"]?.map trim).filter (· ≠ "")

/-- Whether labels satisfy a selector.  An empty selector never matches. -/
def selectorMatches (selector : Selector) (labels : Labels) : Bool :=
  !selector.isEmpty && selector.toList.all fun (k, v) => labels[k]? == some v

/-- A comma-separated list of `key=value` pairs as a selector. -/
def parseSelectorLabel (s : String) : Selector :=
  TreeMap.ofList (((split ',' s).filterMap (splitOnce '=')).map fun (k, v) => (trim k, trim v))

/-- The value of a `<prefix>.gateway.<field>` label. -/
def knob (pfx : String) (labels : Labels) (field : String) : Option String :=
  labels[s!"{pfx}.gateway.{field}"]?.map trim

/-- The `snat` knob; anything but a boolean leaves it unset. -/
def snatKnob : Option String → Option Bool
  | some "true" => some true
  | some "false" => some false
  | _ => none

/-- The `table` knob. -/
def tableKnob (name : String) : Option String → Except String (Option UInt32)
  | none => .ok none
  | some t =>
      withContext s!"gateway {debugStr name}: bad table label {debugStr t}"
        (((parseU32 10 t).mapError ParseIntError.message).map some)

/-- The `localSubnets` knob: the nonblank pieces of a comma-separated list. -/
def localSubnetsKnob : Option String → List String
  | none => []
  | some s => ((split ',' s).map trim).filter (· ≠ "")

/-- The `members` knob: one selector. -/
def membersKnob : Option String → List Selector
  | none => []
  | some s => [parseSelectorLabel s]

/-- The gateway a container declares by its labels: the container itself as egress, and the
knobs of the `<prefix>.gateway.<field>` labels. -/
def discoveredGateway (pfx name egressContainer : String) (labels : Labels) :
    Except String Gateway := do
  let field := knob pfx labels
  let table ← tableKnob name (field "table")
  let gw : Gateway :=
    { name := name
      egress := { container := some egressContainer }
      snat := snatKnob (field "snat")
      mark := field "mark"
      table := table
      default := field "default" == some "true"
      localSubnets := localSubnetsKnob (field "localSubnets")
      members := membersKnob (field "members") }
  gw.validate
  return gw

end Degc
