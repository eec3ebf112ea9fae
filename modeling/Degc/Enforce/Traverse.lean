import Degc.Enforce.Reachable

/-!
# The way of a packet through the chains

What the chains of a plan do with a packet, in terms of the gateways: the first chain
leaves the mark of the last gateway that the packet is one of, and the last chain
drops what is to stay or would leave by another device than the one of its gateway.

The main results are `hook_mark` and `hook_kill`, and `holds_iff` for the sets that
the rules look at.
-/

namespace Degc.Nft

open Net Text Netfilter

variable [Libraries]

/-! ### The rules -/

/-- A packet is from an address in a set and to none in another one, if there is another one. -/
def Hit (sets : Sets) (f : Family) (via excl : String) (ns : List IpNetwork) (pkt : Packet) :
    Bool :=
  f.has pkt.src && holds sets via pkt.src &&
    (ns.isEmpty || f.has pkt.dst && !holds sets excl pkt.dst)

/-- The packets that a gateway marks. -/
def marks (sets : Sets) (gp : GatewayPlan) (pkt : Packet) : Bool :=
  Hit sets .ip (viaName gp.gateway) (localName gp.gateway) (locals4 gp.gateway) pkt

/-- The IPv6 packets that a gateway drops. -/
def drops6 (sets : Sets) (gp : GatewayPlan) (pkt : Packet) : Bool :=
  !(members6 gp).isEmpty &&
    Hit sets .ip6 (via6Name gp.gateway) (local6Name gp.gateway) (locals6 gp.gateway) pkt

/-- A gateway lets a packet with its mark leave by a device. -/
def Passes : Egress → Option String → Prop
  | .interface iface, oif => oif = some iface
  | .nextHop _, _ => True
  | .unavailable _, _ => False

omit [Libraries] in
lemma evalRule_saddr (sets : Sets) (f : Family) (via excl : String) (ns : List IpNetwork)
    (es : Rule) (pkt : Packet) :
    evalRule sets (.saddr f via :: (exclMatch excl f ns ++ es)) pkt =
      if Hit sets f via excl ns pkt then evalRule sets es pkt else .next pkt := by
  cases h : f.has pkt.src && holds sets via pkt.src <;> cases hns : ns.isEmpty <;>
    simp [evalRule, Hit, exclMatch, h, hns]

lemma evalRule_markRule (sets : Sets) (gp : GatewayPlan) (pkt : Packet) :
    evalRule sets (markRule gp) pkt =
      .next (if marks sets gp pkt then { pkt with mark := markOf gp } else pkt) := by
  rw [markRule, evalRule_saddr, marks]
  split <;> rfl

/-- The first chain leaves the mark of the last gateway that the packet is one of. -/
lemma evalRules_markRules (sets : Sets) (gps : List GatewayPlan) (pkt : Packet) :
    evalRules sets (gps.map markRule) pkt = some { pkt with
      mark := ((gps.filter (marks sets · pkt)).getLast?.map markOf).getD pkt.mark } := by
  induction gps generalizing pkt with
  | nil => rfl
  | cons gp gps ih =>
      rw [List.map_cons, evalRules, evalRule_markRule]
      simp only
      rw [ih, List.filter_cons]
      cases h : marks sets gp pkt with
      | false => simp
      | true =>
          -- the rules behind do not look at the mark
          have hsame : ∀ gp', marks sets gp' { pkt with mark := markOf gp } = marks sets gp' pkt :=
            fun _ => rfl
          simp only [hsame, if_true, List.getLast?_cons]
          cases (gps.filter (marks sets · pkt)).getLast? <;> rfl

/-- The last chain drops a packet, or passes it on. -/
lemma evalRules_killRules {sets : Sets} {gps : List GatewayPlan} {pkt pkt' : Packet} :
    evalRules sets (gps.flatMap fun gp => killRule6 gp ++ killRule gp) pkt = some pkt' ↔
      pkt' = pkt ∧ ∀ gp ∈ gps, drops6 sets gp pkt = false ∧
        (pkt.mark = markOf gp → Passes gp.egress pkt.oif) := by
  have h6 : ∀ gp,
      (∀ r ∈ killRule6 gp, evalRule sets r pkt = .next pkt ∨ evalRule sets r pkt = .drop) ∧
      ((∀ r ∈ killRule6 gp, evalRule sets r pkt = .next pkt) ↔ drops6 sets gp pkt = false) := by
    intro gp
    rw [killRule6, drops6]
    split
    · next hnone => simp [hnone]
    · next hsome =>
        simp only [List.forall_mem_singleton, evalRule_saddr]
        cases Hit sets .ip6 (via6Name gp.gateway) (local6Name gp.gateway) (locals6 gp.gateway)
          pkt <;>
          simp [evalRule, hsome]
  have hm : ∀ gp,
      (∀ r ∈ killRule gp, evalRule sets r pkt = .next pkt ∨ evalRule sets r pkt = .drop) ∧
      ((∀ r ∈ killRule gp, evalRule sets r pkt = .next pkt) ↔
        (pkt.mark = markOf gp → Passes gp.egress pkt.oif)) := by
    intro gp
    rw [killRule]
    cases gp.egress with
    | interface iface =>
        by_cases hmark : pkt.mark = markOf gp <;> by_cases hoif : pkt.oif = some iface <;>
          simp [evalRule, Passes, hmark, hoif]
    | nextHop ip => simp [Passes]
    | unavailable why =>
        by_cases hmark : pkt.mark = markOf gp <;> simp [evalRule, Passes, hmark]
  rw [evalRules_eq_some]
  · refine and_congr_right fun _ => ?_
    simp only [List.forall_mem_flatMap, List.forall_mem_append, (h6 _).2, (hm _).2]
  · simp only [List.forall_mem_flatMap, List.forall_mem_append]
    exact fun gp _ => ⟨(h6 gp).1, (hm gp).1⟩

/-! ### The sets -/

/-- What the sets of a plan hold: the elements of the gateways with the same replaced name. -/
lemma holds_iff {sets : Sets} {gps : List GatewayPlan}
    (hsets : ∀ n, elemsAt sets n = elemsOf (gps.flatMap setDefs) n) {b : String} (hb : b ∈ pres)
    (name : String) (a : IpAddr) :
    holds sets (b ++ sanitize name) a = true ↔
      ∃ gp ∈ gps, sanitize gp.gateway.name = sanitize name ∧
        (elemsOf (setDefs gp) (b ++ sanitize gp.gateway.name)).any (·.contains a) = true := by
  rw [holds_eq_elemsAt, hsets, elemsOf_flatMap]
  simp only [List.any_eq_true, List.mem_flatMap]
  constructor
  · rintro ⟨c, ⟨gp, hgp, hc⟩, hca⟩
    -- the sets of a gateway with another replaced name have other names
    have hname : sanitize gp.gateway.name = sanitize name := by
      by_contra hne
      rw [elemsOf_setDefs_of_ne hb hne] at hc
      exact absurd hc List.not_mem_nil
    exact ⟨gp, hgp, hname, c, hname ▸ hc, hca⟩
  · rintro ⟨gp, hgp, hname, c, hc, hca⟩
    exact ⟨c, ⟨gp, hgp, hname ▸ hc⟩, hca⟩

section Holds

variable {sets : Sets} {gps : List GatewayPlan}

/-- The set of the IPv4 members of the gateways with one replaced name. -/
lemma holds_via (hsets : ∀ n, elemsAt sets n = elemsOf (gps.flatMap setDefs) n) (gw : Gateway)
    (a : IpAddr) :
    holds sets (viaName gw) a = true ↔
      ∃ gp ∈ gps, sanitize gp.gateway.name = sanitize gw.name ∧ a ∈ members4 gp := by
  refine (holds_iff hsets (b := "degc_via_") (by decide) gw.name a).trans ?_
  refine exists_congr fun gp => and_congr_right fun _ => and_congr_right fun _ => ?_
  have helems : elemsOf (setDefs gp) ("degc_via_" ++ sanitize gp.gateway.name) =
      (members4 gp).map .single := (elemsOf_setDefs gp).1
  rw [helems]
  simp

/-- The set of the IPv4 networks to exclude of the gateways with one replaced name. -/
lemma holds_local (hsets : ∀ n, elemsAt sets n = elemsOf (gps.flatMap setDefs) n) (gw : Gateway)
    (a : IpAddr) :
    holds sets (localName gw) a = true ↔
      ∃ gp ∈ gps, sanitize gp.gateway.name = sanitize gw.name ∧
        (locals4 gp.gateway).any (·.contains a) = true := by
  refine (holds_iff hsets (b := "degc_local_") (by decide) gw.name a).trans ?_
  refine exists_congr fun gp => and_congr_right fun _ => and_congr_right fun _ => ?_
  have helems : elemsOf (setDefs gp) ("degc_local_" ++ sanitize gp.gateway.name) =
      (locals4 gp.gateway).map (·.toCidr) := (elemsOf_setDefs gp).2.1
  rw [helems, List.any_map]
  rfl

/-- The set of the IPv6 members of the gateways with one replaced name. -/
lemma holds_via6 (hsets : ∀ n, elemsAt sets n = elemsOf (gps.flatMap setDefs) n) (gw : Gateway)
    (a : IpAddr) :
    holds sets (via6Name gw) a = true ↔
      ∃ gp ∈ gps, sanitize gp.gateway.name = sanitize gw.name ∧ a ∈ members6 gp := by
  refine (holds_iff hsets (b := "degc_via6_") (by decide) gw.name a).trans ?_
  refine exists_congr fun gp => and_congr_right fun _ => and_congr_right fun _ => ?_
  have helems : elemsOf (setDefs gp) ("degc_via6_" ++ sanitize gp.gateway.name) =
      (members6 gp).map .single := (elemsOf_setDefs gp).2.2.1
  rw [helems]
  simp

/-- What the sets hold of a gateway whose replaced name is its own. -/
lemma holds_own (hsets : ∀ n, elemsAt sets n = elemsOf (gps.flatMap setDefs) n) {gp : GatewayPlan}
    (hgp : gp ∈ gps)
    (hown : ∀ gp' ∈ gps, sanitize gp'.gateway.name = sanitize gp.gateway.name → gp' = gp)
    {b : String} (hb : b ∈ pres) (a : IpAddr) :
    holds sets (b ++ sanitize gp.gateway.name) a =
      (elemsOf (setDefs gp) (b ++ sanitize gp.gateway.name)).any (·.contains a) := by
  rw [Bool.eq_iff_iff, holds_iff hsets hb]
  constructor
  · rintro ⟨gp', hgp', hname, hany⟩
    rwa [hown gp' hgp' hname] at hany
  · intro hany
    exact ⟨gp, hgp, rfl, hany⟩

end Holds

/-! ### The hooks -/

section Hooks

variable {h : Host} {sets : Sets} {p : Plan}

/-- What is marked before it is routed. -/
lemma hook_mark (ht : h.nft["inet degc"]? = some ⟨sets, chains p⟩) (pkt : Packet) :
    h.hook "prerouting" pkt = some { pkt with
      mark := ((p.gateways.filter (marks sets · pkt)).getLast?.map markOf).getD pkt.mark } := by
  have hchain : (chains p).filter (·.hook == "prerouting") =
      [⟨"degc_mark", "filter", "prerouting", "mangle", p.gateways.map markRule⟩] := by
    rw [chains, List.filter_append, List.filter_append, apply_ite (List.filter _)]
    simp
  rw [Host.hook, ht]
  simp only [Table.traverse, hchain, List.foldlM_cons, List.foldlM_nil]
  rw [evalRules_markRules]
  rfl

/-- What is dropped when it is forwarded. -/
lemma hook_kill (ht : h.nft["inet degc"]? = some ⟨sets, chains p⟩) {pkt pkt' : Packet} :
    h.hook "forward" pkt = some pkt' ↔ pkt' = pkt ∧ ∀ gp ∈ p.gateways,
      drops6 sets gp pkt = false ∧ (pkt.mark = markOf gp → Passes gp.egress pkt.oif) := by
  have hchain : (chains p).filter (·.hook == "forward") =
      [⟨"degc_killswitch", "filter", "forward", "filter",
        p.gateways.flatMap fun gp => killRule6 gp ++ killRule gp⟩] := by
    rw [chains, List.filter_append, List.filter_append, apply_ite (List.filter _)]
    simp
  rw [← evalRules_killRules, Host.hook, ht]
  simp only [Table.traverse, hchain, List.foldlM_cons, List.foldlM_nil]
  rw [bind_pure]

/-- The way of a packet that is forwarded. -/
lemma forward_eq_some (ht : h.nft["inet degc"]? = some ⟨sets, chains p⟩) {pkt : Packet}
    {m : ℕ} (hm : ((p.gateways.filter (marks sets · pkt)).getLast?.map markOf).getD pkt.mark = m)
    {r : Fib.Route} :
    h.forward pkt = some r ↔ h.fib.route m pkt.dst = some r ∧ ∃ dev, r.hop.oif = some dev ∧
      ∀ gp ∈ p.gateways, drops6 sets gp pkt = false ∧
        (m = markOf gp → Passes gp.egress (some dev)) := by
  have hdrops : ∀ gp oif, drops6 sets gp { pkt with mark := m, oif := oif } = drops6 sets gp pkt :=
    fun _ _ => rfl
  simp only [Host.forward, hook_mark ht, hm, Option.bind_eq_bind, Option.bind_some,
    Option.pure_def, Option.bind_eq_some_iff, hook_kill ht, Option.some.injEq, hdrops]
  constructor
  · rintro ⟨r', hr, dev, hdev, _, ⟨-, hpass⟩, rfl⟩
    exact ⟨hr, dev, hdev, hpass⟩
  · rintro ⟨hr, dev, hdev, hpass⟩
    exact ⟨r, hr, dev, hdev, _, ⟨rfl, hpass⟩, rfl⟩

end Hooks

end Degc.Nft
