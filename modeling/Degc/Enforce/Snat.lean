import Degc.Enforce.KillSwitch

/-!
# Which packets are masqueraded

Behind the routing, the chain for source NAT rewrites the source of a packet to the
address of the device it leaves by.  A gateway has its rule there when source NAT is
set for it, or by default when its egress is an interface.

The main result is `Reachable.masqueraded`: on a host on which a plan is applied, the
packets whose source is rewritten are those that members of such gateways send out by
the live default, and no others.
-/

namespace Netfilter

open Net

/-! ### Rewriting -/

/-- Whether a rule rewrites the source of a packet. -/
def rewrites (sets : Sets) : Rule → Packet → Bool
  | [], _ => false
  | .saddr f s :: es, p => f.has p.src && holds sets s p.src && rewrites sets es p
  | .daddrNot f s :: es, p => f.has p.dst && !holds sets s p.dst && rewrites sets es p
  | .mark v :: es, p => p.mark == v && rewrites sets es p
  | .oifname i :: es, p => p.oif == some i && rewrites sets es p
  | .oifnameNot i :: es, p => p.oif != some i && rewrites sets es p
  | .setMark v :: es, p => rewrites sets es { p with mark := v }
  | .masquerade :: _, _ => true
  | .drop :: _, _ => false

/-- Whether one of some rules rewrites the source of a packet, before another one decides about
it. -/
def rewritesRules (sets : Sets) : List Rule → Packet → Bool
  | [], _ => false
  | r :: rs, p =>
      rewrites sets r p ||
        match evalRule sets r p with
        | .next p' => rewritesRules sets rs p'
        | .accept _ | .drop => false

/-- Whether one of some chains rewrites the source of a packet. -/
def rewritesChains (sets : Sets) : List Chain → Packet → Bool
  | [], _ => false
  | c :: cs, p =>
      rewritesRules sets c.rules p || (evalRules sets c.rules p).any (rewritesChains sets cs)

/-- Whether the chains of a table at a hook rewrite the source of a packet. -/
def Table.rewrites (t : Table) (hook : String) (p : Packet) : Bool :=
  rewritesChains t.sets (t.chains.filter (·.hook == hook)) p

/-- Rules that pass on as it is what they do not rewrite rewrite it one by one. -/
lemma rewritesRules_eq_any {sets : Sets} {rules : List Rule} {p : Packet}
    (h : ∀ r ∈ rules, rewrites sets r p = false → evalRule sets r p = .next p) :
    rewritesRules sets rules p = rules.any (rewrites sets · p) := by
  induction rules with
  | nil => rfl
  | cons r rules ih =>
      rw [List.forall_mem_cons] at h
      rw [rewritesRules, List.any_cons]
      cases hr : rewrites sets r p with
      | true => simp
      | false =>
          rw [h.1 hr, Bool.false_or, Bool.false_or]
          exact ih h.2

end Netfilter

namespace Degc

open Net Text Fib Netfilter

/-- A packet as it leaves, if it is forwarded. -/
def Host.leaving (h : Host) (p : Packet) : Option Packet := do
  let marked ← h.hook "prerouting" p
  let r ← h.fib.route marked.mark marked.dst
  let dev ← r.hop.oif
  h.hook "forward" { marked with oif := some dev }

/-- Whether the source of a packet is rewritten when it is forwarded. -/
def Host.masquerades (h : Host) (p : Packet) : Bool :=
  (h.leaving p).any fun out => h.nft["inet degc"]?.any (·.rewrites "postrouting" out)

variable [Libraries]

/-! ### The chain of a plan -/

/-- A gateway masquerades what leaves by a device. -/
def Nft.Masquerades (gp : GatewayPlan) (oif : Option String) : Prop :=
  gp.gateway.snatEnabled = true ∧ (∀ why, gp.egress ≠ .unavailable why) ∧ Nft.Passes gp.egress oif

/-- The rule of a gateway in the chain for source NAT. -/
lemma Nft.any_snatRule (sets : Sets) (gp : GatewayPlan) (p : Packet) :
    ((snatRule gp).any (rewrites sets · p) = true ↔
        p.mark = markOf gp ∧ Nft.Masquerades gp p.oif) ∧
      ∀ r ∈ snatRule gp, rewrites sets r p = false → evalRule sets r p = .next p := by
  rw [snatRule, Nft.Masquerades]
  cases gp.egress with
  | interface iface =>
      cases gp.gateway.snatEnabled with
      | false => simp
      | true =>
          by_cases hmark : p.mark = markOf gp <;> by_cases hoif : p.oif = some iface <;>
            simp [rewrites, evalRule, Passes, hmark, hoif]
  | nextHop ip =>
      cases gp.gateway.snatEnabled with
      | false => simp
      | true => by_cases hmark : p.mark = markOf gp <;> simp [rewrites, evalRule, Passes, hmark]
  | unavailable why => simp

/-- What the chains of a plan rewrite. -/
lemma Nft.rewrites_chains (sets : Sets) (p : Plan) (pkt : Packet) :
    Table.rewrites ⟨sets, chains p⟩ "postrouting" pkt = true ↔
      ∃ gp ∈ p.gateways, pkt.mark = markOf gp ∧ Nft.Masquerades gp pkt.oif := by
  have hrules : rewritesRules sets (p.gateways.flatMap snatRule) pkt = true ↔
      ∃ gp ∈ p.gateways, pkt.mark = markOf gp ∧ Nft.Masquerades gp pkt.oif := by
    rw [rewritesRules_eq_any]
    · simp only [List.any_flatMap, List.any_eq_true]
      refine exists_congr fun gp => and_congr_right fun _ => ?_
      rw [← (any_snatRule sets gp pkt).1, List.any_eq_true]
    · intro r hr
      obtain ⟨gp, -, hr⟩ := List.mem_flatMap.1 hr
      exact (any_snatRule sets gp pkt).2 r hr
  have hchain : (chains p).filter (·.hook == "postrouting") =
      if (p.gateways.flatMap snatRule).isEmpty then []
      else [⟨"degc_snat", "nat", "postrouting", "srcnat", p.gateways.flatMap snatRule⟩] := by
    rw [chains, List.filter_append, List.filter_append, apply_ite (List.filter _)]
    simp
  rw [Table.rewrites, hchain, ← hrules]
  cases hnone : (p.gateways.flatMap snatRule).isEmpty with
  | true =>
      rw [List.isEmpty_iff.1 hnone]
      simp [rewritesChains, rewritesRules]
  | false => simp [rewritesChains]

/-- Which packets a host on which a plan is loaded rewrites, given the mark they are routed
with. -/
lemma Nft.masquerades_iff {h : Host} {p : Plan} {sets : Sets}
    (ht : h.nft["inet degc"]? = some ⟨sets, chains p⟩) {pkt : Packet} {m : ℕ}
    (hm : ((p.gateways.filter (marks sets · pkt)).getLast?.map markOf).getD pkt.mark = m) :
    h.masquerades pkt = true ↔ ∃ r, h.forward pkt = some r ∧
      ∃ gp ∈ p.gateways, m = markOf gp ∧ Nft.Masquerades gp r.hop.oif := by
  simp only [Host.masquerades, Host.leaving, Host.forward, hook_mark ht, hm, Option.bind_eq_bind,
    Option.bind_some, Option.pure_def, Option.any_eq_true, Option.bind_eq_some_iff,
    Option.some.injEq]
  constructor
  · rintro ⟨out, ⟨r, hr, dev, hdev, hpass⟩, t, htable, hrewrites⟩
    obtain rfl := (hook_kill ht).1 hpass |>.1
    obtain rfl := Option.some.inj (ht.symm.trans htable)
    rw [rewrites_chains] at hrewrites
    exact ⟨r, ⟨r, hr, dev, hdev, _, hpass, rfl⟩, hdev ▸ hrewrites⟩
  · rintro ⟨r, ⟨r', hr, dev, hdev, out, hpass, rfl⟩, hmasq⟩
    obtain rfl := (hook_kill ht).1 hpass |>.1
    rw [hdev] at hmasq
    exact ⟨_, ⟨r', hr, dev, hdev, hpass⟩, _, ht, (rewrites_chains sets p _).2 hmasq⟩

/-! ### What a plan is for -/

omit [Libraries] in
/-- An egress is available. -/
def Egress.isAvailable : Egress → Bool
  | .unavailable _ => false
  | .interface _ | .nextHop _ => true

/-- Whether the source of a packet is to be rewritten. -/
def Plan.masquerades (p : Plan) (pkt : Packet) : Bool :=
  (p.gateways.find? (·.members.contains pkt.src)).any fun gp =>
    gp.gateway.snatEnabled && gp.egress.isAvailable && pkt.src.isIpv4 && !Direct gp pkt.dst

omit [Libraries] in
/-- The gateway that an address is a member of is found. -/
lemma find?_member {p : Plan} {src : IpAddr} (halone : Alone p src) {gp : GatewayPlan}
    (hgp : gp ∈ p.gateways) (hmem : src ∈ gp.members) :
    p.gateways.find? (·.members.contains src) = some gp := by
  cases hfind : p.gateways.find? (·.members.contains src) with
  | none => exact absurd (Std.TreeSet.contains_iff_mem.2 hmem) (List.find?_eq_none.1 hfind gp hgp)
  | some gp' =>
      have hcontains := List.find?_some hfind
      have hmem' := Std.TreeSet.contains_iff_mem.1 hcontains
      rw [halone.one gp hgp gp' (List.mem_of_find?_eq_some hfind) hmem hmem']

section Loaded

variable {p : Plan} {h : Host}

/-- What a member sends to an address that is not direct is rewritten when it is forwarded and the
gateway has source NAT. -/
lemma Loaded.masquerades_member (hl : Loaded p h) {gp : GatewayPlan} {pkt : Packet}
    (honly : OnlyOf p gp pkt.src) (hfamily : pkt.src.isIpv4 = pkt.dst.isIpv4)
    (hdirect : Direct gp pkt.dst = false) :
    h.masquerades pkt = true ↔ (∃ r, h.forward pkt = some r) ∧ gp.gateway.snatEnabled = true := by
  have hforward := fun r => hl.forward_iff (r := r) honly hfamily hdirect
  obtain ⟨d, sets, hc, ht, hsets⟩ := hl
  rw [Nft.masquerades_iff ht rfl]
  constructor
  · rintro ⟨r, hr, gp', hgp', hmark, hsnat, -⟩
    have hsrc := ((hforward r).1 hr).1
    rw [mark_of_marks honly.gateway (honly.marks_iff hsets hsrc (hfamily ▸ hsrc) hdirect)] at hmark
    rw [hc.eq_of_mark honly.gateway hgp' hmark]
    exact ⟨⟨r, hr⟩, hsnat⟩
  · rintro ⟨⟨r, hr⟩, hsnat⟩
    obtain ⟨hsrc, -, dev, hdev, hpass⟩ := (hforward r).1 hr
    refine ⟨r, hr, gp, honly.gateway, mark_of_marks honly.gateway
      (honly.marks_iff hsets hsrc (hfamily ▸ hsrc) hdirect), hsnat, ?_, hdev ▸ hpass⟩
    rintro why hwhy
    rw [hwhy] at hpass
    exact hpass

/-- What no gateway marks is not rewritten. -/
lemma Loaded.masquerades_rest (hl : Loaded p h) {pkt : Packet} (hmark : pkt.mark = 0)
    (hfamily : pkt.src.isIpv4 = pkt.dst.isIpv4) (hshared : ∀ gp ∈ p.gateways,
      pkt.src ∈ gp.members → Unshared p gp ∧ Direct gp pkt.dst = true) :
    h.masquerades pkt = false := by
  obtain ⟨d, sets, hc, ht, hsets⟩ := hl
  have hnone : p.gateways.filter (Nft.marks sets · pkt) = [] := by
    rw [List.filter_eq_nil_iff]
    intro gp hgp
    simp [(marks_of_rest hsets hfamily hshared gp hgp).1]
  rw [← Bool.not_eq_true, Nft.masquerades_iff ht rfl, hnone, hmark]
  rintro ⟨r, -, gp, hgp, hzero, -⟩
  exact (hc.mark gp hgp).1.ne hzero

/-- Whatever the rules and routes are, a host on which a plan is loaded rewrites nothing but what is
to be rewritten. -/
lemma Loaded.masquerades_le (hl : Loaded p h) {pkt : Packet} (hmark : pkt.mark = 0)
    (hfamily : pkt.src.isIpv4 = pkt.dst.isIpv4) (halone : Alone p pkt.src)
    (hmasq : h.masquerades pkt = true) : p.masquerades pkt = true := by
  by_contra hnot
  rw [Plan.masquerades, Option.any_eq_true] at hnot
  by_cases hmember : ∃ gp ∈ p.gateways, pkt.src ∈ gp.members ∧ Direct gp pkt.dst = false
  · obtain ⟨gp, hgp, hmem, hdirect⟩ := hmember
    have honly := halone.onlyOf hgp hmem
    obtain ⟨⟨r, hr⟩, hsnat⟩ := (hl.masquerades_member honly hfamily hdirect).1 hmasq
    obtain ⟨hsrc, -, dev, -, hpass⟩ := (hl.forward_iff honly hfamily hdirect).1 hr
    have havailable : gp.egress.isAvailable = true := by
      cases he : gp.egress with
      | unavailable why =>
          rw [he] at hpass
          exact absurd hpass id
      | interface iface | nextHop ip => rfl
    exact hnot ⟨gp, find?_member halone hgp hmem, by simp [hsnat, havailable, hsrc, hdirect]⟩
  · have hrest := hl.masquerades_rest hmark hfamily fun gp hgp hmem =>
      ⟨halone.sets gp hgp hmem, by
        by_contra hdirect
        exact hmember ⟨gp, hgp, hmem, Bool.eq_false_of_not_eq_true hdirect⟩⟩
    rw [hrest] at hmasq
    exact absurd hmasq (by simp)

end Loaded

/-- A host on which a plan was applied without harm rewrites what is to be rewritten. -/
lemma SetUp.masquerades {link : IpAddr → String} {h₀ h : Host} {p : Plan} (hconn : Connected h₀)
    (hset : SetUp link h₀ h p) {pkt : Packet} (hpkt : Forwarded h₀ pkt) (halone : Alone p pkt.src) :
    h.masquerades pkt = p.masquerades pkt := by
  rw [Bool.eq_iff_iff]
  refine ⟨hset.loaded.masquerades_le hpkt.mark hpkt.family halone, fun hmasq => ?_⟩
  obtain ⟨gp, hfind, hall⟩ := (Option.any_eq_true _ _).1 hmasq
  simp only [Bool.and_eq_true, Bool.not_eq_true'] at hall
  obtain ⟨⟨⟨hsnat, havailable⟩, hsrc⟩, hdirect⟩ := hall
  have hgp := List.mem_of_find?_eq_some hfind
  have hcontains := List.find?_some hfind
  have hmem := Std.TreeSet.contains_iff_mem.1 hcontains
  refine (hset.loaded.masquerades_member (halone.onlyOf hgp hmem) hpkt.family hdirect).2 ⟨?_, hsnat⟩
  have hforward := (hset.forwards hconn).forward pkt hpkt halone
  rw [Plan.forward, hfind] at hforward
  simp only [hdirect, hsrc, Bool.false_eq_true, if_false, if_true] at hforward
  rw [hforward]
  cases hl : Route.liveOf link gp with
  | some r => exact ⟨r, rfl⟩
  | none =>
      obtain ⟨why, hwhy⟩ := Route.liveOf_eq_none.1 hl
      rw [hwhy] at havailable
      exact absurd havailable (by simp [Egress.isAvailable])

/-- On a connected host, whatever plans were run on it before, a plan that is applied successfully,
where the failures that are ignored do no harm, has the source rewritten of what members of gateways
with source NAT send out; and whatever becomes of the rules and routes, of nothing else. -/
theorem Reachable.masqueraded {h₀ h h' : Host} (hconn : Connected h₀) (hr : Reachable h₀ h)
    {p : Plan} {d : Desired} (hc : Compiled p d) {env : Env}
    (happly : Enforce.apply env.world d h = (h', .ok ()))
    (hharmless : ∀ gp ∈ p.gateways, Route.Harmless env gp h.fib) {pkt : Packet}
    (hpkt : Forwarded h₀ pkt) (halone : Alone p pkt.src) :
    h'.masquerades pkt = p.masquerades pkt ∧
      ∀ fib : Fib, Host.masquerades ⟨h'.nft, fib⟩ pkt = true → p.masquerades pkt = true := by
  have hset := hr.setUp hconn.toClean hc happly hharmless
  refine ⟨hset.masquerades hconn hpkt halone, fun fib => ?_⟩
  have hl : Loaded p ⟨h'.nft, fib⟩ := hset.loaded
  exact hl.masquerades_le hpkt.mark hpkt.family halone

/-- A configuration of one gateway, an interface of the host. -/
def wgGateways : Gateways :=
  [{ name := "wg", egress := { interface := some "wg0" }, mark := some "0x5", table := some 101 }]

/-- The plan of the interface. -/
@[reducible] def wgPlan (targets : List Target) : Plan :=
  @Plan.compile .plain targets "degc" wgGateways

omit [Libraries] in
/-- On the host in the home network, what the member of an interface sends out is masqueraded,
without a setting for it. -/
theorem masqueraded_wgPlan : ∃ d h', @Compiled .plain (wgPlan appTargets) d ∧
    @Enforce.apply .plain _ Env.allOk.world d homeHost = (h', .ok ()) ∧
    h'.masquerades ⟨.v4 0xac120007, .v4 0x01010101, 0, none⟩ = true := by
  obtain ⟨d, hc⟩ := exists_compiled appTargets "degc" wgGateways (by decide) (by decide)
  obtain ⟨rs, -, happly⟩ := @Clean.apply_of_lets .plain _ connected_homeHost.toClean _ _ hc _
    (Env.lets_allOk d) (by decide)
  have hegress : ∀ gp ∈ (wgPlan appTargets).gateways, gp.egress = .interface "wg0" := by decide
  have halone : Alone (wgPlan appTargets) (.v4 0xac120007) :=
    alone_of_one (by decide) hegress (by rintro ip ⟨⟩) _
  refine ⟨d, _, hc, happly, ?_⟩
  rw [(@Reachable.masqueraded .plain _ _ _ connected_homeHost (@Reachable.start .plain _) _ _ hc _
    happly (@Compiled.harmless_of_lets .plain _ _ hc _ (Env.lets_allOk d) _) _ ⟨rfl, rfl, by decide⟩
    halone).1]
  decide +kernel

end Degc
