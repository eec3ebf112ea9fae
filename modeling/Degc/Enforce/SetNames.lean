import Degc.Enforce
import Degc.Enforce.Meaning

/-!
# The names of the sets

The sets of a gateway are named after the gateway with every character that a set
identifier cannot hold replaced, so two names can become one.  A set that is
defined twice holds the elements of both definitions.

The main result is `ownSets_iff`: every gateway has its sets for itself exactly
when the replaced names are distinct.
-/

namespace Degc.Nft

open Net Text Netfilter

variable [Libraries]

/-! ### Plain egresses -/

omit [Libraries] in
lemma isToken_of_validIfname {iface : String} (h : validIfname iface = true) : IsToken iface := by
  simp only [validIfname, Bool.and_eq_true, decide_eq_true_eq, List.all_eq_true, Bool.or_eq_true,
    beq_iff_eq] at h
  obtain ⟨⟨hlen, -⟩, hchars⟩ := h
  refine isToken_of_forall ?_ fun c hc => ?_
  · intro hnil
    rw [String.toList_eq_nil_iff.1 hnil] at hlen
    exact absurd hlen (by decide)
  · rcases hchars c hc with ((hc | rfl) | rfl) | rfl
    · have hne : c ≠ '#' := by rintro rfl; exact absurd hc (by decide)
      simp [isTokenChar, isVisible_of_isAlphanum hc, hne]
    all_goals decide

lemma not_newline_debugStr (s : String) : ∀ c ∈ (debugStr s).toList, c ≠ '\n' ∧ c ≠ '\r' :=
  fun c hc => by simpa [isLineChar] using isLineChar_debug Libraries.escaped s c hc

/-- The egress of a valid gateway is plain. -/
lemma plainEgress_resolve {g : Gateway} (hg : g.Valid) (targets : List Target) :
    PlainEgress (Plan.resolveEgress g targets) := by
  cases hi : g.egress.interface with
  | some iface =>
      simp only [Plan.resolveEgress, hi]
      exact isToken_of_validIfname (hg.interface iface hi)
  | none =>
      cases hn : g.egress.nextHop with
      | some nh =>
          cases hp : parseIp nh with
          | some ip =>
              simp only [Plan.resolveEgress, hi, hn, hp]
              trivial
          | none => exact absurd (hg.nextHop nh hn) (by simp [hp])
      | none =>
          cases hc : g.egress.container with
          | some sel =>
              cases hip : Plan.gatewayContainerIp sel targets with
              | some ip =>
                  simp only [Plan.resolveEgress, hi, hn, hc, hip]
                  trivial
              | none =>
                  have hdebug := not_newline_debugStr sel
                  simp only [Plan.resolveEgress, hi, hn, hc, hip, PlainEgress, String.toList_append,
                    List.forall_mem_append, toString_string]
                  exact ⟨⟨by simp, hdebug⟩, by simp⟩
          | none => simp [Plan.resolveEgress, hi, hn, hc, PlainEgress]

lemma plainEgress_compile {pfx : String} {gws : Gateways} {targets : List Target}
    (hvalid : gws.validate = .ok ()) :
    ∀ gp ∈ (Plan.compile targets pfx gws).gateways, PlainEgress gp.egress := by
  intro gp hgp
  have hv := Gateways.validate_eq_ok.1 hvalid
  rw [Plan.egress_eq hgp]
  obtain ⟨g, hg, rfl⟩ := (Plan.mem_gateways_compile hv.names).1 hgp
  exact plainEgress_resolve (Plan.valid_of_mem_merge hv.gateways hg) targets

/-! ### Names and gateways -/

/-- The names of the sets of a gateway begin in four ways. -/
def pres : List String := ["degc_via_", "degc_local_", "degc_via6_", "degc_local6_"]

omit [Libraries] in
/-- A name tells how it begins and what stands behind. -/
lemma pre_inj {a b : String} (ha : a ∈ pres) (hb : b ∈ pres) {u v : String}
    (h : a ++ u = b ++ v) : a = b ∧ u = v := by
  rw [← String.toList_inj] at h
  simp only [pres, List.mem_cons, List.not_mem_nil, or_false] at ha hb
  rcases ha with rfl | rfl | rfl | rfl <;> rcases hb with rfl | rfl | rfl | rfl <;>
    simp [String.toList_inj] at h ⊢ <;> exact h

/-- The names of the sets of a gateway are some of the beginnings, each with the replaced name of
the gateway behind it. -/
lemma names_setDefs (gp : GatewayPlan) :
    ∃ ps : List String, ps.Sublist pres ∧
      (setDefs gp).map (·.1) = ps.map (· ++ sanitize gp.gateway.name) := by
  simp only [setDefs, exclDefs]
  cases (locals4 gp.gateway).isEmpty <;> cases (members6 gp).isEmpty <;>
    cases (locals6 gp.gateway).isEmpty
  · exact ⟨["degc_via_", "degc_local_", "degc_via6_", "degc_local6_"], by decide, rfl⟩
  · exact ⟨["degc_via_", "degc_local_", "degc_via6_"], by decide, rfl⟩
  · exact ⟨["degc_via_", "degc_local_"], by decide, rfl⟩
  · exact ⟨["degc_via_", "degc_local_"], by decide, rfl⟩
  · exact ⟨["degc_via_", "degc_via6_", "degc_local6_"], by decide, rfl⟩
  · exact ⟨["degc_via_", "degc_via6_"], by decide, rfl⟩
  · exact ⟨["degc_via_"], by decide, rfl⟩
  · exact ⟨["degc_via_"], by decide, rfl⟩

lemma mem_names_setDefs {gp : GatewayPlan} {n : String} (h : n ∈ (setDefs gp).map (·.1)) :
    ∃ a ∈ pres, n = a ++ sanitize gp.gateway.name := by
  obtain ⟨ps, hsub, hnames⟩ := names_setDefs gp
  rw [hnames, List.mem_map] at h
  obtain ⟨a, ha, rfl⟩ := h
  exact ⟨a, hsub.subset ha, rfl⟩

/-- A gateway puts nothing into the sets of another replaced name. -/
lemma elemsOf_setDefs_of_ne {gp : GatewayPlan} {b name : String} (hb : b ∈ pres)
    (hne : sanitize gp.gateway.name ≠ sanitize name) :
    elemsOf (setDefs gp) (b ++ sanitize name) = [] := by
  refine elemsOf_eq_nil fun hmem => hne ?_
  obtain ⟨b', hb', h⟩ := mem_names_setDefs hmem
  exact (pre_inj hb hb' h).2.symm

lemma nodup_names_setDefs (gp : GatewayPlan) : ((setDefs gp).map (·.1)).Nodup := by
  obtain ⟨ps, hsub, hnames⟩ := names_setDefs gp
  have hnodup : ps.Nodup := hsub.nodup (by decide)
  rw [hnames]
  exact hnodup.map_on fun a ha b hb h => (pre_inj (hsub.subset ha) (hsub.subset hb) h).1

lemma viaName_mem (gp : GatewayPlan) : viaName gp.gateway ∈ (setDefs gp).map (·.1) := by
  simp [setDefs]

/-- The names of the sets of all gateways are distinct exactly when the replaced names are. -/
lemma nodup_names_iff (gps : List GatewayPlan) :
    ((gps.flatMap setDefs).map (·.1)).Nodup ↔
      (gps.map fun gp => sanitize gp.gateway.name).Nodup := by
  rw [List.map_flatMap, List.nodup_flatMap, and_iff_right fun gp _ => nodup_names_setDefs gp,
    List.Nodup, List.pairwise_map]
  refine List.Pairwise.iff fun {gp gp'} => ⟨fun hdisj heq => ?_, fun hne n hn hn' => ?_⟩
  · refine hdisj (viaName_mem gp) ?_
    have hvia : viaName gp.gateway = viaName gp'.gateway := by rw [viaName, viaName, heq]
    exact hvia ▸ viaName_mem gp'
  · obtain ⟨a, ha, rfl⟩ := mem_names_setDefs hn
    obtain ⟨b, hb, h⟩ := mem_names_setDefs hn'
    exact hne (pre_inj ha hb h).2

/-! ### The sets of a script -/

/-- The names of the sets a script declares. -/
def declaredSets (script : String) : List String := setNames ((readScript script).getD [])

/-- Every gateway has its sets for itself: no two sets are declared under one name, and wherever
the script is loaded, the rules of a gateway name sets that hold exactly the members of the
gateway and exactly its networks to exclude. -/
structure OwnSets (p : Plan) (script : String) : Prop where
  names : (declaredSets script).Nodup
  own : ∀ rs rs', loadText script rs = some rs' → ∃ t, rs'["inet degc"]? = some t ∧
    ∀ gp ∈ p.gateways,
      (∃ c ∈ t.chains, c.hook = "prerouting" ∧ markRule gp ∈ c.rules) ∧
      elemsAt t.sets (viaName gp.gateway) = (members4 gp).map .single ∧
      elemsAt t.sets (localName gp.gateway) = (locals4 gp.gateway).map (·.toCidr) ∧
      (members6 gp ≠ [] →
        (∃ c ∈ t.chains, c.hook = "forward" ∧ ∀ r ∈ killRule6 gp, r ∈ c.rules) ∧
        elemsAt t.sets (via6Name gp.gateway) = (members6 gp).map .single ∧
        elemsAt t.sets (local6Name gp.gateway) = (locals6 gp.gateway).map (·.toCidr))

/-- What a desired state is compiled from. -/
lemma compile_eq_ok {plan : Plan} {d : Desired} (h : Enforce.compile plan = .ok d) :
    Gateways.RoutesApart (plan.gateways.map (·.gateway)) ∧ buildScript plan = .ok d.nft ∧
      Route.build plan = .ok d.ip ∧ plan.gateways.mapM Enforce.guardOf = .ok d.guards := by
  simp only [Enforce.compile, bind_eq_ok, pure_eq_ok, checkUniqueRouting_eq_ok] at h
  obtain ⟨_, hapart, guards, hguards, script, hscript, ip, hip, rfl⟩ := h
  exact ⟨hapart, hscript, hip, hguards⟩

lemma markValue_of_apart {gps : List GatewayPlan}
    (h : Gateways.RoutesApart (gps.map (·.gateway))) :
    ∀ gp ∈ gps, gp.gateway.markValue = .ok gp.gateway.effectiveMark :=
  fun _ hgp => h.marks_ok _ (List.mem_map_of_mem hgp)

/-- The kind of the sets of a name: the type, and whether it is of intervals. -/
def kindOf (name : String) : String × Bool :=
  if "degc_via_".toList.isPrefixOf name.toList then ("ipv4_addr", false)
  else if "degc_local_".toList.isPrefixOf name.toList then ("ipv4_addr", true)
  else if "degc_via6_".toList.isPrefixOf name.toList then ("ipv6_addr", false)
  else ("ipv6_addr", true)

lemma mem_setDefs {gp : GatewayPlan} {d : String × ElemSet} (h : d ∈ setDefs gp) :
    d = (viaName gp.gateway, addrSet .ip (members4 gp)) ∨
      d = (localName gp.gateway, netSet .ip (locals4 gp.gateway)) ∨
      d = (via6Name gp.gateway, addrSet .ip6 (members6 gp)) ∨
      d = (local6Name gp.gateway, netSet .ip6 (locals6 gp.gateway)) := by
  have hexcl : ∀ {name : String} {f : Family} {ns : List IpNetwork},
      d ∈ exclDefs name f ns → d = (name, netSet f ns) := by
    intro name f ns hd
    rw [exclDefs] at hd
    split at hd
    · simp at hd
    · exact List.mem_singleton.1 hd
  simp only [setDefs, List.mem_append, List.mem_singleton] at h
  rcases h with (h | h) | h
  · exact Or.inl h
  · exact Or.inr (Or.inl (hexcl h))
  · split at h
    · simp at h
    · rcases List.mem_append.1 h with h | h
      · exact Or.inr (Or.inr (Or.inl (List.mem_singleton.1 h)))
      · exact Or.inr (Or.inr (Or.inr (hexcl h)))

/-- The name of a set tells of which kind it is. -/
lemma kindOf_setDefs (gp : GatewayPlan) :
    ∀ d ∈ setDefs gp, (d.2.typ, d.2.interval) = kindOf d.1 := by
  intro d hd
  rcases mem_setDefs hd with rfl | rfl | rfl | rfl
  · simp [kindOf, viaName, addrSet, Family.typ]
  · simp [kindOf, localName, netSet, Family.typ]
  · simp [kindOf, via6Name, addrSet, Family.typ]
  · simp [kindOf, local6Name, netSet, Family.typ]

omit [Libraries] in
lemma mem_exclDefs (name : String) (f : Family) (ns : List IpNetwork) (h : ns.isEmpty = false) :
    (name, netSet f ns) ∈ exclDefs name f ns := by
  simp [exclDefs, h]

/-- The rules of the second chain, and those of the third one for what is marked, name no sets. -/
lemma hasSets_snatRule (gp : GatewayPlan) (t : Table) :
    ∀ r ∈ snatRule gp ++ killRule gp, t.hasSets r = true := by
  rw [List.forall_mem_append, snatRule, killRule]
  cases gp.egress with
  | interface iface => cases gp.gateway.snatEnabled <;> simp [Table.hasSets]
  | nextHop ip => cases gp.gateway.snatEnabled <;> simp [Table.hasSets]
  | unavailable why => simp [Table.hasSets]

/-- The rules of a gateway name sets that it defines. -/
lemma hasSets_rules {gp : GatewayPlan} {t : Table}
    (h : ∀ d ∈ setDefs gp, ∃ s : ElemSet, t.sets[d.1]? = some s ∧ s.typ = d.2.typ) :
    ∀ r ∈ markRule gp :: (snatRule gp ++ (killRule6 gp ++ killRule gp)), t.hasSets r = true := by
  have hset : ∀ (f : Family) (name : String) (s : ElemSet), s.typ = f.typ → (name, s) ∈ setDefs gp →
      (t.sets[name]?).any (·.typ == f.typ) = true := by
    intro f name s hf hs
    obtain ⟨s', hs', htyp⟩ := h _ hs
    rw [hs']
    simp [show s'.typ = f.typ from htyp.trans hf]
  -- a set to exclude is defined exactly when the rule names it
  have hexcl : ∀ (name : String) (f : Family) (ns : List IpNetwork),
      (∀ d ∈ exclDefs name f ns, d ∈ setDefs gp) →
      ∀ e ∈ exclMatch name f ns, t.hasSets [e] = true := by
    intro name f ns hsub e he
    rw [exclMatch] at he
    split at he
    · simp at he
    · next hne =>
        obtain rfl := List.mem_singleton.1 he
        simpa [Table.hasSets] using
          hset f name _ rfl (hsub _ (mem_exclDefs name f ns (by simpa using hne)))
  have hrule : ∀ (es : List Expr), (∀ e ∈ es, t.hasSets [e] = true) → t.hasSets es = true := by
    intro es hes
    simpa [Table.hasSets] using hes
  have hnosets := List.forall_mem_append.1 (hasSets_snatRule gp t)
  simp only [List.forall_mem_cons, List.forall_mem_append]
  refine ⟨?_, hnosets.1, ?_, hnosets.2⟩
  · refine hrule _ ?_
    simp only [markRule, List.forall_mem_cons, List.forall_mem_append]
    refine ⟨?_, hexcl _ _ _ fun d hd => ?_, by simp [Table.hasSets], by simp⟩
    · simpa [Table.hasSets] using hset .ip _ (addrSet .ip (members4 gp)) rfl (by simp [setDefs])
    · simp [setDefs, hd]
  · intro r hr
    rw [killRule6] at hr
    split at hr
    · simp at hr
    · next h6 =>
        obtain rfl := List.mem_singleton.1 hr
        refine hrule _ ?_
        simp only [List.forall_mem_cons, List.forall_mem_append]
        refine ⟨?_, hexcl _ _ _ fun d hd => ?_, by simp [Table.hasSets], by simp⟩
        · simpa [Table.hasSets] using
            hset .ip6 _ (addrSet .ip6 (members6 gp)) rfl (by simp [setDefs, h6])
        · simp [setDefs, h6, hd]

/-- The script of a compiled plan names only sets that it defines and defines each set as one
kind, so that it can be loaded. -/
theorem exists_loadText {plan : Plan} {script : String}
    (hplan : ∀ gp ∈ plan.gateways, PlainEgress gp.egress) (h : buildScript plan = .ok script)
    (rs : Ruleset) : ∃ rs', loadText script rs = some rs' := by
  have hkinds : ∀ d ∈ plan.gateways.flatMap setDefs, (d.2.typ, d.2.interval) = kindOf d.1 := by
    intro d hd
    obtain ⟨gp, -, hd⟩ := List.mem_flatMap.1 hd
    exact kindOf_setDefs gp d hd
  obtain ⟨t, ht, -, hadded⟩ := exists_addSets (t := {}) (by simp) hkinds
  have hrules : ∀ gp ∈ plan.gateways,
      ∀ r ∈ markRule gp :: (snatRule gp ++ (killRule6 gp ++ killRule gp)),
      t.hasSets r = true := fun gp hgp =>
    hasSets_rules fun d hd => hadded d (List.mem_flatMap.2 ⟨gp, hgp, hd⟩)
  rw [loadText, readScript_buildScript hplan h, Option.bind_some]
  refine exists_load_redefine ht (fun c hc => List.all_eq_true.2 fun r hr => ?_) rs
  have hmem : ∃ gp ∈ plan.gateways,
      r ∈ markRule gp :: (snatRule gp ++ (killRule6 gp ++ killRule gp)) := by
    simp only [chains, List.mem_append, List.mem_singleton] at hc
    rcases hc with (rfl | hc) | rfl
    · obtain ⟨gp, hgp, rfl⟩ := List.mem_map.1 hr
      exact ⟨gp, hgp, List.mem_cons_self⟩
    · split at hc
      · simp at hc
      · obtain rfl := List.mem_singleton.1 hc
        obtain ⟨gp, hgp, hr⟩ := List.mem_flatMap.1 hr
        exact ⟨gp, hgp, List.mem_cons_of_mem _ (List.mem_append_left _ hr)⟩
    · obtain ⟨gp, hgp, hr⟩ := List.mem_flatMap.1 hr
      exact ⟨gp, hgp, List.mem_cons_of_mem _ (List.mem_append_right _ hr)⟩
  obtain ⟨gp, hgp, hr⟩ := hmem
  exact hrules gp hgp r hr

/-- What is loaded from the script of a plan. -/
lemma table_of_loadText {plan : Plan} {script : String}
    (hplan : ∀ gp ∈ plan.gateways, PlainEgress gp.egress) (h : buildScript plan = .ok script)
    {rs rs' : Ruleset} (hload : loadText script rs = some rs') :
    ∃ sets, rs'["inet degc"]? = some { sets := sets, chains := chains plan } ∧
      ∀ n, elemsAt sets n = elemsOf (plan.gateways.flatMap setDefs) n := by
  rw [loadText, readScript_buildScript hplan h, Option.bind_some] at hload
  obtain ⟨⟨t, ht, htable⟩, -⟩ := load_redefine hload
  refine ⟨t.sets, htable, fun n => ?_⟩
  simpa [elemsAt] using (addSets_spec ht).2 n

/-- The script leaves the same table wherever it is loaded, and the other tables as they are. -/
lemma loadText_congr {plan : Plan} {script : String}
    (hplan : ∀ gp ∈ plan.gateways, PlainEgress gp.egress) (h : buildScript plan = .ok script)
    {rs₁ rs₁' rs₂ rs₂' : Ruleset} (h₁ : loadText script rs₁ = some rs₁')
    (h₂ : loadText script rs₂ = some rs₂') :
    rs₁'["inet degc"]? = rs₂'["inet degc"]? ∧ ∀ k, k ≠ "inet degc" → rs₁'[k]? = rs₁[k]? := by
  rw [loadText, readScript_buildScript hplan h, Option.bind_some] at h₁ h₂
  obtain ⟨⟨t, ht, htable⟩, hother⟩ := load_redefine h₁
  obtain ⟨⟨t', ht', htable'⟩, -⟩ := load_redefine h₂
  obtain rfl : t = t' := Option.some.inj (ht.symm.trans ht')
  exact ⟨htable.trans htable'.symm, hother⟩

/-- The elements of the sets of one gateway. -/
lemma elemsOf_setDefs (gp : GatewayPlan) :
    elemsOf (setDefs gp) (viaName gp.gateway) = (members4 gp).map .single ∧
    elemsOf (setDefs gp) (localName gp.gateway) = (locals4 gp.gateway).map (·.toCidr) ∧
    elemsOf (setDefs gp) (via6Name gp.gateway) = (members6 gp).map .single ∧
    (members6 gp ≠ [] →
      elemsOf (setDefs gp) (local6Name gp.gateway) = (locals6 gp.gateway).map (·.toCidr)) := by
  simp only [viaName, localName, via6Name, local6Name, setDefs]
  cases members6 gp <;> cases locals4 gp.gateway <;> cases locals6 gp.gateway <;>
    simp [exclDefs, elemsOf, addrSet, netSet]

/-- No other gateway adds to the sets of a gateway whose replaced name is its own. -/
lemma elemsOf_own {before after : List GatewayPlan} {gp : GatewayPlan}
    (hown : ∀ gp' ∈ before ++ after, sanitize gp'.gateway.name ≠ sanitize gp.gateway.name)
    {a : String} (ha : a ∈ pres) :
    elemsOf ((before ++ gp :: after).flatMap setDefs) (a ++ sanitize gp.gateway.name) =
      elemsOf (setDefs gp) (a ++ sanitize gp.gateway.name) := by
  have hnone : ∀ gps : List GatewayPlan, (∀ gp' ∈ gps, gp' ∈ before ++ after) →
      elemsOf (gps.flatMap setDefs) (a ++ sanitize gp.gateway.name) = [] := by
    intro gps hsub
    rw [elemsOf_flatMap, List.flatMap_eq_nil_iff]
    exact fun gp' hgp' => elemsOf_setDefs_of_ne ha (hown gp' (hsub gp' hgp'))
  rw [List.flatMap_append, List.flatMap_cons, elemsOf_append, elemsOf_append,
    hnone before fun _ h => List.mem_append_left _ h,
    hnone after fun _ h => List.mem_append_right _ h, List.nil_append, List.append_nil]

/-- The names that the script of a plan declares. -/
lemma declaredSets_buildScript {plan : Plan} {script : String}
    (hplan : ∀ gp ∈ plan.gateways, PlainEgress gp.egress) (h : buildScript plan = .ok script) :
    declaredSets script = (plan.gateways.flatMap setDefs).map (·.1) := by
  rw [declaredSets, readScript_buildScript hplan h, Option.getD_some, setNames_redefine]

/-- Every gateway of a compiled plan has its sets for itself exactly when the names of the
gateways, with the characters that a set identifier cannot hold replaced, are distinct. -/
theorem ownSets_iff {pfx : String} {gws : Gateways} {targets : List Target} {d : Desired}
    (hvalid : gws.validate = .ok ())
    (hcompile : Enforce.compile (Plan.compile targets pfx gws) = .ok d) :
    OwnSets (Plan.compile targets pfx gws) d.nft ↔
      ((Plan.compile targets pfx gws).gateways.map fun gp => sanitize gp.gateway.name).Nodup := by
  set plan := Plan.compile targets pfx gws
  have hplan : ∀ gp ∈ plan.gateways, PlainEgress gp.egress := plainEgress_compile hvalid
  obtain ⟨-, hscript, -, -⟩ := compile_eq_ok hcompile
  have hnames := declaredSets_buildScript hplan hscript
  constructor
  · rintro ⟨hnodup, -⟩
    rw [hnames] at hnodup
    exact (nodup_names_iff _).1 hnodup
  · refine fun hnodup => ⟨by rw [hnames]; exact (nodup_names_iff _).2 hnodup, ?_⟩
    intro rs rs' hload
    obtain ⟨sets, htable, helems⟩ := table_of_loadText hplan hscript hload
    refine ⟨_, htable, fun gp hgp => ?_⟩
    obtain ⟨before, after, hsplit⟩ := List.append_of_mem hgp
    have hown : ∀ gp' ∈ before ++ after, sanitize gp'.gateway.name ≠ sanitize gp.gateway.name := by
      rw [hsplit, List.map_append, List.map_cons, List.nodup_middle, List.nodup_cons,
        ← List.map_append] at hnodup
      exact fun gp' hgp' h => hnodup.1 (h ▸ List.mem_map_of_mem hgp')
    have hsets : ∀ a ∈ pres, elemsAt sets (a ++ sanitize gp.gateway.name) =
        elemsOf (setDefs gp) (a ++ sanitize gp.gateway.name) := by
      intro a ha
      rw [helems, hsplit, elemsOf_own hown ha]
    obtain ⟨hvia, hlocal, hvia6, hlocal6⟩ := elemsOf_setDefs gp
    refine ⟨⟨_, List.mem_append_left _ (List.mem_append_left _ (List.mem_singleton_self _)), rfl,
      List.mem_map_of_mem hgp⟩, (hsets _ (by decide)).trans hvia,
      (hsets _ (by decide)).trans hlocal, fun h6 => ⟨⟨_, List.mem_append_right _
        (List.mem_singleton_self _), rfl, fun r hr => ?_⟩, (hsets _ (by decide)).trans hvia6,
        (hsets _ (by decide)).trans (hlocal6 h6)⟩⟩
    exact List.mem_flatMap.2 ⟨gp, hgp, List.mem_append_left _ hr⟩

/-- Two gateways, each with a container that names it. -/
def namedGateways (a b : String) : Gateways :=
  [{ name := a, egress := { interface := some "wg0" } },
    { name := b, egress := { interface := some "wg1" } }]

/-- A container for each of two gateways. -/
def namedTargets (a b : String) : List Target :=
  [.ofLists "app" [("degc.enable", "true"), ("degc.via", a)] [("services", [.v4 0xac120007])],
    .ofLists "db" [("degc.enable", "true"), ("degc.via", b)] [("services", [.v4 0xac120008])]]

/-- The plan of the two gateways. -/
@[reducible] def namedPlan (a b : String) : Plan :=
  @Plan.compile .plain (namedTargets a b) "degc" (namedGateways a b)

omit [Libraries] in
/-- Two gateways whose replaced names differ have their sets for themselves. -/
theorem ownSets_vpn_work :
    ∃ d, @Enforce.compile .plain (namedPlan "vpn" "work") = .ok d ∧
      @OwnSets .plain (namedPlan "vpn" "work") d.nft := by
  have hok : (@Enforce.compile .plain (namedPlan "vpn" "work")).isOk = true := by decide
  cases h : @Enforce.compile .plain (namedPlan "vpn" "work") with
  | error e => exact absurd (h ▸ hok) (by simp [Except.isOk, Except.toBool])
  | ok d =>
      exact ⟨d, rfl, (@ownSets_iff .plain "degc" (namedGateways "vpn" "work")
        (namedTargets "vpn" "work") d (by decide) h).2 (by decide)⟩

omit [Libraries] in
/-- Two gateways whose names differ in a character that is replaced share their sets. -/
theorem shared_sets :
    @Gateways.validate .plain (namedGateways "a-b" "a_b") = .ok () ∧
      ∃ d, @Enforce.compile .plain (namedPlan "a-b" "a_b") = .ok d ∧
        ¬ @OwnSets .plain (namedPlan "a-b" "a_b") d.nft := by
  refine ⟨by decide, ?_⟩
  have hok : (@Enforce.compile .plain (namedPlan "a-b" "a_b")).isOk = true := by decide
  cases h : @Enforce.compile .plain (namedPlan "a-b" "a_b") with
  | error e => exact absurd (h ▸ hok) (by simp [Except.isOk, Except.toBool])
  | ok d =>
      refine ⟨d, rfl, fun hown => ?_⟩
      have hnodup := @OwnSets.names .plain _ _ hown
      rw [@declaredSets_buildScript .plain _ _
        (@plainEgress_compile .plain "degc" (namedGateways "a-b" "a_b") _ (by decide))
        (@compile_eq_ok .plain _ _ h).2.1] at hnodup
      exact absurd hnodup (by decide)

end Degc.Nft
