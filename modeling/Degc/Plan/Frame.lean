import Degc.Plan.Dropped
import Degc.Plan.Order
import Degc.Plan.Partition

/-!
# What a plan depends on

A container matters when it declares a gateway, opts in, is matched by a selector, or is
meant by the name of an egress container.  Of a container that matters, its name, its
addresses and a few labels are read: those of the prefix, the Compose service, and those
that a selector names.

The main result is `compile_seen`: nothing else has a part in the plan.
-/

namespace Degc

open Net
open Std (TreeMap TreeSet)

namespace Plan

/-! ### What is read -/

/-- The keys of the labels that are read because of a prefix. -/
def prefixKeys (pfx : String) : List String :=
  [s!"{pfx}.enable", s!"{pfx}.via", s!"{pfx}.gateway"] ++ knobFields.map (s!"{pfx}.gateway.{·}")

/-- The keys of the labels that are read. -/
inductive ReadsLabel (pfx : String) (merged : List Gateway) : String → Prop
  | key {k : String} (hk : k ∈ prefixKeys pfx) : ReadsLabel pfx merged k
  | service : ReadsLabel pfx merged "com.docker.compose.service"
  | selector {g : Gateway} {sel : Selector} {k : String} (hg : g ∈ merged) (hsel : sel ∈ g.members)
      (hk : k ∈ sel) : ReadsLabel pfx merged k

/-- Two containers look the same. -/
structure SeenAs (pfx : String) (merged : List Gateway) (t t' : Target) : Prop where
  name : t.name = t'.name
  addrs : t.addrs = t'.addrs
  labels : ∀ k, ReadsLabel pfx merged k → t.labels[k]? = t'.labels[k]?

/-- Whether a container matters. -/
def matters (pfx : String) (merged : List Gateway) (t : Target) : Bool :=
  (gatewayName pfx t.labels).isSome || (optIn pfx t.labels).isSome ||
    !(matched merged t.labels).isEmpty ||
    merged.any fun g => g.egress.container.any (isMatch · t)

section Seen

variable {pfx : String} {merged : List Gateway} {t t' : Target}

lemma SeenAs.key (h : SeenAs pfx merged t t') {k : String} (hk : k ∈ prefixKeys pfx) :
    t.labels[k]? = t'.labels[k]? := h.labels k (.key hk)

lemma SeenAs.isMatch (h : SeenAs pfx merged t t') (sel : String) :
    isMatch sel t = isMatch sel t' := by
  rw [Plan.isMatch, Plan.isMatch, h.name, h.labels _ .service]

lemma SeenAs.gatewayName (h : SeenAs pfx merged t t') :
    gatewayName pfx t.labels = gatewayName pfx t'.labels := by
  rw [Degc.gatewayName, Degc.gatewayName, h.key (by simp [prefixKeys])]

lemma SeenAs.optIn (h : SeenAs pfx merged t t') : optIn pfx t.labels = optIn pfx t'.labels := by
  rw [Degc.optIn, Degc.optIn, h.key (k := s!"{pfx}.enable") (by simp [prefixKeys]),
    h.key (k := s!"{pfx}.via") (by simp [prefixKeys])]

lemma SeenAs.matched (h : SeenAs pfx merged t t') :
    matched merged t.labels = matched merged t'.labels := by
  have hmatches : ∀ g ∈ merged, ∀ sel ∈ g.members,
      selectorMatches sel t.labels = selectorMatches sel t'.labels := by
    intro g hg sel hsel
    have hall : ∀ kv ∈ sel.toList, t.labels[kv.1]? = t'.labels[kv.1]? := by
      rintro ⟨k, v⟩ hkv
      refine h.labels k (.selector hg hsel ?_)
      exact (TreeMap.mem_iff_isSome_getElem?).2
        (by rw [TreeMap.mem_toList_iff_getElem?_eq_some.1 hkv]; rfl)
    rw [selectorMatches, selectorMatches]
    congr 1
    refine Bool.eq_iff_iff.2 ?_
    simp only [List.all_eq_true]
    exact forall₂_congr fun kv hkv => by rw [hall kv hkv]
  rw [Plan.matched, Plan.matched]
  congr 1
  refine List.filter_congr fun g hg => Bool.eq_iff_iff.2 ?_
  simp only [List.any_eq_true]
  exact exists_congr fun sel => and_congr_right fun hsel => by rw [hmatches g hg sel hsel]

lemma SeenAs.assign (h : SeenAs pfx merged t t') (a : Assignment) :
    assign pfx merged a t = assign pfx merged a t' := by
  simp only [Plan.assign, h.gatewayName, h.optIn, h.matched, addMember, h.addrs, h.name]

variable [Libraries]

lemma SeenAs.discoveredGateway (h : SeenAs pfx merged t t') (name sel : String) :
    discoveredGateway pfx name sel t.labels = discoveredGateway pfx name sel t'.labels := by
  have hknob : ∀ field ∈ knobFields, knob pfx t.labels field = knob pfx t'.labels field := by
    intro field hfield
    have hkey : s!"{pfx}.gateway.{field}" ∈ prefixKeys pfx :=
      List.mem_append_right _ (List.mem_map_of_mem hfield)
    rw [knob, knob, h.key hkey]
  simp only [Degc.discoveredGateway, hknob "snat" (by decide), hknob "mark" (by decide),
    hknob "table" (by decide), hknob "localSubnets" (by decide), hknob "default" (by decide),
    hknob "members" (by decide)]

lemma SeenAs.discover (h : SeenAs pfx merged t t') (d : Discovery) :
    discover pfx d t = discover pfx d t' := by
  have hsel : egressContainer t = egressContainer t' := by
    rw [egressContainer, egressContainer, h.labels _ .service, h.name]
  simp only [Plan.discover, h.gatewayName, hsel, h.discoveredGateway, h.name]

end Seen

/-! ### Folding over the containers -/

section Fold

variable {α β : Type} {f : β → α → β}

/-- Elements that change nothing may be left out. -/
lemma foldl_filter_of {p : α → Bool} (h : ∀ b a, p a = false → f b a = b) (as : List α) (b : β) :
    (as.filter p).foldl f b = as.foldl f b := by
  induction as generalizing b with
  | nil => rfl
  | cons a as ih =>
      rw [List.foldl_cons, List.filter_cons]
      cases hp : p a with
      | true => rw [if_pos rfl, List.foldl_cons, ih]
      | false => rw [if_neg (by simp), h b a hp, ih]

/-- Lists whose elements act in the same way have the same effect. -/
lemma foldl_congr_of_forall₂ {R : α → α → Prop} (h : ∀ b a a', R a a' → f b a = f b a')
    {as as' : List α} (hR : List.Forall₂ R as as') (b : β) : as.foldl f b = as'.foldl f b := by
  induction hR generalizing b with
  | nil => rfl
  | cons ha _ ih => rw [List.foldl_cons, List.foldl_cons, h b _ _ ha, ih]

end Fold

section Compile

variable {pfx : String} {gws : Gateways} {merged : List Gateway} {targets targets' : List Target}

lemma assignment_filter_matters (targets : List Target) :
    assignment pfx merged (targets.filter (matters pfx merged)) =
      assignment pfx merged targets := by
  refine foldl_filter_of (fun a t ht => ?_) _ _
  simp only [matters, Bool.or_eq_false_iff, Bool.not_eq_false', List.isEmpty_iff] at ht
  obtain ⟨⟨⟨hname, hopt⟩, hmatched⟩, -⟩ := ht
  have hopt : optIn pfx t.labels = none := by simpa using hopt
  rw [assign, hname, hopt, hmatched]
  rfl

/-- The first container that is meant by the name of an egress container matters. -/
lemma gatewayContainerIp_filter_matters (pfx : String) (targets : List Target) {g : Gateway}
    (hg : g ∈ merged) {sel : String}
    (hsel : g.egress.container = some sel) :
    gatewayContainerIp sel (targets.filter (matters pfx merged)) =
      gatewayContainerIp sel targets := by
  have hfind : (targets.filter (matters pfx merged)).find? (isMatch sel) =
      targets.find? (isMatch sel) := by
    rw [List.find?_filter]
    congr 1
    ext t
    cases hm : isMatch sel t with
    | false => simp
    | true =>
        have hmatters : matters pfx merged t = true := by
          have hany : merged.any (fun g => g.egress.container.any (isMatch · t)) = true :=
            List.any_eq_true.2 ⟨g, hg, by simp [hsel, hm]⟩
          simp [matters, hany]
        simp [hmatters]
  rw [gatewayContainerIp, gatewayContainerIp, hfind]

lemma gatewayContainerIp_of_forall₂ {ts ts' : List Target}
    (h : List.Forall₂ (SeenAs pfx merged) ts ts') (sel : String) :
    gatewayContainerIp sel ts = gatewayContainerIp sel ts' := by
  induction h with
  | nil => rfl
  | @cons t t' ts ts' ht _ ih =>
      rw [gatewayContainerIp, gatewayContainerIp] at ih ⊢
      rw [List.find?_cons, List.find?_cons, ← ht.isMatch sel]
      cases isMatch sel t with
      | true => simp only [Option.bind_some, ht.addrs]
      | false => exact ih

variable [Libraries]

lemma gatewayPlans_congr {ms : TreeMap String (TreeSet IpAddr)}
    {ns : TreeMap String (TreeSet String)}
    {gs : List Gateway} (h : ∀ g ∈ gs, resolveEgress g targets = resolveEgress g targets') :
    gatewayPlans targets ms ns gs = gatewayPlans targets' ms ns gs := by
  induction gs generalizing ms ns with
  | nil => rfl
  | cons g gs ih =>
      rw [List.forall_mem_cons] at h
      rw [gatewayPlans, gatewayPlans, h.1, ih h.2]

lemma merge_filter_matters (merged : List Gateway) (targets : List Target) :
    merge pfx gws (targets.filter (matters pfx merged)) = merge pfx gws targets := by
  refine foldl_filter_of (fun d t ht => ?_) _ _
  simp only [matters, Bool.or_eq_false_iff] at ht
  have hname : gatewayName pfx t.labels = none := by simpa using ht.1.1.1
  rw [discover, hname]

/-- The plans of containers that look the same, apart from those that do not matter, are the
same. -/
theorem compile_seen
    (h : List.Forall₂ (SeenAs pfx (merge pfx gws targets).1)
      (targets.filter (matters pfx (merge pfx gws targets).1))
      (targets'.filter (matters pfx (merge pfx gws targets).1))) :
    compile targets' pfx gws = compile targets pfx gws := by
  have hmerge : merge pfx gws targets' = merge pfx gws targets := by
    rw [← merge_filter_matters _ targets', ← merge_filter_matters _ targets]
    exact (foldl_congr_of_forall₂ (fun d _ _ ht => ht.discover d) h _).symm
  have hassign : assignment pfx (merge pfx gws targets).1 targets' =
      assignment pfx (merge pfx gws targets).1 targets := by
    rw [← assignment_filter_matters targets', ← assignment_filter_matters targets]
    exact (foldl_congr_of_forall₂ (fun a _ _ ht => ht.assign a) h _).symm
  have hegress : ∀ g ∈ (merge pfx gws targets).1,
      resolveEgress g targets' = resolveEgress g targets := by
    intro g hg
    refine resolveEgress_congr rfl fun sel hsel => ?_
    rw [← gatewayContainerIp_filter_matters pfx targets' hg hsel,
      ← gatewayContainerIp_filter_matters pfx targets hg hsel]
    exact (gatewayContainerIp_of_forall₂ h sel).symm
  rw [compile, compile, hmerge, hassign, gatewayPlans_congr hegress]

end Compile

/-- The containers of the sample, with another one that does not opt in, and a label that is not
read. -/
def seenTargets : List Target :=
  [.ofLists "gluetun" [("degc.gateway", "vpn")] [("services", [.v4 0xac120002])],
    .ofLists "cache" [("tier", "data")] [("services", [.v4 0xac120009])],
    .ofLists "app" [("degc.enable", "true"), ("tier", "web")] [("services", [.v4 0xac120007])]]

/-- Their plan is the one of the sample. -/
theorem compile_seen_sample :
    @compile .plain seenTargets "degc" [] = @compile .plain sampleTargets "degc" [] := by
  have hread : ∀ k, ReadsLabel "degc" (@merge .plain "degc" [] sampleTargets).1 k → k ≠ "tier" := by
    rintro k (hk | _ | ⟨hg, hsel, -⟩)
    · rintro rfl
      exact absurd hk (by decide)
    · decide
    · obtain ⟨g, hmerged⟩ : ∃ g : Gateway, (@merge .plain "degc" [] sampleTargets).1 = [g] ∧
        g.members = [] := ⟨_, rfl, rfl⟩
      rw [hmerged.1, List.mem_singleton] at hg
      rw [hg, hmerged.2] at hsel
      cases hsel
  refine @compile_seen _ _ _ _ .plain (.cons ⟨rfl, rfl, fun _ _ => rfl⟩ (.cons ⟨rfl, rfl, ?_⟩ .nil))
  intro k hk
  have htier : ("tier" : String) ≠ k := (hread k hk).symm
  simp [Target.ofLists, TreeMap.ofList_cons, TreeMap.getElem?_insert, htier]

end Plan

end Degc
