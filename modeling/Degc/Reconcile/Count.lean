import Degc.Enforce.Reachable
import Degc.Reconcile

/-!
# The number of members

The number of members that is reported of a plan is the number of addresses in the
sets of its gateways, while the names in brackets behind it are those of containers.

The main result `counted_iff` says when both are the same: when the containers
without an address of their own make up for the addresses that others have beyond
the first.
-/

namespace Degc.Reconcile

open Net Plan Text
open Std (TreeSet)

/-! ### Counting -/

lemma size_eq_card {α : Type} [Ord α] [Std.TransOrd α] [Std.LawfulEqOrd α] [DecidableEq α]
    {s : TreeSet α} {f : Finset α} (h : ∀ a, a ∈ s ↔ a ∈ f) : s.size = f.card := by
  have hnodup : s.toList.Nodup := s.distinct_toList.imp fun hne he =>
    hne (Std.LawfulEqOrd.compare_eq_iff_eq.2 he)
  have hset : s.toList.toFinset = f := by
    ext a
    rw [List.mem_toFinset, TreeSet.mem_toList, h]
  rw [← TreeSet.length_toList, ← List.toFinset_card_of_nodup hnodup, hset]

/-- The entries of a list with one of some values are counted value by value. -/
lemma sum_length_filter {α β : Type} [DecidableEq β] (f : α → β) {ks : List β} (h : ks.Nodup)
    (xs : List α) :
    (ks.map fun k => (xs.filter (f · = k)).length).sum = (xs.filter (f · ∈ ks)).length := by
  induction ks with
  | nil => simp
  | cons k ks ih =>
      rw [List.nodup_cons] at h
      rw [List.map_cons, List.sum_cons, ih h.2]
      clear ih
      induction xs with
      | nil => simp
      | cons x xs ih =>
          by_cases hk : f x = k
          · have hout : f x ∉ ks := fun hin => h.1 (hk ▸ hin)
            simp [hk, h.1] at ih ⊢
            omega
          · by_cases hks : f x ∈ ks <;> simp [hk, hks] at ih ⊢ <;> omega

/-- What the entries of a list have beyond one each makes up for what they lack. -/
lemma count_zero_add_sum (ns : List ℕ) :
    ns.count 0 + ns.sum = (ns.map (· - 1)).sum + ns.length := by
  induction ns with
  | nil => rfl
  | cons n ns ih =>
      cases n <;> simp <;> omega

/-! ### The addresses of the containers -/

/-- How many addresses each container has that none after it has. -/
def ownAddrs : List Target → List ℕ
  | [] => []
  | t :: ts => (t.addrs.toFinset \ (ts.flatMap Target.addrs).toFinset).card :: ownAddrs ts

/-- There are as many containers without an address of their own as there are addresses that
the others have beyond one each. -/
def Balanced (ts : List Target) : Prop := (ownAddrs ts).count 0 = ((ownAddrs ts).map (· - 1)).sum

instance (ts : List Target) : Decidable (Balanced ts) := inferInstanceAs (Decidable (_ = _))

lemma length_ownAddrs (ts : List Target) : (ownAddrs ts).length = ts.length := by
  induction ts with
  | nil => rfl
  | cons t ts ih => rw [ownAddrs, List.length_cons, List.length_cons, ih]

lemma sum_ownAddrs (ts : List Target) :
    (ownAddrs ts).sum = (ts.flatMap Target.addrs).toFinset.card := by
  induction ts with
  | nil => rfl
  | cons t ts ih =>
      rw [ownAddrs, List.sum_cons, ih, Finset.card_sdiff_add_card, List.flatMap_cons,
        List.toFinset_append]

/-- The containers have as many addresses as there are containers exactly when they are
balanced. -/
lemma card_addrs_eq_iff (ts : List Target) :
    (ts.flatMap Target.addrs).toFinset.card = ts.length ↔ Balanced ts := by
  have hcount := count_zero_add_sum (ownAddrs ts)
  rw [sum_ownAddrs, length_ownAddrs] at hcount
  rw [Balanced]
  omega

/-! ### The containers of a gateway -/

variable [Libraries] {pfx : String} {gws : Gateways} {targets : List Target}

/-- The containers that the gateway of a name routes. -/
def containersOf (pfx : String) (gws : Gateways) (targets : List Target) (name : String) :
    List Target :=
  targets.filter (outcome pfx (merge pfx gws targets).1 · = .member name)

/-- The containers that are routed. -/
def routedContainers (pfx : String) (gws : Gateways) (targets : List Target) : List Target :=
  let merged := (merge pfx gws targets).1
  targets.filter (outcome pfx merged · ∈ merged.map (.member ·.name))

lemma mem_containersOf (h : (gws.map (·.name)).Nodup) {gp : GatewayPlan}
    (hgp : gp ∈ (compile targets pfx gws).gateways) {t : Target} :
    t ∈ containersOf pfx gws targets gp.gateway.name ↔
      t ∈ targets ∧ Routes pfx (merge pfx gws targets).1 t gp.gateway := by
  obtain ⟨g, hg, rfl⟩ := (mem_gateways_compile h).1 hgp
  rw [containersOf, List.mem_filter, decide_eq_true_eq,
    outcome_eq_member_name (nodup_names_merge h) hg]

/-- The set of addresses of a gateway is that of its containers. -/
lemma size_members (h : (gws.map (·.name)).Nodup) {gp : GatewayPlan}
    (hgp : gp ∈ (compile targets pfx gws).gateways) :
    gp.members.size =
      ((containersOf pfx gws targets gp.gateway.name).flatMap Target.addrs).toFinset.card := by
  refine size_eq_card fun ip => ?_
  simp only [mem_members_compile h hgp, List.mem_toFinset, List.mem_flatMap,
    mem_containersOf h hgp, and_assoc]

/-- The set of names of a gateway is as large as it has containers. -/
lemma size_memberNames (h : (gws.map (·.name)).Nodup) (hnodup : (targets.map (·.name)).Nodup)
    {gp : GatewayPlan} (hgp : gp ∈ (compile targets pfx gws).gateways) :
    gp.memberNames.size = (containersOf pfx gws targets gp.gateway.name).length := by
  have hnames : ((containersOf pfx gws targets gp.gateway.name).map (·.name)).Nodup :=
    hnodup.sublist (List.filter_sublist.map _)
  rw [← List.length_map (·.name), ← List.toFinset_card_of_nodup hnames]
  refine size_eq_card fun n => ?_
  simp only [mem_memberNames_compile h hgp, List.mem_toFinset, List.mem_map,
    mem_containersOf h hgp, and_assoc, eq_comm (a := n)]

/-- Every container that is routed is one of exactly one gateway. -/
lemma sum_length_containersOf (h : (gws.map (·.name)).Nodup) :
    ((compile targets pfx gws).gateways.map
      fun gp => (containersOf pfx gws targets gp.gateway.name).length).sum =
        (routedContainers pfx gws targets).length := by
  have hkeys : ((merge pfx gws targets).1.map (Outcome.member ·.name)).Nodup := by
    have hnames : ((merge pfx gws targets).1.map (·.name)).Nodup := nodup_names_merge h
    simpa [Function.comp_def] using hnames.map fun _ _ he => Outcome.member.inj he
  have hgateways : ∀ f : String → ℕ,
      ((compile targets pfx gws).gateways.map fun gp => f gp.gateway.name) =
        (merge pfx gws targets).1.map fun g => f g.name := by
    intro f
    rw [← mergedGateways_compile, mergedGateways, List.map_map]
    rfl
  rw [hgateways fun name => (containersOf pfx gws targets name).length, routedContainers,
    ← sum_length_filter _ hkeys, List.map_map]
  rfl

/-! ### What is reported -/

/-- A gateway in the summary with a number of members. -/
def gatewayText (gp : GatewayPlan) (n : ℕ) : String :=
  let names := ",".intercalate gp.memberNames.toList
  s!"{gp.gateway.name}={egressSummary gp.egress} members={n}[{names}]"

omit [Libraries] in
lemma gatewayText_injective (gp : GatewayPlan) : Function.Injective (gatewayText gp) := by
  intro m n h
  rw [gatewayText, gatewayText, ← String.toList_inj] at h
  simp only [toString_string, String.toList_append, List.append_cancel_right_eq,
    List.append_cancel_left_eq] at h
  exact repr_injective (String.toList_inj.1 h)

omit [Libraries] in
lemma gatewaySummary_eq (gp : GatewayPlan) : gatewaySummary gp = gatewayText gp gp.members.size :=
  rfl

/-- What a reconcile counts is counted of its plan. -/
lemma stats_reconcileApply {σ : Type} {enforcer : Enforcer σ} {trigger : Trigger}
    {answer : Except String (List ContainerSummary)} {s : σ} {lastFp : Option String}
    {stats : ReconcileStats} (hanswer : listTargets answer = .ok targets)
    (h : (reconcileApply enforcer pfx gws trigger answer s lastFp).stats = .ok stats) :
    stats = statsOf (compile targets pfx gws) := by
  rw [reconcileApply, hanswer] at h
  dsimp only at h
  split at h
  · simp at h
  · split at h
    · simp at h
    · exact (Except.ok.inj h).symm

/-- The numbers of members that are reported are numbers of containers: the total that is counted
is that of the containers that are routed, and the one in the summary of a gateway that of its
own, whose names are the ones listed there. -/
structure Counted (pfx : String) (gws : Gateways) (targets : List Target) : Prop where
  total : (statsOf (compile targets pfx gws)).members = (routedContainers pfx gws targets).length
  recorded : ∀ {σ : Type} (enforcer : Enforcer σ) trigger answer s lastFp stats,
    listTargets answer = .ok targets →
      (reconcileApply enforcer pfx gws trigger answer s lastFp).stats = .ok stats →
      stats.members = (routedContainers pfx gws targets).length
  figures : ∀ gp ∈ (compile targets pfx gws).gateways,
    gatewaySummary gp = gatewayText gp (containersOf pfx gws targets gp.gateway.name).length
  names : ∀ gp ∈ (compile targets pfx gws).gateways,
    gp.memberNames.size = (containersOf pfx gws targets gp.gateway.name).length

/-- The numbers of members are those of the containers exactly when the containers of each
gateway are balanced: as many of them have no address of their own as there are addresses that
the others have beyond one each. -/
theorem counted_iff (hvalid : gws.validate = .ok ()) (hnodup : (targets.map (·.name)).Nodup) :
    Counted pfx gws targets ↔
      ∀ g ∈ (merge pfx gws targets).1, Balanced (containersOf pfx gws targets g.name) := by
  have hnames := (Gateways.validate_eq_ok.1 hvalid).names
  have hsize : ∀ gp ∈ (compile targets pfx gws).gateways,
      gp.members.size = (containersOf pfx gws targets gp.gateway.name).length ↔
        Balanced (containersOf pfx gws targets gp.gateway.name) := by
    intro gp hgp
    rw [size_members hnames hgp, card_addrs_eq_iff]
  constructor
  · intro h g hg
    obtain ⟨gp, hgp, rfl⟩ : ∃ gp ∈ (compile targets pfx gws).gateways, gp.gateway = g := by
      rwa [← mergedGateways_compile, mergedGateways, List.mem_map] at hg
    have hfigure := h.figures gp hgp
    rw [gatewaySummary_eq] at hfigure
    exact (hsize gp hgp).1 (gatewayText_injective gp hfigure)
  · intro h
    have heq : ∀ gp ∈ (compile targets pfx gws).gateways,
        gp.members.size = (containersOf pfx gws targets gp.gateway.name).length := by
      intro gp hgp
      refine (hsize gp hgp).2 (h gp.gateway ?_)
      rw [← mergedGateways_compile, mergedGateways]
      exact List.mem_map_of_mem hgp
    have htotal : (statsOf (compile targets pfx gws)).members =
        (routedContainers pfx gws targets).length := by
      rw [statsOf, List.map_congr_left heq, sum_length_containersOf hnames]
    refine ⟨htotal, ?_, ?_, fun gp hgp => size_memberNames hnames hnodup hgp⟩
    · intro σ enforcer trigger answer s lastFp stats hanswer hstats
      rw [stats_reconcileApply hanswer hstats, htotal]
    · intro gp hgp
      rw [gatewaySummary_eq, heq gp hgp]

omit [Libraries] in
/-- A container with one address is counted once. -/
theorem counted_home : @Counted .plain "degc" (vpnGateways 100) appTargets :=
  (@counted_iff .plain "degc" (vpnGateways 100) appTargets (by decide) (by decide)).2 (by decide)

/-- A container with an address on each of two networks. -/
def twoNetworks : List Target :=
  [.ofLists "app" [("degc.enable", "true")]
    [("backend", [.v4 0xac130007]), ("services", [.v4 0xac120007])]]

omit [Libraries] in
/-- A container on two networks is counted twice. -/
theorem not_counted : @Gateways.validate .plain (vpnGateways 100) = .ok () ∧
    (twoNetworks.map (·.name)).Nodup ∧ ¬ @Counted .plain "degc" (vpnGateways 100) twoNetworks := by
  refine ⟨by decide, by decide, fun h => ?_⟩
  have htotal := @Counted.total .plain _ _ _ h
  exact absurd htotal (by decide)

end Degc.Reconcile
