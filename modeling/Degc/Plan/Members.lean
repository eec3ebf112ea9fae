import Degc.Plan.Merge

/-!
# Which container is routed where

The assignment loop, seen from one container.  `outcome` says what becomes of a
container given the merged gateways, and does not depend on the other
containers; the loop records the outcomes one after the other (`assign_eq`), so
what it has collected at its end is described container by container
(`unresolved_foldl`, `conflicts_foldl`).

The main results are `mem_members_compile` and `mem_memberNames_compile`: the sets of a
gateway are made of the containers it routes.
-/

namespace Degc

open Net Text
open Std (TreeMap TreeSet)

/-! ### Collecting sets under keys -/

section Collect

variable {κ α : Type} [Ord κ] [Std.TransOrd κ] [Std.LawfulEqOrd κ] [Ord α] [Std.TransOrd α]
  [Std.LawfulEqOrd α] [DecidableEq α]

lemma mem_getD_insert_insertMany {m : TreeMap κ (TreeSet α)} {k k' : κ} {xs : List α} {x : α} :
    x ∈ (m.insert k ((m.getD k ∅).insertMany xs)).getD k' ∅ ↔
      x ∈ m.getD k' ∅ ∨ k = k' ∧ x ∈ xs := by
  rw [TreeMap.getD_insert]
  by_cases hk : k = k'
  · subst hk
    simp [TreeSet.mem_insertMany_list]
  · simp [hk]

omit [DecidableEq α] in
lemma mem_getD_insert_insert {m : TreeMap κ (TreeSet α)} {k k' : κ} {y x : α} :
    x ∈ (m.insert k ((m.getD k ∅).insert y)).getD k' ∅ ↔ x ∈ m.getD k' ∅ ∨ k = k' ∧ x = y := by
  rw [TreeMap.getD_insert]
  by_cases hk : k = k'
  · subst hk
    rw [if_pos (Std.ReflOrd.compare_self), TreeSet.mem_insert, Std.LawfulEqOrd.compare_eq_iff_eq,
      or_comm, eq_comm (a := y), and_iff_right rfl]
  · simp [hk]

end Collect

namespace Plan

variable {pfx : String} {merged : Gateways} {targets : List Target}

/-! ### The outcome of one container -/

/-- What becomes of a container. -/
inductive Outcome
  | gateway
  | member (gw : String)
  | unresolved (via : String)
  | conflict (gws : List String)
  | idle
  deriving DecidableEq

/-- What becomes of a container, given the merged gateways. -/
def outcome (pfx : String) (merged : Gateways) (t : Target) : Outcome :=
  if (gatewayName pfx t.labels).isSome then .gateway
  else
    match optIn pfx t.labels with
    | some via =>
        match merged.resolve via with
        | some gw => .member gw.name
        | none => .unresolved (via.getD "<default>")
    | none =>
        match matched merged t.labels with
        | [] => .idle
        | [one] => .member one
        | many => .conflict many

/-- Recording the outcome of a container. -/
def Assignment.record (a : Assignment) (t : Target) : Outcome → Assignment
  | .gateway | .idle => a
  | .member gw => addMember a gw t
  | .unresolved via => { a with unresolved := a.unresolved ++ [(t.name, via)] }
  | .conflict gws => { a with conflicts := a.conflicts ++ [(t.name, gws)] }

lemma assign_eq (a : Assignment) (t : Target) :
    assign pfx merged a t = a.record t (outcome pfx merged t) := by
  simp only [assign, outcome]
  cases gatewayName pfx t.labels with
  | some name => rfl
  | none =>
      cases optIn pfx t.labels with
      | some via =>
          cases h : merged.resolve via <;> simp [h, Assignment.record]
      | none =>
          rcases h : matched merged t.labels with _ | ⟨one, _ | ⟨two, rest⟩⟩ <;>
            simp [Assignment.record]

/-! ### What the loop collects -/

lemma mem_members_foldl {a : Assignment} {gw : String} {ip : IpAddr} :
    ip ∈ (targets.foldl (assign pfx merged) a).members.getD gw ∅ ↔
      ip ∈ a.members.getD gw ∅ ∨ ∃ t ∈ targets, outcome pfx merged t = .member gw ∧
        ip ∈ t.addrs := by
  induction targets generalizing a with
  | nil => simp
  | cons t ts ih =>
      have hstep : ip ∈ (assign pfx merged a t).members.getD gw ∅ ↔
          ip ∈ a.members.getD gw ∅ ∨ outcome pfx merged t = .member gw ∧ ip ∈ t.addrs := by
        rw [assign_eq]
        cases outcome pfx merged t <;>
          simp [Assignment.record, addMember, mem_getD_insert_insertMany]
      rw [List.foldl_cons, ih, hstep, List.exists_mem_cons_iff, or_assoc]

lemma mem_memberNames_foldl {a : Assignment} {gw : String} {n : String} :
    n ∈ (targets.foldl (assign pfx merged) a).memberNames.getD gw ∅ ↔
      n ∈ a.memberNames.getD gw ∅ ∨ ∃ t ∈ targets, outcome pfx merged t = .member gw ∧
        n = t.name := by
  induction targets generalizing a with
  | nil => simp
  | cons t ts ih =>
      have hstep : n ∈ (assign pfx merged a t).memberNames.getD gw ∅ ↔
          n ∈ a.memberNames.getD gw ∅ ∨ outcome pfx merged t = .member gw ∧ n = t.name := by
        rw [assign_eq]
        cases outcome pfx merged t <;>
          simp [Assignment.record, addMember, mem_getD_insert_insert]
      rw [List.foldl_cons, ih, hstep, List.exists_mem_cons_iff, or_assoc]

/-- The entry of a container in the list of unresolved ones, if it has one. -/
def unresolvedEntry (pfx : String) (merged : Gateways) (t : Target) : Option (String × String) :=
  match outcome pfx merged t with
  | .unresolved via => some (t.name, via)
  | _ => none

/-- The entry of a container in the list of conflicts, if it has one. -/
def conflictEntry (pfx : String) (merged : Gateways) (t : Target) :
    Option (String × List String) :=
  match outcome pfx merged t with
  | .conflict gws => some (t.name, gws)
  | _ => none

lemma unresolved_foldl {a : Assignment} :
    (targets.foldl (assign pfx merged) a).unresolved =
      a.unresolved ++ targets.filterMap (unresolvedEntry pfx merged) := by
  induction targets generalizing a with
  | nil => simp
  | cons t ts ih =>
      rw [List.foldl_cons, ih, assign_eq, List.filterMap_cons, unresolvedEntry]
      cases outcome pfx merged t <;> simp [Assignment.record, addMember]

lemma conflicts_foldl {a : Assignment} :
    (targets.foldl (assign pfx merged) a).conflicts =
      a.conflicts ++ targets.filterMap (conflictEntry pfx merged) := by
  induction targets generalizing a with
  | nil => simp
  | cons t ts ih =>
      rw [List.foldl_cons, ih, assign_eq, List.filterMap_cons, conflictEntry]
      cases outcome pfx merged t <;> simp [Assignment.record, addMember]

/-! ### The gateways of the plan -/

variable [Libraries]

/-- The merged gateways of a plan. -/
def mergedGateways (p : Plan) : Gateways := p.gateways.map (·.gateway)

lemma gatewayPlans_map_gateway (ms : TreeMap String (TreeSet IpAddr))
    (ns : TreeMap String (TreeSet String)) (gws : List Gateway) :
    (gatewayPlans targets ms ns gws).map (·.gateway) = gws := by
  induction gws generalizing ms ns with
  | nil => rfl
  | cons g gws ih => simp [gatewayPlans, ih]

/-- The merged gateways of a compiled plan are those the merge produces. -/
@[simp] lemma mergedGateways_compile (gws : Gateways) :
    (compile targets pfx gws).mergedGateways = (merge pfx gws targets).1 :=
  gatewayPlans_map_gateway _ _ _

/-- With distinct names every gateway gets the sets collected under its name. -/
lemma gatewayPlans_eq_map {ms : TreeMap String (TreeSet IpAddr)}
    {ns : TreeMap String (TreeSet String)} {gws : List Gateway} (h : (gws.map (·.name)).Nodup) :
    gatewayPlans targets ms ns gws = gws.map fun g =>
      { gateway := g, egress := resolveEgress g targets, members := ms.getD g.name ∅
        memberNames := ns.getD g.name ∅ } := by
  induction gws generalizing ms ns with
  | nil => rfl
  | cons g gws ih =>
      rw [List.map_cons, List.nodup_cons] at h
      rw [gatewayPlans, ih h.2, List.map_cons]
      refine congrArg _ (List.map_congr_left fun g' hg' => ?_)
      have hne : g.name ≠ g'.name := fun he => h.1 (List.mem_map.2 ⟨g', hg', he.symm⟩)
      simp [TreeMap.getD_erase, hne]

/-- The gateways of a plan compiled from a configuration with distinct names. -/
lemma mem_gateways_compile {gws : Gateways} (h : (gws.map (·.name)).Nodup) {gp : GatewayPlan} :
    gp ∈ (compile targets pfx gws).gateways ↔
      ∃ g ∈ (merge pfx gws targets).1, gp =
        { gateway := g, egress := resolveEgress g targets
          members := (assignment pfx (merge pfx gws targets).1 targets).members.getD g.name ∅
          memberNames :=
            (assignment pfx (merge pfx gws targets).1 targets).memberNames.getD g.name ∅ } := by
  simp only [compile]
  rw [gatewayPlans_eq_map (nodup_names_merge h), List.mem_map]
  exact exists_congr fun g => and_congr_right fun _ => eq_comm

/-! ### Whom a gateway routes -/

/-- The gateways with a selector that matches a container. -/
def selecting (merged : Gateways) (t : Target) : Gateways :=
  merged.filter fun g => g.members.any (selectorMatches · t.labels)

omit [Libraries] in
lemma matched_eq (t : Target) : matched merged t.labels = (selecting merged t).map (·.name) := rfl

/-- A container is to be routed by a gateway: it is no gateway container, and the gateway is
the one its opt-in resolves to or, without an opt-in, the only one with a selector that
matches. -/
def Routes (pfx : String) (merged : Gateways) (t : Target) (g : Gateway) : Prop :=
  gatewayName pfx t.labels = none ∧
    match optIn pfx t.labels with
    | some via => merged.resolve via = some g
    | none => selecting merged t = [g]

omit [Libraries] in
/-- A container is routed by at most one gateway. -/
lemma Routes.unique {t : Target} {g g' : Gateway} (h : Routes pfx merged t g)
    (h' : Routes pfx merged t g') : g = g' := by
  obtain ⟨-, h⟩ := h
  obtain ⟨-, h'⟩ := h'
  cases hopt : optIn pfx t.labels with
  | some via =>
      rw [hopt] at h h'
      exact Option.some.inj (h.symm.trans h')
  | none =>
      rw [hopt] at h h'
      exact List.head_eq_of_cons_eq (h.symm.trans h')

omit [Libraries] in
lemma Routes.mem {t : Target} {g : Gateway} (h : Routes pfx merged t g) : g ∈ merged := by
  obtain ⟨-, h⟩ := h
  cases hopt : optIn pfx t.labels with
  | some via => exact mem_of_resolve (by simpa [hopt] using h)
  | none =>
      rw [hopt] at h
      exact (List.mem_filter.1 (h ▸ List.mem_singleton_self g)).1

omit [Libraries] in
/-- The outcome of a container is membership exactly when a gateway routes it. -/
lemma outcome_eq_member {t : Target} {n : String} :
    outcome pfx merged t = .member n ↔ ∃ g, Routes pfx merged t g ∧ g.name = n := by
  simp only [outcome, Routes]
  cases gatewayName pfx t.labels with
  | some name => simp
  | none =>
      cases optIn pfx t.labels with
      | some via => cases h : merged.resolve via <;> simp [h]
      | none =>
          simp only [matched_eq]
          rcases selecting merged t with _ | ⟨one, _ | ⟨two, rest⟩⟩ <;> simp

omit [Libraries] in
/-- The outcomes, each with what decides it. -/
lemma outcome_cases (pfx : String) (merged : Gateways) (t : Target) :
    (∃ name, gatewayName pfx t.labels = some name ∧ outcome pfx merged t = .gateway) ∨
    (∃ g, Routes pfx merged t g ∧ outcome pfx merged t = .member g.name) ∨
    (gatewayName pfx t.labels = none ∧ ∃ via, optIn pfx t.labels = some via ∧
      merged.resolve via = none ∧ outcome pfx merged t = .unresolved (via.getD "<default>")) ∨
    (gatewayName pfx t.labels = none ∧ optIn pfx t.labels = none ∧
      2 ≤ (selecting merged t).length ∧
        outcome pfx merged t = .conflict ((selecting merged t).map (·.name))) ∨
    (gatewayName pfx t.labels = none ∧ optIn pfx t.labels = none ∧ selecting merged t = [] ∧
      outcome pfx merged t = .idle) := by
  cases hname : gatewayName pfx t.labels with
  | some name => simp [outcome, hname]
  | none =>
      cases hopt : optIn pfx t.labels with
      | some via =>
          cases hres : merged.resolve via with
          | none => simp [outcome, hname, hopt, hres, Routes]
          | some g => exact Or.inr (Or.inl ⟨g, by simp [Routes, hname, hopt, hres],
              by simp [outcome, hname, hopt, hres]⟩)
      | none =>
          rcases hsel : selecting merged t with _ | ⟨one, _ | ⟨two, rest⟩⟩ <;>
            simp [outcome, hname, hopt, matched_eq, hsel, Routes]

omit [Libraries] in
lemma outcome_eq_member_name (h : (merged.map (·.name)).Nodup) {g : Gateway} (hg : g ∈ merged)
    {t : Target} : outcome pfx merged t = .member g.name ↔ Routes pfx merged t g := by
  rw [outcome_eq_member]
  refine ⟨?_, fun hr => ⟨g, hr, rfl⟩⟩
  rintro ⟨g', hr, hname⟩
  exact eq_of_name_eq h hr.mem hg hname ▸ hr

/-! ### What the plan says about a container -/

/-- The names of the gateways with a container among their members. -/
def routedBy (p : Plan) (t : Target) : List String :=
  (p.gateways.filter fun gp => t.name ∈ gp.memberNames).map (·.gateway.name)

/-- The gateway names a container is listed with as unresolved. -/
def unresolvedOf (p : Plan) (t : Target) : List String :=
  (p.unresolved.filter (·.1 = t.name)).map (·.2)

/-- The gateways a container is listed with as a conflict. -/
def conflictsOf (p : Plan) (t : Target) : List (List String) :=
  (p.conflicts.filter (·.1 = t.name)).map (·.2)

omit [Libraries] in
/-- Picking out the entries of one container from a list that has at most one for each. -/
lemma filter_filterMap_of_nodup {β : Type} {f : Target → Option (String × β)}
    (hf : ∀ t e, f t = some e → e.1 = t.name) (hnodup : (targets.map (·.name)).Nodup) {t : Target}
    (ht : t ∈ targets) : (targets.filterMap f).filter (·.1 = t.name) = (f t).toList := by
  induction targets with
  | nil => simp at ht
  | cons u us ih =>
      rw [List.map_cons, List.nodup_cons] at hnodup
      have hrest : ∀ v : Target, v.name ∉ us.map (·.name) →
          (us.filterMap f).filter (·.1 = v.name) = [] := by
        intro v hv
        refine List.filter_eq_nil_iff.2 fun e he => ?_
        obtain ⟨w, hw, hfw⟩ := List.mem_filterMap.1 he
        simp only [decide_eq_true_eq]
        exact fun h => hv (List.mem_map.2 ⟨w, hw, (hf w e hfw).symm.trans h⟩)
      rcases List.mem_cons.1 ht with rfl | ht
      · cases h : f t with
        | none => simpa [List.filterMap_cons, h] using hrest t hnodup.1
        | some e => simpa [List.filterMap_cons, h, hf t e h] using hrest t hnodup.1
      · have hne : u.name ≠ t.name := fun h => hnodup.1 (List.mem_map.2 ⟨t, ht, h.symm⟩)
        rw [← ih hnodup.2 ht]
        cases h : f u with
        | none => simp [h]
        | some e => simp [h, hf u e h, hne]

lemma unresolvedOf_compile {gws : Gateways} (hnodup : (targets.map (·.name)).Nodup) {t : Target}
    (ht : t ∈ targets) : (compile targets pfx gws).unresolvedOf t =
      match outcome pfx (merge pfx gws targets).1 t with
      | .unresolved via => [via]
      | _ => [] := by
  have hf : ∀ u e, unresolvedEntry pfx (merge pfx gws targets).1 u = some e → e.1 = u.name := by
    intro u e h
    simp only [unresolvedEntry] at h
    split at h
    · obtain rfl := Option.some.inj h
      rfl
    · simp at h
  simp only [unresolvedOf, compile, assignment, unresolved_foldl, List.nil_append]
  rw [filter_filterMap_of_nodup hf hnodup ht, unresolvedEntry]
  cases outcome pfx (merge pfx gws targets).1 t <;> rfl

lemma conflictsOf_compile {gws : Gateways} (hnodup : (targets.map (·.name)).Nodup) {t : Target}
    (ht : t ∈ targets) : (compile targets pfx gws).conflictsOf t =
      match outcome pfx (merge pfx gws targets).1 t with
      | .conflict names => [names]
      | _ => [] := by
  have hf : ∀ u e, conflictEntry pfx (merge pfx gws targets).1 u = some e → e.1 = u.name := by
    intro u e h
    simp only [conflictEntry] at h
    split at h
    · obtain rfl := Option.some.inj h
      rfl
    · simp at h
  simp only [conflictsOf, compile, assignment, conflicts_foldl, List.nil_append]
  rw [filter_filterMap_of_nodup hf hnodup ht, conflictEntry]
  cases outcome pfx (merge pfx gws targets).1 t <;> rfl

/-! ### The members of a gateway -/

lemma mem_members_compile {gws : Gateways} (h : (gws.map (·.name)).Nodup) {gp : GatewayPlan}
    (hgp : gp ∈ (compile targets pfx gws).gateways) {ip : IpAddr} :
    ip ∈ gp.members ↔
      ∃ t ∈ targets, Routes pfx (merge pfx gws targets).1 t gp.gateway ∧ ip ∈ t.addrs := by
  obtain ⟨g, hg, rfl⟩ := (mem_gateways_compile h).1 hgp
  simp [assignment, mem_members_foldl, outcome_eq_member_name (nodup_names_merge h) hg]

lemma mem_memberNames_compile {gws : Gateways} (h : (gws.map (·.name)).Nodup) {gp : GatewayPlan}
    (hgp : gp ∈ (compile targets pfx gws).gateways) {n : String} :
    n ∈ gp.memberNames ↔
      ∃ t ∈ targets, Routes pfx (merge pfx gws targets).1 t gp.gateway ∧ n = t.name := by
  obtain ⟨g, hg, rfl⟩ := (mem_gateways_compile h).1 hgp
  simp [assignment, mem_memberNames_foldl, outcome_eq_member_name (nodup_names_merge h) hg]

lemma routedBy_compile {gws : Gateways} (h : (gws.map (·.name)).Nodup)
    (hnodup : (targets.map (·.name)).Nodup) {t : Target} (ht : t ∈ targets) :
    (compile targets pfx gws).routedBy t =
      match outcome pfx (merge pfx gws targets).1 t with
      | .member n => [n]
      | _ => [] := by
  set merged := (merge pfx gws targets).1 with hmerged
  have hnames : (merged.map (·.name)).Nodup := nodup_names_merge h
  -- a gateway has the container among its members when it is the outcome of the container
  have hmem : ∀ g ∈ merged,
      t.name ∈ (assignment pfx merged targets).memberNames.getD g.name ∅ ↔
        outcome pfx merged t = .member g.name := by
    intro g _
    rw [assignment, mem_memberNames_foldl]
    constructor
    · rintro (h | ⟨u, hu, hout, hname⟩)
      · simp at h
      · rwa [List.inj_on_of_nodup_map hnodup ht hu hname]
    · exact fun hout => Or.inr ⟨t, ht, hout, rfl⟩
  have hroute : (compile targets pfx gws).routedBy t =
      (merged.map (·.name)).filter fun n => outcome pfx merged t = .member n := by
    rw [routedBy]
    simp only [compile]
    rw [gatewayPlans_eq_map hnames, List.filter_map, List.map_map, List.filter_map]
    refine congrArg (List.map _) (List.filter_congr fun g hg => ?_)
    simpa using hmem g hg
  rw [hroute]
  cases hout : outcome pfx merged t with
  | member n =>
      obtain ⟨g, hr, rfl⟩ := outcome_eq_member.1 hout
      have hcount := List.count_eq_one_of_mem hnames (List.mem_map_of_mem (f := (·.name)) hr.mem)
      simp only [Outcome.member.injEq, eq_comm (a := g.name)]
      rw [List.filter_eq, hcount, List.replicate_one]
  | _ => simp

end Plan

end Degc
