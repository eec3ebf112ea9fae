import Degc.Plan.Default
import Degc.Plan.Resolve

/-!
# The order of the containers

The containers are listed in an order that changes when one is started again.
First come first served decides in three places: which of several containers
declares a gateway, which of several declared defaults is taken, and which of
several containers behind an egress is meant.

The main result is `compile_perm_iff`: the plan is the same for every order exactly
when none of these places has a choice to make.
-/

namespace Degc

open Net Text
open Std (TreeMap TreeSet)

/-- Two gateways have the same settings; selectors are compared as maps. -/
structure Gateway.Same (g g' : Gateway) : Prop where
  name : g.name = g'.name
  egress : g.egress = g'.egress
  snat : g.snat = g'.snat
  mark : g.mark = g'.mark
  table : g.table = g'.table
  default : g.default = g'.default
  localSubnets : g.localSubnets = g'.localSubnets
  members : List.Forall₂ TreeMap.Equiv g.members g'.members

namespace Gateway.Same

@[refl] lemma refl (g : Gateway) : g.Same g :=
  ⟨rfl, rfl, rfl, rfl, rfl, rfl, rfl, List.forall₂_same.2 fun _ _ => .rfl⟩

@[symm] lemma symm {g g' : Gateway} (h : g.Same g') : g'.Same g :=
  ⟨h.name.symm, h.egress.symm, h.snat.symm, h.mark.symm, h.table.symm, h.default.symm,
    h.localSubnets.symm, h.members.flip.imp fun _ _ he => he.symm⟩

@[trans] lemma trans {g g' g'' : Gateway} (h : g.Same g') (h' : g'.Same g'') : g.Same g'' where
  name := h.name.trans h'.name
  egress := h.egress.trans h'.egress
  snat := h.snat.trans h'.snat
  mark := h.mark.trans h'.mark
  table := h.table.trans h'.table
  default := h.default.trans h'.default
  localSubnets := h.localSubnets.trans h'.localSubnets
  members := by
    have hm := h.members
    have hm' := h'.members
    generalize g.members = a at hm
    generalize g'.members = b at hm hm'
    generalize g''.members = c at hm'
    induction hm generalizing c with
    | nil => exact hm'
    | cons he _ ih =>
        cases hm' with
        | cons he' hrest => exact .cons (he.trans he') (ih _ hrest)

/-- The selectors of gateways with the same settings match the same labels. -/
lemma any_selectorMatches {g g' : Gateway} (h : g.Same g') (labels : Labels) :
    g.members.any (selectorMatches · labels) = g'.members.any (selectorMatches · labels) := by
  have hm := h.members
  generalize g.members = a at hm ⊢
  generalize g'.members = b at hm ⊢
  induction hm with
  | nil => rfl
  | cons he _ ih =>
      rw [List.any_cons, List.any_cons, ih, selectorMatches, selectorMatches, he.isEmpty_eq,
        he.toList_eq]

end Gateway.Same

variable [Libraries]

/-- Two gateways of plans are the same: in their settings, their egress and their members. -/
structure GatewayPlan.Same (gp gp' : GatewayPlan) : Prop where
  gateway : gp.gateway.Same gp'.gateway
  egress : gp.egress = gp'.egress
  members : ∀ ip, ip ∈ gp.members ↔ ip ∈ gp'.members
  memberNames : ∀ n, n ∈ gp.memberNames ↔ n ∈ gp'.memberNames

/-- Two plans are the same up to the order of their entries. -/
structure Plan.Same (p p' : Plan) : Prop where
  left : ∀ gp ∈ p.gateways, ∃ gp' ∈ p'.gateways, gp.Same gp'
  right : ∀ gp' ∈ p'.gateways, ∃ gp ∈ p.gateways, gp.Same gp'
  unresolved : p.unresolved.Perm p'.unresolved
  conflicts : (p.conflicts.map fun c => (c.1, (c.2 : Multiset String))).Perm
    (p'.conflicts.map fun c => (c.1, (c.2 : Multiset String)))
  errors : p.discoveryErrors.Perm p'.discoveryErrors

namespace Plan

variable {pfx : String} {gws : Gateways} {targets targets' : List Target}

/-- A container may declare the default gateway: its gateway is not configured and well-formed,
and is said to be the default. -/
def MayDefault (pfx : String) (gws : Gateways) (t : Target) : Prop :=
  ∃ name, name ∉ gws.map (·.name) ∧ declaresAs pfx name t = true ∧
    knob pfx t.labels "default" = some "true"

/-- A container is looked up by a name: that of a configured egress, or of a container that
declares a gateway which is not configured. -/
def LookedUp (pfx : String) (gws : Gateways) (targets : List Target) (sel : String) : Prop :=
  (∃ g ∈ gws, g.egress.container = some sel) ∨
    ∃ t ∈ targets, ∃ name, name ∉ gws.map (·.name) ∧ declaresAs pfx name t = true ∧
      egressContainer t = sel

/-- Containers that declare one gateway, which is not configured, declare it alike, or are all
malformed. -/
def DeclaredAlike (pfx : String) (gws : Gateways) (targets : List Target) : Prop :=
  ∀ t ∈ targets, ∀ u ∈ targets, ∀ name, name ∉ gws.map (·.name) →
    gatewayName pfx t.labels = some name → gatewayName pfx u.labels = some name →
      ∀ g, discoveredGateway pfx name (egressContainer t) t.labels = .ok g →
        ∃ g', discoveredGateway pfx name (egressContainer u) u.labels = .ok g' ∧ g.Same g'

lemma DeclaredAlike.mono (h : DeclaredAlike pfx gws targets) (hsub : targets' ⊆ targets) :
    DeclaredAlike pfx gws targets' := fun t ht u hu => h t (hsub ht) u (hsub hu)

/-- There is no choice to make by the order of the containers. -/
structure NoChoice (pfx : String) (gws : Gateways) (targets : List Target) : Prop where
  declared : DeclaredAlike pfx gws targets
  /-- There is a configured default, or one declared at most, or nobody asks for the default. -/
  default : (∃ g ∈ gws, g.default = true) ∨
    (∀ t ∈ targets, ∀ u ∈ targets, MayDefault pfx gws t → MayDefault pfx gws u →
      gatewayName pfx t.labels = gatewayName pfx u.labels) ∨
    ∀ t ∈ targets, gatewayName pfx t.labels = none → optIn pfx t.labels ≠ some none
  /-- The containers meant by a name that is looked up have one IPv4 address to offer. -/
  egress : ∀ sel, LookedUp pfx gws targets sel → ∀ t ∈ targets, ∀ u ∈ targets,
    isMatch sel t = true → isMatch sel u = true →
      t.addrs.find? IpAddr.isIpv4 = u.addrs.find? IpAddr.isIpv4

/-! ### The merged gateways -/

/-- Where containers that declare one gateway declare it alike, the same gateways are merged in
every order. -/
lemma merge_same (h : DeclaredAlike pfx gws targets) (hperm : targets'.Perm targets) {g : Gateway}
    (hg : g ∈ (merge pfx gws targets).1) : ∃ g' ∈ (merge pfx gws targets').1, g.Same g' := by
  rcases mem_merge_iff.1 hg with hg | ⟨hnew, t, hfirst, hok⟩
  · exact ⟨g, mem_merge_iff.2 (Or.inl hg), .refl g⟩
  · have ht := List.mem_of_find?_eq_some hfirst
    have hdecl := List.find?_some hfirst
    obtain ⟨u, hu⟩ : ∃ u, firstDeclaring pfx targets' g.name = some u :=
      Option.isSome_iff_exists.1 (List.find?_isSome.2 ⟨t, hperm.symm.subset ht, hdecl⟩)
    have hu' := declaresAs_iff.1 (List.find?_some hu)
    obtain ⟨g', hok', hsame⟩ := h t ht u (hperm.subset (List.mem_of_find?_eq_some hu)) g.name
      hnew (declaresAs_iff.1 hdecl).1 hu'.1 g hok
    have hname := hsame.name
    rw [hname] at hnew hu hok'
    exact ⟨g', mem_merge_iff.2 (Or.inr ⟨hnew, u, hu, hok'⟩), hsame⟩

/-- The error of a container that declares a gateway which is not configured, if it is
malformed. -/
def errorOf (pfx : String) (gws : Gateways) (t : Target) : Option String :=
  match gatewayName pfx t.labels with
  | none => none
  | some name =>
      if name ∈ gws.map (·.name) then none
      else
        match discoveredGateway pfx name (egressContainer t) t.labels with
        | .ok _ => none
        | .error e => some s!"gateway container {debugStr t.name}: {e}"

/-- Where containers that declare one gateway are well-formed together or not at all, the errors
are those of the containers. -/
lemma merge_snd (h : DeclaredAlike pfx gws targets) :
    (merge pfx gws targets).2 = targets.filterMap (errorOf pfx gws) := by
  induction targets using List.reverseRecOn with
  | nil => rfl
  | append_singleton ts t ih =>
      have hts : DeclaredAlike pfx gws ts := h.mono (List.subset_append_left _ _)
      rw [merge_append, List.foldl_cons, List.foldl_nil, List.filterMap_append, ← ih hts, discover,
        List.filterMap_cons, List.filterMap_nil, errorOf]
      cases hname : gatewayName pfx t.labels with
      | none => simp
      | some name =>
          by_cases hconf : name ∈ gws.map (·.name)
          · have hknown : (merge pfx gws ts).1.any (·.name == name) = true :=
              any_name_eq.2 ((isPrefix_merge.map _).subset hconf)
            simp [hknown, hconf]
          · cases hknown : (merge pfx gws ts).1.any (·.name == name) with
            | false =>
                cases hd : discoveredGateway pfx name (egressContainer t) t.labels <;>
                  simp [hconf, hd, hknown]
            | true =>
                -- the gateway is taken from a container before, and declared alike by this one
                obtain ⟨g, hg, rfl⟩ := List.mem_map.1 (any_name_eq.1 hknown)
                obtain ⟨-, u, hu, hok⟩ := (mem_merge_iff.1 hg).resolve_left fun hin =>
                  hconf (List.mem_map_of_mem hin)
                obtain ⟨g', hok', -⟩ := h u
                  (List.mem_append_left _ (List.mem_of_find?_eq_some hu)) t (by simp) g.name hconf
                  (declaresAs_iff.1 (List.find?_some hu)).1 hname g hok
                simp [hconf, hok', hknown]

/-! ### Gateways that are alike -/

section Alike

omit [Libraries]

/-- Two lists have the same gateways, each with distinct names. -/
structure Alike (gs gs' : Gateways) : Prop where
  names : (gs.map (·.name)).Nodup
  names' : (gs'.map (·.name)).Nodup
  left : ∀ g ∈ gs, ∃ g' ∈ gs', g.Same g'
  right : ∀ g' ∈ gs', ∃ g ∈ gs, g.Same g'

variable {gs gs' : Gateways}

lemma Alike.mem_names (h : Alike gs gs') (name : String) :
    name ∈ gs.map (·.name) ↔ name ∈ gs'.map (·.name) := by
  simp only [List.mem_map]
  constructor
  · rintro ⟨g, hg, rfl⟩
    obtain ⟨g', hg', hsame⟩ := h.left g hg
    exact ⟨g', hg', hsame.name.symm⟩
  · rintro ⟨g', hg', rfl⟩
    obtain ⟨g, hg, hsame⟩ := h.right g' hg'
    exact ⟨g, hg, hsame.name⟩

lemma Alike.names_perm (h : Alike gs gs') : (gs.map (·.name)).Perm (gs'.map (·.name)) :=
  (List.perm_ext_iff_of_nodup h.names h.names').2 h.mem_names

lemma resolve_some_name (gs : Gateways) (name : String) :
    (Gateways.resolve gs (some name)).map (·.name) =
      if name ∈ gs.map (·.name) then some name else none := by
  rw [Gateways.resolve]
  cases hfind : gs.find? (·.name == name) with
  | none =>
      rw [List.find?_eq_none] at hfind
      have hnot : name ∉ gs.map (·.name) := by simpa using hfind
      rw [if_neg hnot]
      rfl
  | some g =>
      have hname : g.name = name := by simpa using List.find?_some hfind
      have hmem : name ∈ gs.map (·.name) :=
        List.mem_map.2 ⟨g, List.mem_of_find?_eq_some hfind, hname⟩
      rw [if_pos hmem, Option.map_some, hname]

lemma Alike.resolve_some (h : Alike gs gs') (name : String) :
    (Gateways.resolve gs (some name)).map (·.name) =
      (Gateways.resolve gs' (some name)).map (·.name) := by
  simp only [resolve_some_name, h.mem_names name]

/-- Where there is one default at most, the same one is found. -/
lemma Alike.resolve_none (h : Alike gs gs')
    (hone : ∀ g ∈ gs, ∀ g' ∈ gs, g.default = true → g'.default = true → g = g') :
    (Gateways.resolve gs none).map (·.name) = (Gateways.resolve gs' none).map (·.name) := by
  rw [Gateways.resolve, Gateways.resolve]
  cases hfind : gs.find? (·.default) with
  | some g =>
      have hg := List.mem_of_find?_eq_some hfind
      have hdefault : g.default = true := List.find?_some hfind
      obtain ⟨g', hg', hsame⟩ := h.left g hg
      cases hfind' : gs'.find? (·.default) with
      | none =>
          rw [List.find?_eq_none] at hfind'
          exact absurd (hsame.default ▸ hdefault) (hfind' g' hg')
      | some g'' =>
          obtain ⟨g₂, hg₂, hsame₂⟩ := h.right g'' (List.mem_of_find?_eq_some hfind')
          have hdefault₂ : g₂.default = true := by
            rw [hsame₂.default]
            exact List.find?_some hfind'
          rw [hone g hg g₂ hg₂ hdefault hdefault₂]
          simp [hsame₂.name]
  | none =>
      rw [List.find?_eq_none] at hfind
      have hfind' : gs'.find? (·.default) = none := by
        rw [List.find?_eq_none]
        intro g' hg'
        obtain ⟨g, hg, hsame⟩ := h.right g' hg'
        rw [← hsame.default]
        exact hfind g hg
      have hlength : gs.length = gs'.length := by simpa using h.names_perm.length_eq
      rw [hfind', Option.none_or, Option.none_or, ← hlength]
      split
      · next hlen =>
          obtain ⟨g, rfl⟩ := List.length_eq_one_iff.1 hlen
          obtain ⟨g', rfl⟩ := List.length_eq_one_iff.1 (hlength.symm.trans hlen)
          simpa using h.names_perm
      · rfl

/-- A default gateway among the first ones is the one that is found. -/
lemma resolve_none_append {gws gs : Gateways} (hpre : gws <+: gs)
    (hdefault : ∃ g ∈ gws, g.default = true) :
    Gateways.resolve gs none = gws.find? (·.default) := by
  obtain ⟨rest, rfl⟩ := hpre
  obtain ⟨g, hg⟩ := Option.isSome_iff_exists.1 (List.find?_isSome.2 hdefault)
  rw [Gateways.resolve, List.find?_append, hg, Option.some_or, Option.some_or]

/-- The same gateways select a container. -/
lemma Alike.matched (h : Alike gs gs') (labels : Labels) :
    (matched gs labels).Perm (matched gs' labels) := by
  have hnodup : (Plan.matched gs labels).Nodup := h.names.sublist (List.filter_sublist.map _)
  have hnodup' : (Plan.matched gs' labels).Nodup := h.names'.sublist (List.filter_sublist.map _)
  refine (List.perm_ext_iff_of_nodup hnodup hnodup').2 fun name => ?_
  simp only [Plan.matched, List.mem_map, List.mem_filter]
  constructor
  · rintro ⟨g, ⟨hg, hany⟩, rfl⟩
    obtain ⟨g', hg', hsame⟩ := h.left g hg
    exact ⟨g', ⟨hg', hsame.any_selectorMatches labels ▸ hany⟩, hsame.name.symm⟩
  · rintro ⟨g', ⟨hg', hany⟩, rfl⟩
    obtain ⟨g, hg, hsame⟩ := h.right g' hg'
    exact ⟨g, ⟨hg, hsame.any_selectorMatches labels ▸ hany⟩, hsame.name⟩

/-- Two outcomes are the same up to the order of the gateways in a conflict. -/
def Outcome.Alike : Outcome → Outcome → Prop
  | .conflict ns, .conflict ns' => ns.Perm ns'
  | o, o' => o = o'

lemma Outcome.Alike.rfl' (o : Outcome) : o.Alike o := by
  cases o with
  | conflict ns => exact List.Perm.refl ns
  | _ => rfl

lemma Outcome.Alike.cases {o o' : Outcome} (h : o.Alike o') :
    o = o' ∨ ∃ ns ns', o = .conflict ns ∧ o' = .conflict ns' ∧ ns.Perm ns' := by
  cases o with
  | conflict ns =>
      cases o' with
      | conflict ns' => exact Or.inr ⟨ns, ns', rfl, rfl, h⟩
      | _ => exact Or.inl h
  | _ => exact Or.inl h

/-- The outcome of a container is the same with the same gateways, if the same one is found without
a name. -/
lemma Alike.outcome (h : Alike gs gs') {t : Target}
    (hnone : gatewayName pfx t.labels = none → optIn pfx t.labels = some none →
      (Gateways.resolve gs none).map (·.name) = (Gateways.resolve gs' none).map (·.name)) :
    (outcome pfx gs t).Alike (outcome pfx gs' t) := by
  rw [Plan.outcome, Plan.outcome]
  cases hname : gatewayName pfx t.labels with
  | some name => exact .rfl' _
  | none =>
      cases hopt : optIn pfx t.labels with
      | some via =>
          have hvia : (Gateways.resolve gs via).map (·.name) =
              (Gateways.resolve gs' via).map (·.name) := by
            cases via with
            | some name => exact h.resolve_some name
            | none => exact hnone hname hopt
          cases hr : Gateways.resolve gs via <;> cases hr' : Gateways.resolve gs' via <;>
            simp [hr, hr'] at hvia ⊢
          · exact .rfl' _
          · rw [hvia]
            exact .rfl' _
      | none =>
          have hperm := h.matched t.labels
          rcases hm : Plan.matched gs t.labels with _ | ⟨a, _ | ⟨b, rest⟩⟩
          · rw [hm] at hperm
            rw [hperm.symm.eq_nil]
            exact .rfl' _
          · rw [hm] at hperm
            rw [List.perm_singleton.1 hperm.symm]
            exact .rfl' _
          · rcases hm' : Plan.matched gs' t.labels with _ | ⟨a', _ | ⟨b', rest'⟩⟩
            · have hlen := hperm.length_eq
              simp [hm, hm'] at hlen
            · have hlen := hperm.length_eq
              simp [hm, hm'] at hlen
            · rw [hm, hm'] at hperm
              exact hperm

end Alike

/-! ### Where there is no choice -/

lemma alike_merge (h : DeclaredAlike pfx gws targets) (hperm : targets'.Perm targets)
    (hnames : (gws.map (·.name)).Nodup) :
    Alike (merge pfx gws targets).1 (merge pfx gws targets').1 where
  names := nodup_names_merge hnames
  names' := nodup_names_merge hnames
  left := fun _ hg => merge_same h hperm hg
  right := fun _ hg' => by
    obtain ⟨g, hg, hsame⟩ := merge_same (h.mono hperm.subset) hperm.symm hg'
    exact ⟨g, hg, hsame.symm⟩

/-- Where there is no choice, a container that asks for the default gets the same gateway in every
order. -/
lemma NoChoice.resolve_none (h : NoChoice pfx gws targets) (hperm : targets'.Perm targets)
    (hnames : (gws.map (·.name)).Nodup) {t : Target} (ht : t ∈ targets)
    (hname : gatewayName pfx t.labels = none) (hopt : optIn pfx t.labels = some none) :
    (Gateways.resolve (merge pfx gws targets).1 none).map (·.name) =
      (Gateways.resolve (merge pfx gws targets').1 none).map (·.name) := by
  by_cases hconf : ∃ g ∈ gws, g.default = true
  · rw [resolve_none_append isPrefix_merge hconf, resolve_none_append isPrefix_merge hconf]
  · refine (alike_merge h.declared hperm hnames).resolve_none fun g hg g' hg' hd hd' => ?_
    have hone := (h.default.resolve_left hconf).resolve_right fun hnobody =>
      hnobody t ht hname hopt
    have hsource : ∀ g ∈ (merge pfx gws targets).1, g.default = true →
        ∃ u ∈ targets, MayDefault pfx gws u ∧ gatewayName pfx u.labels = some g.name := by
      intro g hg hd
      rcases mem_merge_iff.1 hg with hin | ⟨hnew, u, hu, hok⟩
      · exact absurd ⟨g, hin, hd⟩ hconf
      · have hdecl := List.find?_some hu
        exact ⟨u, List.mem_of_find?_eq_some hu,
          ⟨g.name, hnew, hdecl, (discoveredGateway_default hok).1 hd⟩, (declaresAs_iff.1 hdecl).1⟩
    obtain ⟨u, hu, hmay, hu'⟩ := hsource g hg hd
    obtain ⟨v, hv, hmay', hv'⟩ := hsource g' hg' hd'
    have hsame := hone u hu v hv hmay hmay'
    rw [hu', hv', Option.some.injEq] at hsame
    exact eq_of_name_eq (nodup_names_merge hnames) hg hg' hsame

omit [Libraries] in
/-- A choice between equals is the same in every order. -/
lemma bind_find?_perm {α β : Type} {p : α → Bool} {f : α → Option β} {l l' : List α}
    (hperm : l'.Perm l) (hall : ∀ a ∈ l, ∀ b ∈ l, p a = true → p b = true → f a = f b) :
    (l.find? p).bind f = (l'.find? p).bind f := by
  cases hfind : l.find? p with
  | none =>
      have hnone : l'.find? p = none := by
        rw [List.find?_eq_none] at hfind ⊢
        exact fun a ha => hfind a (hperm.subset ha)
      rw [hnone]
  | some a =>
      have ha := List.mem_of_find?_eq_some hfind
      have hpa := List.find?_some hfind
      obtain ⟨b, hb⟩ := Option.isSome_iff_exists.1
        (List.find?_isSome.2 ⟨a, hperm.symm.subset ha, hpa⟩)
      rw [hb, Option.bind_some, Option.bind_some]
      exact hall a ha b (hperm.subset (List.mem_of_find?_eq_some hb)) hpa (List.find?_some hb)

lemma resolveEgress_congr {g g' : Gateway} (hegress : g.egress = g'.egress)
    (hip : ∀ sel, g.egress.container = some sel →
      gatewayContainerIp sel targets = gatewayContainerIp sel targets') :
    resolveEgress g targets = resolveEgress g' targets' := by
  rw [resolveEgress, resolveEgress, ← hegress]
  cases hc : g.egress.container with
  | none => rfl
  | some sel => simp only [hip sel hc]

/-- The container behind a merged gateway is looked up. -/
lemma lookedUp_of_mem {g : Gateway} (hg : g ∈ (merge pfx gws targets).1) {sel : String}
    (hsel : g.egress.container = some sel) : LookedUp pfx gws targets sel := by
  rcases mem_merge_iff.1 hg with hg | ⟨hnew, t, hfirst, hok⟩
  · exact Or.inl ⟨g, hg, hsel⟩
  · obtain ⟨-, -, hegress⟩ := discoveredGateway_ok hok
    rw [hegress] at hsel
    exact Or.inr ⟨t, List.mem_of_find?_eq_some hfirst, g.name, hnew, List.find?_some hfirst,
      Option.some.inj hsel⟩

omit [Libraries] in
/-- The entries of a list of containers, in another order. -/
lemma filterMap_perm {β : Type} {f f' : Target → Option β} (hperm : targets'.Perm targets)
    (h : ∀ t ∈ targets, f t = f' t) : (targets.filterMap f).Perm (targets'.filterMap f') := by
  rw [List.filterMap_congr h]
  exact (hperm.filterMap f').symm

omit [Libraries] in
lemma exists_mem_perm (hperm : targets'.Perm targets) {P P' : Target → Prop}
    (h : ∀ t ∈ targets, P t ↔ P' t) : (∃ t ∈ targets, P t) ↔ ∃ t ∈ targets', P' t := by
  constructor
  · rintro ⟨t, ht, hP⟩
    exact ⟨t, hperm.symm.subset ht, (h t ht).1 hP⟩
  · rintro ⟨t, ht, hP⟩
    exact ⟨t, hperm.subset ht, (h t (hperm.subset ht)).2 hP⟩

omit [Libraries] in
/-- Where containers are members of the same gateways in any order, the gateways have the same
members. -/
lemma assignment_perm (hperm : targets'.Perm targets) {gs gs' : List Gateway}
    (hmember : ∀ t ∈ targets, ∀ n, outcome pfx gs t = .member n ↔ outcome pfx gs' t = .member n)
    (n : String) :
    (∀ ip, ip ∈ (assignment pfx gs targets).members.getD n ∅ ↔
      ip ∈ (assignment pfx gs' targets').members.getD n ∅) ∧
    ∀ c, c ∈ (assignment pfx gs targets).memberNames.getD n ∅ ↔
      c ∈ (assignment pfx gs' targets').memberNames.getD n ∅ := by
  constructor
  · intro ip
    simp only [assignment, mem_members_foldl, TreeMap.getD_emptyc, TreeSet.not_mem_emptyc, false_or]
    exact exists_mem_perm hperm fun t ht => and_congr_left fun _ => hmember t ht n
  · intro c
    simp only [assignment, mem_memberNames_foldl, TreeMap.getD_emptyc, TreeSet.not_mem_emptyc,
      false_or]
    exact exists_mem_perm hperm fun t ht => and_congr_left fun _ => hmember t ht n

/-- Where there is no choice, the plan is the same in every order. -/
lemma NoChoice.same (h : NoChoice pfx gws targets) (hperm : targets'.Perm targets)
    (hnames : (gws.map (·.name)).Nodup) :
    (compile targets pfx gws).Same (compile targets' pfx gws) := by
  have halike := alike_merge h.declared hperm hnames
  have hout : ∀ t ∈ targets, (outcome pfx (merge pfx gws targets).1 t).Alike
      (outcome pfx (merge pfx gws targets').1 t) := fun t ht =>
    halike.outcome fun hname hopt => h.resolve_none hperm hnames ht hname hopt
  have hmember : ∀ t ∈ targets, ∀ n, outcome pfx (merge pfx gws targets).1 t = .member n ↔
      outcome pfx (merge pfx gws targets').1 t = .member n := by
    intro t ht n
    rcases (hout t ht).cases with ho | ⟨ns, ns', ho, ho', -⟩
    · rw [ho]
    · simp [ho, ho']
  have hgateway : ∀ g ∈ (merge pfx gws targets).1, ∀ g' ∈ (merge pfx gws targets').1, g.Same g' →
      GatewayPlan.Same
        { gateway := g, egress := resolveEgress g targets
          members := (assignment pfx (merge pfx gws targets).1 targets).members.getD g.name ∅
          memberNames :=
            (assignment pfx (merge pfx gws targets).1 targets).memberNames.getD g.name ∅ }
        { gateway := g', egress := resolveEgress g' targets'
          members := (assignment pfx (merge pfx gws targets').1 targets').members.getD g'.name ∅
          memberNames :=
            (assignment pfx (merge pfx gws targets').1 targets').memberNames.getD g'.name ∅ } := by
    intro g hg g' hg' hsame
    obtain ⟨hmembers, hmemberNames⟩ := assignment_perm hperm hmember g.name
    refine ⟨hsame, resolveEgress_congr hsame.egress fun sel hsel => ?_, ?_, ?_⟩
    · exact bind_find?_perm hperm (h.egress sel (lookedUp_of_mem hg hsel))
    · rwa [← hsame.name]
    · rwa [← hsame.name]
  refine ⟨fun gp hgp => ?_, fun gp' hgp' => ?_, ?_, ?_, ?_⟩
  · obtain ⟨g, hg, rfl⟩ := (mem_gateways_compile hnames).1 hgp
    obtain ⟨g', hg', hsame⟩ := halike.left g hg
    exact ⟨_, (mem_gateways_compile hnames).2 ⟨g', hg', rfl⟩, hgateway g hg g' hg' hsame⟩
  · obtain ⟨g', hg', rfl⟩ := (mem_gateways_compile hnames).1 hgp'
    obtain ⟨g, hg, hsame⟩ := halike.right g' hg'
    exact ⟨_, (mem_gateways_compile hnames).2 ⟨g, hg, rfl⟩, hgateway g hg g' hg' hsame⟩
  · simp only [compile, assignment, unresolved_foldl, List.nil_append]
    refine filterMap_perm hperm fun t ht => ?_
    rw [unresolvedEntry, unresolvedEntry]
    rcases (hout t ht).cases with ho | ⟨ns, ns', ho, ho', -⟩
    · rw [ho]
    · rw [ho, ho']
  · simp only [compile, assignment, conflicts_foldl, List.nil_append, List.map_filterMap]
    refine filterMap_perm hperm fun t ht => ?_
    rw [conflictEntry, conflictEntry]
    rcases (hout t ht).cases with ho | ⟨ns, ns', ho, ho', hns⟩
    · rw [ho]
    · simpa [ho, ho'] using hns
  · simp only [compile]
    rw [merge_snd h.declared, merge_snd (h.declared.mono hperm.subset)]
    exact filterMap_perm hperm fun _ _ => rfl

/-! ### Where there is a choice -/

/-- The plan is the same in every order. -/
def SameInOrder (pfx : String) (gws : Gateways) (targets : List Target) : Prop :=
  ∀ targets' : List Target, targets'.Perm targets →
    (compile targets pfx gws).Same (compile targets' pfx gws)

omit [Libraries] in
lemma exists_perm_cons {t : Target} (ht : t ∈ targets) : ∃ rest, (t :: rest).Perm targets := by
  obtain ⟨before, after, rfl⟩ := List.append_of_mem ht
  exact ⟨before ++ after, List.perm_middle.symm⟩

omit [Libraries] in
lemma exists_perm_cons_cons {t u : Target} (ht : t ∈ targets) (hu : u ∈ targets) (hne : t ≠ u) :
    ∃ rest, (t :: u :: rest).Perm targets := by
  obtain ⟨before, after, rfl⟩ := List.append_of_mem ht
  have hu' : u ∈ before ++ after := by
    simp only [List.mem_append, List.mem_cons] at hu ⊢
    exact hu.imp_right fun h => h.resolve_left hne.symm
  obtain ⟨rest, hrest⟩ := exists_perm_cons hu'
  exact ⟨rest, (hrest.cons t).trans List.perm_middle.symm⟩

/-- The errors so far are kept in front, and change nothing else. -/
lemma foldl_discover (known : List Gateway) (errors : List String) (ts : List Target) :
    ts.foldl (discover pfx) (known, errors) =
      ((ts.foldl (discover pfx) (known, [])).1,
        errors ++ (ts.foldl (discover pfx) (known, [])).2) := by
  have hstep : ∀ (known : List Gateway) (errors : List String) (t : Target),
      discover pfx (known, errors) t =
        ((discover pfx (known, []) t).1, errors ++ (discover pfx (known, []) t).2) := by
    intro known errors t
    simp only [discover]
    cases gatewayName pfx t.labels with
    | none => simp
    | some name =>
        cases hknown : known.any (·.name == name) with
        | true => simp [hknown]
        | false =>
            cases hd : discoveredGateway pfx name (egressContainer t) t.labels <;> simp [hknown, hd]
  induction ts generalizing known errors with
  | nil => simp
  | cons t ts ih =>
      rw [List.foldl_cons, List.foldl_cons, hstep known errors t, ih,
        ih (discover pfx (known, []) t).1 (discover pfx (known, []) t).2, List.append_assoc]

/-- A container that declares a new gateway adds it. -/
lemma discover_new {known : List Gateway} {errors : List String} {t : Target} {name : String}
    {g : Gateway} (hname : gatewayName pfx t.labels = some name)
    (hnew : name ∉ known.map (·.name))
    (hok : discoveredGateway pfx name (egressContainer t) t.labels = .ok g) :
    discover pfx (known, errors) t = (known ++ [g], errors) := by
  have hknown : known.any (·.name == name) = false := by
    rw [← Bool.not_eq_true, any_name_eq]
    exact hnew
  simp only [discover, hname, hknown, hok]
  simp

/-- The gateway of a container that comes first is merged. -/
lemma mem_merge_cons {t : Target} {name : String} {g : Gateway} (rest : List Target)
    (hname : gatewayName pfx t.labels = some name) (hnew : name ∉ gws.map (·.name))
    (hok : discoveredGateway pfx name (egressContainer t) t.labels = .ok g) :
    g ∈ (merge pfx gws (t :: rest)).1 ∧ (gws ++ [g]) <+: (merge pfx gws (t :: rest)).1 := by
  have hpre : (gws ++ [g]) <+: (merge pfx gws (t :: rest)).1 := by
    rw [merge, List.foldl_cons, discover_new hname hnew hok]
    exact isPrefix_merge
  exact ⟨hpre.subset (by simp), hpre⟩

/-- What is merged in one order is, up to its selectors, a gateway of the plan. -/
lemma SameInOrder.gateway (h : SameInOrder pfx gws targets) (hnames : (gws.map (·.name)).Nodup)
    (hperm : targets'.Perm targets) {g : Gateway} (hg : g ∈ (merge pfx gws targets').1) :
    ∃ gp ∈ (compile targets pfx gws).gateways, ∃ gp' ∈ (compile targets' pfx gws).gateways,
      gp'.gateway = g ∧ gp.Same gp' := by
  have hgp' : _ ∈ (compile targets' pfx gws).gateways :=
    (mem_gateways_compile hnames).2 ⟨g, hg, rfl⟩
  obtain ⟨gp, hgp, hsame⟩ := (h targets' hperm).right _ hgp'
  exact ⟨gp, hgp, _, hgp', rfl, hsame⟩

/-- Two gateways of the plan of one name are the same one. -/
lemma gateway_eq_of_name {gp gp' : GatewayPlan} (hnames : (gws.map (·.name)).Nodup)
    (hgp : gp ∈ (compile targets pfx gws).gateways)
    (hgp' : gp' ∈ (compile targets pfx gws).gateways) (hname : gp.gateway.name = gp'.gateway.name) :
    gp = gp' := by
  obtain ⟨g, hg, rfl⟩ := (mem_gateways_compile hnames).1 hgp
  obtain ⟨g', hg', rfl⟩ := (mem_gateways_compile hnames).1 hgp'
  obtain rfl : g = g' := eq_of_name_eq (nodup_names_merge hnames) hg hg' hname
  rfl

/-- Of two containers that declare one gateway differently, the first is taken. -/
lemma SameInOrder.declared (h : SameInOrder pfx gws targets) (hnames : (gws.map (·.name)).Nodup) :
    DeclaredAlike pfx gws targets := by
  intro t ht u hu name hnew hname hname' g hok
  by_cases htu : t = u
  · subst htu
    exact ⟨g, hok, .refl g⟩
  obtain ⟨rest, hperm⟩ := exists_perm_cons_cons ht hu htu
  have hperm' : (u :: t :: rest).Perm targets := (List.Perm.swap t u rest).trans hperm
  cases hu' : discoveredGateway pfx name (egressContainer u) u.labels with
  | ok g' =>
      obtain ⟨gp, hgp, _, -, rfl, hsame⟩ :=
        h.gateway hnames hperm (mem_merge_cons (u :: rest) hname hnew hok).1
      obtain ⟨gp', hgp', _, -, rfl, hsame'⟩ :=
        h.gateway hnames hperm' (mem_merge_cons (t :: rest) hname' hnew hu').1
      obtain rfl : gp = gp' := gateway_eq_of_name hnames hgp hgp' <| by
        rw [hsame.gateway.name, hsame'.gateway.name, (discoveredGateway_ok hok).2.1,
          (discoveredGateway_ok hu').2.1]
      exact ⟨_, rfl, hsame.gateway.symm.trans hsame'.gateway⟩
  | error e =>
      -- the malformed one is reported when it comes first, and passed over when it comes second
      have hfirst :
          merge pfx gws (t :: u :: rest) = rest.foldl (discover pfx) (gws ++ [g], []) := by
        have hknown : name ∈ (gws ++ [g]).map (·.name) := by
          simp [(discoveredGateway_ok hok).2.1]
        have hskip : discover pfx (gws ++ [g], []) u = (gws ++ [g], []) := by
          simp only [discover, hname', any_name_eq.2 hknown, if_true]
        rw [merge, List.foldl_cons, List.foldl_cons, discover_new hname hnew hok, hskip]
      have hsecond : ∃ err, merge pfx gws (u :: t :: rest) =
          rest.foldl (discover pfx) (gws ++ [g], [err]) := by
        have hknown : gws.any (·.name == name) = false := by
          rw [← Bool.not_eq_true, any_name_eq]
          exact hnew
        refine ⟨s!"gateway container {debugStr u.name}: {e}", ?_⟩
        have hreport : discover pfx (gws, []) u =
            (gws, [s!"gateway container {debugStr u.name}: {e}"]) := by
          simp [discover, hname', hknown, hu']
        rw [merge, List.foldl_cons, List.foldl_cons, hreport, discover_new hname hnew hok]
      obtain ⟨err, hsecond⟩ := hsecond
      have hlen : (merge pfx gws (u :: t :: rest)).2.length =
          (merge pfx gws (t :: u :: rest)).2.length := by
        have hone := (h _ hperm).errors.length_eq
        have htwo := (h _ hperm').errors.length_eq
        simp only [compile] at hone htwo
        rw [← hone, ← htwo]
      rw [hfirst, hsecond, foldl_discover] at hlen
      simp at hlen

/-- Of two containers that declare different defaults, the first is taken. -/
lemma SameInOrder.default (h : SameInOrder pfx gws targets) (hnames : (gws.map (·.name)).Nodup)
    (hnodup : (targets.map (·.name)).Nodup) (hconf : ¬ ∃ g ∈ gws, g.default = true) {t₀ : Target}
    (ht₀ : t₀ ∈ targets) (hgw : gatewayName pfx t₀.labels = none)
    (hopt : optIn pfx t₀.labels = some none) {t u : Target} (ht : t ∈ targets) (hu : u ∈ targets)
    (hmay : MayDefault pfx gws t) (hmay' : MayDefault pfx gws u) :
    gatewayName pfx t.labels = gatewayName pfx u.labels := by
  -- whoever declares a default and comes first routes the container
  have hroutes : ∀ v ∈ targets, MayDefault pfx gws v → ∃ gp ∈ (compile targets pfx gws).gateways,
      Routes pfx (merge pfx gws targets).1 t₀ gp.gateway ∧
        gatewayName pfx v.labels = some gp.gateway.name := by
    rintro v hv ⟨name, hnew, hdecl, hdefault⟩
    obtain ⟨hname, g, hok⟩ := declaresAs_iff.1 hdecl
    obtain ⟨rest, hperm⟩ := exists_perm_cons hv
    obtain ⟨hmem, hpre⟩ := mem_merge_cons rest hname hnew hok
    have hfound : Gateways.resolve (merge pfx gws (v :: rest)).1 none = some g := by
      have hd : g.default = true := (discoveredGateway_default hok).2 hdefault
      have hno : gws.find? (·.default) = none := by
        rw [List.find?_eq_none]
        exact fun g' hg' hd' => hconf ⟨g', hg', hd'⟩
      rw [resolve_none_append hpre ⟨g, by simp, hd⟩, List.find?_append, hno, Option.none_or,
        List.find?_singleton, if_pos hd]
    obtain ⟨gp, hgp, gp', hgp', rfl, hsame⟩ := h.gateway hnames hperm hmem
    have hin : t₀.name ∈ gp'.memberNames := by
      rw [mem_memberNames_compile hnames hgp']
      exact ⟨t₀, hperm.symm.subset ht₀, ⟨hgw, by rw [hopt]; exact hfound⟩, rfl⟩
    rw [← hsame.memberNames, mem_memberNames_compile hnames hgp] at hin
    obtain ⟨t₁, ht₁, hr, hn⟩ := hin
    obtain rfl : t₀ = t₁ := List.inj_on_of_nodup_map hnodup ht₀ ht₁ hn
    refine ⟨gp, hgp, hr, ?_⟩
    rw [hsame.gateway.name, (discoveredGateway_ok hok).2.1, hname]
  obtain ⟨gp, -, hr, hname⟩ := hroutes t ht hmay
  obtain ⟨gp', -, hr', hname'⟩ := hroutes u hu hmay'
  rw [hname, hname', hr.unique hr']

/-- Of two containers behind an egress, the first is taken. -/
lemma SameInOrder.egress (h : SameInOrder pfx gws targets) (hv : gws.Valid) {sel : String}
    (hsel : LookedUp pfx gws targets sel) {t u : Target} (ht : t ∈ targets) (hu : u ∈ targets)
    (hmatch : isMatch sel t = true) (hmatch' : isMatch sel u = true) :
    t.addrs.find? IpAddr.isIpv4 = u.addrs.find? IpAddr.isIpv4 := by
  obtain ⟨gp, hgp, hegress⟩ : ∃ gp ∈ (compile targets pfx gws).gateways,
      gp.gateway.egress = { container := some sel } := by
    have hmerged : ∃ g ∈ (merge pfx gws targets).1, g.egress = { container := some sel } := by
      rcases hsel with ⟨g, hg, hc⟩ | ⟨v, hv', name, hnew, hdecl, rfl⟩
      · refine ⟨g, mem_merge_iff.2 (Or.inl hg), ?_⟩
        rcases (hv.gateways g hg).egress_cases with ⟨i, he⟩ | ⟨c, he⟩ | ⟨nh, he⟩
        · simp [he] at hc
        · rw [he] at hc ⊢
          rw [Option.some.inj hc]
        · simp [he] at hc
      · obtain ⟨w, hw⟩ := Option.isSome_iff_exists.1 (List.find?_isSome.2 ⟨v, hv', hdecl⟩)
        obtain ⟨hname, g, hok⟩ := declaresAs_iff.1 hdecl
        obtain ⟨hname', g', hok'⟩ := declaresAs_iff.1 (List.find?_some hw)
        obtain ⟨g'', hok'', hsame⟩ :=
          h.declared hv.names v hv' w (List.mem_of_find?_eq_some hw) name
          hnew hname hname' g hok
        obtain rfl : g' = g'' := Except.ok.inj (hok'.symm.trans hok'')
        obtain ⟨-, hgname, -⟩ := discoveredGateway_ok hok'
        refine ⟨g', mem_merge_iff.2 (Or.inr ?_), ?_⟩
        · rw [hgname]
          exact ⟨hnew, w, hw, hok'⟩
        · rw [← hsame.egress, (discoveredGateway_ok hok).2.2]
    obtain ⟨g, hg, hegress⟩ := hmerged
    exact ⟨_, (mem_gateways_compile hv.names).2 ⟨g, hg, rfl⟩, hegress⟩
  -- whoever is meant and comes first gives the egress
  have hfirst : ∀ v ∈ targets, isMatch sel v = true → ∀ ip,
      v.addrs.find? IpAddr.isIpv4 = some ip ↔ gp.egress = .nextHop ip := by
    intro v hv' hm ip
    obtain ⟨rest, hperm⟩ := exists_perm_cons hv'
    obtain ⟨gp', hgp', hsame⟩ := (h _ hperm).left gp hgp
    have hegress' : gp'.gateway.egress = { container := some sel } := by
      rw [← hsame.gateway.egress, hegress]
    have hip : gatewayContainerIp sel (v :: rest) = v.addrs.find? IpAddr.isIpv4 := by
      rw [gatewayContainerIp, List.find?_cons_of_pos hm, Option.bind_some]
    rw [hsame.egress, egress_eq hgp', resolveEgress_eq_nextHop hegress', hip]
  ext ip
  exact (hfirst t ht hmatch ip).trans (hfirst u hu hmatch' ip).symm

/-- The plan is the same in every order of the containers exactly when there is no choice that the
order makes. -/
theorem compile_perm_iff (hvalid : gws.validate = .ok ())
    (hnodup : (targets.map (·.name)).Nodup) :
    SameInOrder pfx gws targets ↔ NoChoice pfx gws targets := by
  have hv := Gateways.validate_eq_ok.1 hvalid
  refine ⟨fun h => ⟨h.declared hv.names, ?_, fun sel hsel t ht u hu => h.egress hv hsel ht hu⟩,
    fun h targets' hperm => h.same hperm hv.names⟩
  by_cases hconf : ∃ g ∈ gws, g.default = true
  · exact Or.inl hconf
  · by_cases hnobody : ∀ t ∈ targets, gatewayName pfx t.labels = none →
        optIn pfx t.labels ≠ some none
    · exact Or.inr (Or.inr hnobody)
    · push Not at hnobody
      obtain ⟨t₀, ht₀, hgw, hopt⟩ := hnobody
      exact Or.inr (Or.inl fun t ht u hu =>
        h.default hv.names hnodup hconf ht₀ hgw hopt ht hu)

omit [Libraries] in
/-- Where one container declares the only default, the order does not matter. -/
theorem sameInOrder_defaultTargets :
    @SameInOrder .plain "degc" (torGateways false) defaultTargets := by
  refine (@compile_perm_iff .plain "degc" (torGateways false) defaultTargets (by decide)
    (by decide)).2 (@NoChoice.mk .plain _ _ _ ?_ (Or.inr (Or.inl ?_)) ?_)
  · intro t ht u hu name _ hname hname' g hok
    obtain rfl : t = u := by
      have hone : ∀ t ∈ defaultTargets, gatewayName "degc" t.labels = some name →
          t.name = "gluetun" := by
        intro t ht hname
        have hall : ∀ t ∈ defaultTargets, (gatewayName "degc" t.labels).isSome = true →
            t.name = "gluetun" := by decide
        exact hall t ht (by rw [hname]; rfl)
      refine List.inj_on_of_nodup_map (f := Target.name) (by decide) ht hu ?_
      rw [hone t ht hname, hone u hu hname']
    exact ⟨g, hok, .refl g⟩
  · rintro t ht u hu ⟨-, -, -, hdefault⟩ ⟨-, -, -, hdefault'⟩
    have hone : ∀ t ∈ defaultTargets, knob "degc" t.labels "default" = some "true" →
        gatewayName "degc" t.labels = some "vpn" := by decide
    rw [hone t ht hdefault, hone u hu hdefault']
  · rintro sel (⟨g, hg, hsel⟩ | ⟨v, hv, name, -, hdecl, rfl⟩)
    · have hnone : ∀ g ∈ torGateways false, g.egress.container = none := by decide
      rw [hnone g hg] at hsel
      exact absurd hsel (by simp)
    · have hone : ∀ v ∈ defaultTargets, (gatewayName "degc" v.labels).isSome = true →
          egressContainer v = "gluetun" := by decide
      rw [hone v hv (by rw [((@declaresAs_iff .plain _ _ _).1 hdecl).1]; rfl)]
      decide

/-- Two containers that declare default gateways, and one that asks for the default. -/
def twoDefaults : List Target :=
  [.ofLists "gluetun" [("degc.gateway", "vpn"), ("degc.gateway.default", "true")]
      [("services", [.v4 0xac120002])],
    .ofLists "onion" [("degc.gateway", "tor"), ("degc.gateway.default", "true")]
      [("services", [.v4 0xac120003])],
    .ofLists "app" [("degc.enable", "true")] [("services", [.v4 0xac120007])]]

omit [Libraries] in
/-- The first of two containers that declare default gateways decides for the third one. -/
theorem not_sameInOrder : (twoDefaults.map (·.name)).Nodup ∧
    twoDefaults.reverse.Perm twoDefaults ∧
    ((@compile .plain twoDefaults "degc" []).gateways.map fun gp =>
      (gp.gateway.name, gp.memberNames.toList)) = [("vpn", ["app"]), ("tor", [])] ∧
    ((@compile .plain twoDefaults.reverse "degc" []).gateways.map fun gp =>
      (gp.gateway.name, gp.memberNames.toList)) = [("tor", ["app"]), ("vpn", [])] ∧
    ¬ (@compile .plain twoDefaults "degc" []).Same
      (@compile .plain twoDefaults.reverse "degc" []) := by
  refine ⟨by decide, List.reverse_perm _, by decide, by decide, fun hsame => ?_⟩
  have hvpn : ∃ gp ∈ (@compile .plain twoDefaults "degc" []).gateways,
      gp.gateway.name = "vpn" ∧ "app" ∈ gp.memberNames :=
    ⟨_, List.getElem_mem (show 0 < _ by decide), by decide, by decide⟩
  have hnot : ∀ gp' ∈ (@compile .plain twoDefaults.reverse "degc" []).gateways,
      gp'.gateway.name = "vpn" → "app" ∉ gp'.memberNames := by decide
  obtain ⟨gp, hgp, hname, hin⟩ := hvpn
  obtain ⟨gp', hgp', hgs⟩ := hsame.left gp hgp
  exact hnot gp' hgp' (hgs.gateway.name.symm.trans hname)
    ((hgs.memberNames "app").1 hin)

end Plan

end Degc
