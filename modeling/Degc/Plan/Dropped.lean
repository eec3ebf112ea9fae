import Degc.Plan.Partition

/-!
# A gateway lost to a malformed knob

Two snapshots that differ in the knob labels of one gateway container, which are
malformed in the first and well-formed in the second.  The merged gateways of the
second are those of the first with the gateway put back (`merge_restored`), which
changes what a container without an explicit choice resolves to
(`resolve_restored_iff`, `selecting_restored_iff`).

The main result is `dropped_gateway_iff`, when no container is routed in the first
snapshot differently than in the second.
-/

namespace Degc.Plan

open Net
open Std (TreeMap)

variable [Libraries] {pfx : String} {gws : Gateways}

/-! ### Putting a gateway back -/

/-- Gateways with one put back behind the first ones; a later one of the same name, which it
displaces, is left out. -/
def putBack (known rest : List Gateway) (g : Gateway) : List Gateway :=
  known ++ g :: rest.filter (·.name ≠ g.name)

omit [Libraries] in
lemma mem_names_putBack {known rest : List Gateway} {g : Gateway} {name : String} :
    name ∈ (putBack known rest g).map (·.name) ↔
      name ∈ (known ++ rest).map (·.name) ∨ name = g.name := by
  simp only [putBack, List.mem_map, List.mem_append, List.mem_cons, List.mem_filter]
  constructor
  · rintro ⟨a, ha | rfl | ⟨ha, -⟩, rfl⟩
    · exact Or.inl ⟨a, Or.inl ha, rfl⟩
    · exact Or.inr rfl
    · exact Or.inl ⟨a, Or.inr ha, rfl⟩
  · rintro (⟨a, ha | ha, rfl⟩ | rfl)
    · exact ⟨a, Or.inl ha, rfl⟩
    · by_cases h : a.name = g.name
      · exact ⟨g, Or.inr (Or.inl rfl), h.symm⟩
      · exact ⟨a, Or.inr (Or.inr ⟨ha, by simpa using h⟩), rfl⟩
    · exact ⟨g, Or.inr (Or.inl rfl), rfl⟩

lemma declared_congr {known known' : List Gateway} {t : Target}
    (h : ∀ name, gatewayName pfx t.labels = some name →
      (name ∈ known.map (·.name) ↔ name ∈ known'.map (·.name))) :
    declared pfx known t = declared pfx known' t := by
  rw [declared, declared]
  cases hname : gatewayName pfx t.labels with
  | none => rfl
  | some name =>
      have hany : known.any (·.name == name) = known'.any (·.name == name) := by
        rw [Bool.eq_iff_iff, any_name_eq, any_name_eq]
        exact h name hname
      simp only [hany]

/-- The gateways merged from two snapshots that differ in one container, which declares a gateway
in the second only. -/
lemma merge_restored {before : List Target} (after : List Target) {t t' : Target} {g : Gateway}
    (hnone : declared pfx (merge pfx gws before).1 t = none)
    (hsome : declared pfx (merge pfx gws before).1 t' = some g) :
    ∃ rest, (merge pfx gws (before ++ t :: after)).1 = (merge pfx gws before).1 ++ rest ∧
      (merge pfx gws (before ++ t' :: after)).1 = putBack (merge pfx gws before).1 rest g := by
  set known := (merge pfx gws before).1
  simp only [merge_append, List.foldl_cons]
  refine List.foldl_rel
    (r := fun d d' : Discovery => ∃ rest, d.1 = known ++ rest ∧ d'.1 = putBack known rest g)
    ⟨[], by rw [discover_fst, hnone]; rfl, by rw [discover_fst, hsome]; rfl⟩ ?_
  rintro u - d d' ⟨rest, hd, hd'⟩
  rw [discover_fst, discover_fst, hd, hd']
  by_cases hname : gatewayName pfx u.labels = some g.name
  · -- the name is taken in the second snapshot, and what the first one adds is left out there
    have hrhs : declared pfx (putBack known rest g) u = none := by
      have hmem : g.name ∈ (putBack known rest g).map (·.name) :=
        mem_names_putBack.2 (Or.inr rfl)
      simp [declared, hname, any_name_eq.2 hmem]
    rw [hrhs]
    cases hlhs : declared pfx (known ++ rest) u with
    | none => exact ⟨rest, by simp, by simp⟩
    | some g' =>
        obtain ⟨hname', -, -⟩ := declared_eq_some.1 hlhs
        have hg' : g'.name = g.name := Option.some.inj (hname'.symm.trans hname)
        exact ⟨rest ++ [g'], by simp, by simp [putBack, hg']⟩
  · have hcongr : declared pfx (putBack known rest g) u = declared pfx (known ++ rest) u := by
      refine declared_congr fun name h => ?_
      rw [mem_names_putBack, or_iff_left]
      exact fun he => hname (he ▸ h)
    rw [hcongr]
    cases hlhs : declared pfx (known ++ rest) u with
    | none => exact ⟨rest, by simp, by simp⟩
    | some g' =>
        obtain ⟨hname', -, -⟩ := declared_eq_some.1 hlhs
        have hne : g'.name ≠ g.name := fun he => hname (he ▸ hname')
        exact ⟨rest ++ [g'], by simp, by simp [putBack, hne]⟩

/-! ### What the gateway changes -/

section Change

variable {known rest : List Gateway} {g d : Gateway}

omit [Libraries] in
/-- The default choice, with no default among the first gateways. -/
lemma resolve_append_none {gs : List Gateway} (hknown : known.find? (·.default) = none) :
    Gateways.resolve (known ++ gs) none =
      (gs.find? (·.default)).or
        (if (known ++ gs).length = 1 then (known ++ gs).head? else none) := by
  simp only [Gateways.resolve, List.find?_append, hknown, Option.none_or]

omit [Libraries] in
lemma resolve_append_some {gs : List Gateway} (hknown : known.find? (·.default) = some d) :
    Gateways.resolve (known ++ gs) none = some d := by
  simp only [Gateways.resolve, List.find?_append, hknown, Option.some_or]

omit [Libraries] in
/-- Leaving out another name does not change which gateway is the first default. -/
lemma find?_default_filter (hd : rest.find? (·.default) = some d) (hne : d.name ≠ g.name) :
    (rest.filter (·.name ≠ g.name)).find? (·.default) = some d := by
  obtain ⟨hdef, before, after, rfl, hbefore⟩ := List.find?_eq_some_iff_append.1 hd
  rw [List.filter_append, List.filter_cons_of_pos (by simpa using hne), List.find?_append,
    List.find?_cons_of_pos hdef, List.find?_eq_none.2, Option.none_or]
  intro a ha
  simpa using hbefore a (List.mem_filter.1 ha).1

omit [Libraries] in
/-- When the gateway put back is the choice although it is not marked as the default, the one it
displaces was the sole gateway. -/
lemma eq_singleton_of_displaced (hnodup : ((known ++ rest).map (·.name)).Nodup) (hd : d ∈ rest)
    {d' : Gateway}
    (hchoice : ((rest.filter (·.name ≠ g.name)).find? (·.default)).or
      (if (known ++ g :: rest.filter (·.name ≠ g.name)).length = 1 then
        (known ++ g :: rest.filter (·.name ≠ g.name)).head? else none) = some d')
    (hname' : d'.name = g.name) : known ++ rest = [d] := by
  rcases Option.or_eq_some_iff.1 hchoice with hmarked | ⟨-, hsole⟩
  · have hne := (List.mem_filter.1 (List.mem_of_find?_eq_some hmarked)).2
    exact absurd hname' (by simpa using hne)
  · obtain ⟨hlen, -⟩ := Option.ite_none_right_eq_some.1 hsole
    rw [List.length_append, List.length_cons] at hlen
    obtain rfl : known = [] := List.length_eq_zero_iff.1 (by omega)
    have hnil : rest.filter (·.name ≠ g.name) = [] := List.length_eq_zero_iff.1 (by omega)
    have hall : ∀ a ∈ rest, a.name = g.name := by simpa using hnil
    rcases rest with _ | ⟨a, _ | ⟨b, rest⟩⟩
    · simp at hd
    · rw [List.nil_append, List.mem_singleton.1 hd]
    · have hab : a.name = b.name := (hall a (by simp)).trans (hall b (by simp)).symm
      simp [hab] at hnodup

omit [Libraries] in
/-- With a gateway put back, the default choice falls on a gateway of the same name exactly when
it was marked as the default before the gateway, or is displaced by the gateway as the default,
or was marked as the default and the gateway is not. -/
lemma resolve_restored_iff (hnodup : ((known ++ rest).map (·.name)).Nodup)
    (hnew : g.name ∉ known.map (·.name)) (hd : Gateways.resolve (known ++ rest) none = some d) :
    (∃ d', Gateways.resolve (putBack known rest g) none = some d' ∧ d'.name = d.name) ↔
      if d.name = g.name then g.default = true ∨ known ++ rest = [d]
      else d.default = true ∧ (d ∈ known ∨ g.default = false) := by
  cases hknown : known.find? (·.default) with
  | some k =>
      obtain rfl : k = d := Option.some.inj ((resolve_append_some hknown).symm.trans hd)
      have hmem : k ∈ known := List.mem_of_find?_eq_some hknown
      have hdef : k.default = true := by simpa using List.find?_some hknown
      have hne : k.name ≠ g.name := fun h => hnew (List.mem_map.2 ⟨k, hmem, h⟩)
      simp [putBack, resolve_append_some hknown, hne, hdef, hmem]
  | none =>
      have hfresh : d.default = true → d ∉ known := fun hdef hmem =>
        List.find?_eq_none.1 hknown d hmem hdef
      rw [putBack, resolve_append_none hknown]
      rw [resolve_append_none hknown] at hd
      by_cases hg : g.default = true
      · -- the gateway put back is the default
        rw [List.find?_cons_of_pos hg, Option.some_or]
        by_cases hn : d.name = g.name
        · simp [hn, hg]
        · simpa [hn, hg, Ne.symm hn] using hfresh
      · rw [List.find?_cons_of_neg hg]
        cases hrest : rest.find? (·.default) with
        | some r =>
            obtain rfl : r = d := by simpa [hrest] using hd
            have hdef : r.default = true := by simpa using List.find?_some hrest
            have hmem : r ∈ rest := List.mem_of_find?_eq_some hrest
            by_cases hn : r.name = g.name
            · -- the displaced gateway was the default: only a sole gateway stays the choice
              simp only [hn, if_true, hg, Bool.false_eq_true, false_or]
              constructor
              · rintro ⟨d', hd', hname⟩
                exact eq_singleton_of_displaced hnodup hmem hd' hname
              · intro h
                obtain ⟨rfl, rfl⟩ : known = [] ∧ rest = [r] := by
                  rcases List.append_eq_singleton_iff.1 h with ⟨hk, hr⟩ | ⟨hk, hr⟩
                  · exact ⟨hk, hr⟩
                  · exact absurd hmem (by simp [hr])
                exact ⟨g, by simp [hn], rfl⟩
            · rw [find?_default_filter hrest hn]
              simp [hn, hdef, hg]
        | none =>
            -- the choice was the sole gateway
            obtain ⟨hlen, hhead⟩ : (known ++ rest).length = 1 ∧ (known ++ rest).head? = some d := by
              simpa [hrest] using hd
            obtain ⟨a, hsole⟩ := List.length_eq_one_iff.1 hlen
            obtain rfl : a = d := by simpa [hsole] using hhead
            rcases List.append_eq_singleton_iff.1 hsole with ⟨rfl, rfl⟩ | ⟨rfl, rfl⟩
            · have hdef : a.default = false := by simpa using hrest
              by_cases hn : a.name = g.name <;> simp [hn, hg, hdef]
            · have hdef : a.default = false := by simpa using hknown
              have hn : a.name ≠ g.name := fun h => hnew (by simp [h])
              simp [hn, hdef]

omit [Libraries] in
/-- The only gateway that claims a container by selectors stays the only one, by name, when a
gateway is put back exactly when that gateway claims the container if and only if it displaces
the first. -/
lemma selecting_restored_iff (hnew : g.name ∉ known.map (·.name)) {c : Target}
    (hd : selecting (known ++ rest) c = [d]) :
    (∃ d', selecting (putBack known rest g) c = [d'] ∧ d'.name = d.name) ↔
      (g.members.any (selectorMatches · c.labels) = true ↔ d.name = g.name) := by
  have hput : selecting (putBack known rest g) c =
      selecting known c ++
        (if g.members.any (selectorMatches · c.labels) = true then [g] else []) ++
        (selecting rest c).filter (·.name ≠ g.name) := by
    simp only [selecting, putBack, List.filter_append, List.filter_cons, List.filter_filter,
      Bool.and_comm]
    split <;> simp
  have happend : selecting (known ++ rest) c = selecting known c ++ selecting rest c :=
    List.filter_append ..
  rw [hput]
  rcases List.append_eq_singleton_iff.1 (happend.symm.trans hd) with ⟨hk, hr⟩ | ⟨hk, hr⟩
  · rw [hk, hr]
    by_cases hn : d.name = g.name
    · by_cases hg : g.members.any (selectorMatches · c.labels) = true <;> simp [hg, hn]
    · by_cases hg : g.members.any (selectorMatches · c.labels) = true <;> simp [hg, hn]
  · have hn : d.name ≠ g.name := by
      have hmem : d ∈ selecting known c := by rw [hk]; exact List.mem_singleton_self d
      exact fun h => hnew (List.mem_map.2 ⟨d, (List.mem_filter.1 hmem).1, h⟩)
    rw [hk, hr]
    by_cases hg : g.members.any (selectorMatches · c.labels) = true <;> simp [hg, hn]

omit [Libraries] in
/-- When the outcome of a container that is no gateway container is kept as a gateway is put
back. -/
lemma outcome_restored_iff (hnodup : ((known ++ rest).map (·.name)).Nodup)
    (hnew : g.name ∉ known.map (·.name)) {c : Target} (hc : gatewayName pfx c.labels = none) :
    (∀ h, outcome pfx (known ++ rest) c = .member h →
        outcome pfx (putBack known rest g) c = .member h) ↔
      (optIn pfx c.labels = some none → ∀ d, Gateways.resolve (known ++ rest) none = some d →
        if d.name = g.name then g.default = true ∨ known ++ rest = [d]
        else d.default = true ∧ (d ∈ known ∨ g.default = false)) ∧
      (optIn pfx c.labels = none → ∀ d, selecting (known ++ rest) c = [d] →
        (g.members.any (selectorMatches · c.labels) = true ↔ d.name = g.name)) := by
  simp only [outcome_eq_member, Routes, hc, true_and]
  rcases hopt : optIn pfx c.labels with _ | _ | via
  · simp only [reduceCtorEq, false_implies, true_and, true_implies]
    constructor
    · exact fun hkeep d hd => (selecting_restored_iff hnew hd).1 (hkeep _ ⟨d, hd, rfl⟩)
    · rintro hcond h ⟨d, hd, rfl⟩
      exact (selecting_restored_iff hnew hd).2 (hcond d hd)
  · simp only [reduceCtorEq, false_implies, and_true, true_implies]
    constructor
    · exact fun hkeep d hd => (resolve_restored_iff hnodup hnew hd).1 (hkeep _ ⟨d, hd, rfl⟩)
    · rintro hcond h ⟨d, hd, rfl⟩
      exact (resolve_restored_iff hnodup hnew hd).2 (hcond d hd)
  · -- an explicit choice finds a gateway of its name in both
    simp only [reduceCtorEq, Option.some.injEq, false_implies, and_self, iff_true]
    rintro h ⟨d, hd, rfl⟩
    have hvia : d.name = via := by simpa using List.find?_some hd
    have hmem : via ∈ (putBack known rest g).map (·.name) :=
      mem_names_putBack.2 (Or.inl (List.mem_map.2 ⟨d, List.mem_of_find?_eq_some hd, hvia⟩))
    obtain ⟨d', hd', hname⟩ := List.mem_map.1 hmem
    cases hfind : Gateways.resolve (putBack known rest g) (some via) with
    | none => exact absurd (List.find?_eq_none.1 hfind d' hd') (by simp [hname])
    | some d'' =>
        have hname' : d''.name = via := by simpa using List.find?_some hfind
        exact ⟨d'', rfl, hname'.trans hvia.symm⟩

end Change

/-! ### Malformed knobs -/

/-- The fields of the knob labels. -/
def knobFields : List String := ["snat", "mark", "table", "localSubnets", "default", "members"]

/-- A container with other knob labels. -/
structure SameButKnobs (pfx : String) (t t' : Target) : Prop where
  name : t'.name = t.name
  networks : t'.networks = t.networks
  labels : ∀ k, (∀ f ∈ knobFields, k ≠ s!"{pfx}.gateway.{f}") → t'.labels[k]? = t.labels[k]?

omit [Libraries] in
lemma SameButKnobs.names_eq {t t' : Target} (h : SameButKnobs pfx t t')
    (before after : List Target) :
    (before ++ t' :: after).map (·.name) = (before ++ t :: after).map (·.name) := by
  simp [h.name]

lemma mem_routedBy {targets : List Target} (h : (gws.map (·.name)).Nodup)
    (hnodup : (targets.map (·.name)).Nodup) {c : Target} (hc : c ∈ targets) {name : String} :
    name ∈ (compile targets pfx gws).routedBy c ↔
      outcome pfx (merge pfx gws targets).1 c = .member name := by
  rw [routedBy_compile h hnodup hc]
  cases outcome pfx (merge pfx gws targets).1 c <;> simp [eq_comm]

/-- For two snapshots that differ in the knob labels of one gateway container, malformed in the
first and well-formed in the second: every container the first routes is routed by a gateway of
the same name in the second exactly when the name of the gateway is taken by an earlier one, or
neither the default choice nor a selector falls differently once the gateway is there. -/
theorem dropped_gateway_iff (hvalid : gws.validate = .ok ()) {before after : List Target}
    {t t' : Target} (hnodup : ((before ++ t :: after).map (·.name)).Nodup)
    (hsame : SameButKnobs pfx t t') {name : String}
    (hname : gatewayName pfx t.labels = some name)
    (hname' : gatewayName pfx t'.labels = some name) {e : String}
    (herror : discoveredGateway pfx name (egressContainer t) t.labels = .error e) {g : Gateway}
    (hok : discoveredGateway pfx name (egressContainer t') t'.labels = .ok g) :
    (∀ c ∈ before ++ t :: after, gatewayName pfx c.labels = none →
      ∀ h ∈ (compile (before ++ t :: after) pfx gws).routedBy c,
        h ∈ (compile (before ++ t' :: after) pfx gws).routedBy c) ↔
      name ∈ (merge pfx gws before).1.map (·.name) ∨
      ∀ c ∈ before ++ t :: after, gatewayName pfx c.labels = none →
        (optIn pfx c.labels = some none → ∀ d,
          Gateways.resolve (merge pfx gws (before ++ t :: after)).1 none = some d →
            if d.name = name then g.default = true ∨ (merge pfx gws (before ++ t :: after)).1 = [d]
            else d.default = true ∧ (d ∈ (merge pfx gws before).1 ∨ g.default = false)) ∧
        (optIn pfx c.labels = none → ∀ d,
          selecting (merge pfx gws (before ++ t :: after)).1 c = [d] →
            (g.members.any (selectorMatches · c.labels) = true ↔ d.name = name)) := by
  have hnames := (Gateways.validate_eq_ok.1 hvalid).names
  have hnodup' : ((before ++ t' :: after).map (·.name)).Nodup :=
    hsame.names_eq before after ▸ hnodup
  obtain ⟨-, rfl, -⟩ := discoveredGateway_ok hok
  -- a container that is no gateway container is in both snapshots
  have hmem : ∀ c ∈ before ++ t :: after, gatewayName pfx c.labels = none →
      c ∈ before ++ t' :: after := by
    intro c hc hgw
    rw [List.mem_append, List.mem_cons] at hc ⊢
    rcases hc with hc | rfl | hc
    · exact Or.inl hc
    · exact absurd (hname.symm.trans hgw) (by simp)
    · exact Or.inr (Or.inr hc)
  have hroutes : (∀ c ∈ before ++ t :: after, gatewayName pfx c.labels = none →
      ∀ h ∈ (compile (before ++ t :: after) pfx gws).routedBy c,
        h ∈ (compile (before ++ t' :: after) pfx gws).routedBy c) ↔
      ∀ c ∈ before ++ t :: after, gatewayName pfx c.labels = none → ∀ h,
        outcome pfx (merge pfx gws (before ++ t :: after)).1 c = .member h →
          outcome pfx (merge pfx gws (before ++ t' :: after)).1 c = .member h :=
    forall_congr' fun c => forall_congr' fun hc => forall_congr' fun hgw => by
      simp only [mem_routedBy hnames hnodup hc, mem_routedBy hnames hnodup' (hmem c hc hgw)]
  rw [hroutes]
  by_cases hknown : g.name ∈ (merge pfx gws before).1.map (·.name)
  · -- the name is taken: neither snapshot adds a gateway here
    have hskip : ∀ u, gatewayName pfx u.labels = some g.name →
        discover pfx (merge pfx gws before) u = merge pfx gws before := by
      intro u hu
      simp only [discover, hu, any_name_eq.2 hknown, if_true]
    have heq : merge pfx gws (before ++ t' :: after) = merge pfx gws (before ++ t :: after) := by
      simp only [merge_append, List.foldl_cons, hskip t hname, hskip t' hname']
    simp [heq, hknown]
  · have hnone : declared pfx (merge pfx gws before).1 t = none := by
      simp [declared, hname, herror, Except.toOption]
    have hsome : declared pfx (merge pfx gws before).1 t' = some g :=
      declared_eq_some.2 ⟨hname', hknown, hok⟩
    obtain ⟨rest, hrest, hput⟩ := merge_restored after hnone hsome
    have hdistinct : ((merge pfx gws (before ++ t :: after)).1.map (·.name)).Nodup :=
      nodup_names_merge hnames
    rw [hrest] at hdistinct
    rw [hrest, hput, or_iff_right hknown]
    exact forall_congr' fun c => forall_congr' fun _ => forall_congr' fun hgw =>
      outcome_restored_iff hdistinct hknown hgw

/-- A configured gateway. -/
def configuredGateways (default : Bool) : Gateways :=
  [{ name := "vpn", egress := { interface := some "wg0" }, default := default }]

/-- A gateway container with a table label. -/
def tableTarget (table : String) : Target :=
  .ofLists "gluetun" [("degc.gateway", "work"), ("degc.gateway.table", table)]
    [("services", [.v4 0xac120002])]

/-- A container that opts in without a choice. -/
def enabledTarget : Target :=
  .ofLists "app" [("degc.enable", "true")] [("services", [.v4 0xac120007])]

/-- The message about the malformed table label. -/
def tableError : String := "gateway \"work\": bad table label \"x\": invalid digit found in string"

/-- The gateway that the well-formed labels declare. -/
def tableGateway : Gateway :=
  { name := "work", egress := { container := some "gluetun" }, table := some 200 }

omit [Libraries] in
lemma sameButKnobs_tableTarget (table table' : String) :
    SameButKnobs "degc" (tableTarget table) (tableTarget table') := by
  refine ⟨rfl, rfl, fun k hk => ?_⟩
  have hne : "degc.gateway.table" ≠ k := fun h => hk "table" (by decide) (by rw [← h]; decide)
  simp [tableTarget, Target.ofLists, TreeMap.ofList_cons, TreeMap.getElem?_insert, hne]

omit [Libraries] in
/-- With a default in the configuration, losing the other gateway changes no route. -/
theorem dropped_gateway_default :
    @Gateways.validate .plain (configuredGateways true) = .ok () ∧
      ∀ c ∈ [enabledTarget] ++ tableTarget "x" :: [], gatewayName "degc" c.labels = none →
        ∀ h ∈ (@compile .plain ([enabledTarget] ++ tableTarget "x" :: []) "degc"
            (configuredGateways true)).routedBy c,
          h ∈ (@compile .plain ([enabledTarget] ++ tableTarget "200" :: []) "degc"
            (configuredGateways true)).routedBy c := by
  refine ⟨by decide, (@dropped_gateway_iff .plain "degc" (configuredGateways true) (by decide)
    [enabledTarget] [] (tableTarget "x") (tableTarget "200") (by decide)
    (sameButKnobs_tableTarget "x" "200") "work" (by decide) (by decide) tableError rfl
    tableGateway rfl).2 (Or.inr fun c hc hgw => ⟨fun _ d hd => ?_, fun hopt d hd => ?_⟩)⟩
  · obtain rfl : (configuredGateways true)[0] = d := Option.some.inj hd
    exact ⟨rfl, Or.inl (List.mem_singleton_self _)⟩
  · exact absurd hd (by
      rw [List.cons_append, List.nil_append, List.mem_cons, List.mem_singleton] at hc
      rcases hc with rfl | rfl
      · exact absurd hopt (by decide)
      · exact absurd hgw (by decide))

omit [Libraries] in
/-- Without one, the container that would be unresolved goes to the gateway that is left. -/
theorem dropped_gateway_misroutes :
    @Gateways.validate .plain (configuredGateways false) = .ok () ∧
      SameButKnobs "degc" (tableTarget "x") (tableTarget "200") ∧
      @discoveredGateway .plain "degc" "work" "gluetun" (tableTarget "x").labels
        = .error tableError ∧
      @discoveredGateway .plain "degc" "work" "gluetun" (tableTarget "200").labels
        = .ok tableGateway ∧
      (@compile .plain [enabledTarget, tableTarget "x"] "degc"
        (configuredGateways false)).routedBy enabledTarget = ["vpn"] ∧
      (@compile .plain [enabledTarget, tableTarget "200"] "degc"
        (configuredGateways false)).routedBy enabledTarget = [] :=
  ⟨by decide, sameButKnobs_tableTarget "x" "200", rfl, rfl, by decide, by decide⟩

end Degc.Plan
