import Degc.Plan
import Degc.Api.Valid

/-!
# The merged gateways

The loop that takes self-declared gateways into the configured ones only ever
appends.  `declared` is what one container adds to the gateways known so far,
`merge_invariant` the induction over the loop; the facts about the merged set
(its names are distinct, its gateways are valid, each is configured or declared
by a container) are instances of it.
-/

namespace Degc.Plan

open Net Text

variable [Libraries] {pfx : String} {gws : Gateways} {targets : List Target}

/-- The gateway a container adds to the gateways known so far. -/
def declared (pfx : String) (known : List Gateway) (t : Target) : Option Gateway :=
  match gatewayName pfx t.labels with
  | none => none
  | some name =>
      if known.any (·.name == name) then none
      else (discoveredGateway pfx name (egressContainer t) t.labels).toOption

omit [Libraries] in
lemma any_name_eq {known : List Gateway} {name : String} :
    known.any (·.name == name) = true ↔ name ∈ known.map (·.name) := by
  simp [List.any_eq_true]

lemma discover_fst (d : Discovery) (t : Target) :
    (discover pfx d t).1 = d.1 ++ (declared pfx d.1 t).toList := by
  simp only [discover, declared]
  cases gatewayName pfx t.labels with
  | none => simp
  | some name =>
      cases hknown : d.1.any (·.name == name) with
      | true => simp [hknown]
      | false =>
          cases hg : discoveredGateway pfx name (egressContainer t) t.labels <;>
            simp [hknown, hg, Except.toOption]

lemma declared_eq_some {known : List Gateway} {t : Target} {g : Gateway} :
    declared pfx known t = some g ↔
      gatewayName pfx t.labels = some g.name ∧ g.name ∉ known.map (·.name) ∧
        discoveredGateway pfx g.name (egressContainer t) t.labels = .ok g := by
  constructor
  · intro h
    simp only [declared] at h
    cases hname : gatewayName pfx t.labels with
    | none => simp [hname] at h
    | some name =>
        rw [hname] at h
        simp only [Option.ite_none_left_eq_some, any_name_eq] at h
        obtain ⟨hnew, hg⟩ := h
        have hok : discoveredGateway pfx name (egressContainer t) t.labels = .ok g := by
          cases hd : discoveredGateway pfx name (egressContainer t) t.labels with
          | error e => simp [hd, Except.toOption] at hg
          | ok g' => simpa [hd, Except.toOption] using hg
        obtain ⟨-, rfl, -⟩ := discoveredGateway_ok hok
        exact ⟨rfl, hnew, hok⟩
  · rintro ⟨hname, hnew, hok⟩
    have hknown : ¬ known.any (·.name == g.name) = true := fun h => hnew (any_name_eq.1 h)
    simp [declared, hname, hknown, hok, Except.toOption]

/-- Going through further containers. -/
lemma merge_append (ts us : List Target) :
    merge pfx gws (ts ++ us) = us.foldl (discover pfx) (merge pfx gws ts) := by
  simp [merge, List.foldl_append]

/-- What holds of the configured gateways and is kept by every declared one holds of the
merged gateways. -/
theorem merge_invariant {P : List Gateway → Prop} (h0 : P gws)
    (hstep : ∀ known t g, t ∈ targets → P known → declared pfx known t = some g →
      P (known ++ [g])) : P (merge pfx gws targets).1 := by
  induction targets using List.reverseRecOn with
  | nil => exact h0
  | append_singleton ts t ih =>
      have hts : P (merge pfx gws ts).1 :=
        ih fun known t' g ht' => hstep known t' g (List.mem_append_left _ ht')
      rw [merge_append, List.foldl_cons, List.foldl_nil, discover_fst]
      cases hd : declared pfx (merge pfx gws ts).1 t with
      | none => simpa using hts
      | some g => exact hstep _ t g (by simp) hts hd

/-- The configured gateways come first, unchanged and in order. -/
lemma isPrefix_merge : gws <+: (merge pfx gws targets).1 :=
  merge_invariant (P := fun known => gws <+: known) (List.prefix_refl gws)
    fun _ _ _ _ h _ => h.trans (List.prefix_append _ _)

/-- Every merged gateway is configured, or declared by a container. -/
lemma mem_merge {g : Gateway} (hg : g ∈ (merge pfx gws targets).1) :
    g ∈ gws ∨ ∃ t ∈ targets, gatewayName pfx t.labels = some g.name ∧
      discoveredGateway pfx g.name (egressContainer t) t.labels = .ok g := by
  refine merge_invariant (P := fun known => ∀ g ∈ known, g ∈ gws ∨ ∃ t ∈ targets,
    gatewayName pfx t.labels = some g.name ∧
      discoveredGateway pfx g.name (egressContainer t) t.labels = .ok g)
    (fun g hg => Or.inl hg) (fun known t g' ht ih hd g hg => ?_) g hg
  rcases List.mem_append.1 hg with hg | hg
  · exact ih g hg
  · obtain rfl := List.mem_singleton.1 hg
    obtain ⟨hname, -, hok⟩ := declared_eq_some.1 hd
    exact Or.inr ⟨t, ht, hname, hok⟩

/-- The names of the merged gateways are distinct. -/
lemma nodup_names_merge (h : (gws.map (·.name)).Nodup) :
    ((merge pfx gws targets).1.map (·.name)).Nodup := by
  refine merge_invariant (P := fun known => (known.map (·.name)).Nodup) h
    fun known t g _ ih hd => ?_
  obtain ⟨-, hnew, -⟩ := declared_eq_some.1 hd
  rw [List.map_append, List.map_cons, List.map_nil, List.nodup_append]
  refine ⟨ih, List.nodup_singleton _, fun a ha b hb hab => hnew ?_⟩
  rw [List.mem_singleton] at hb
  exact hb ▸ hab ▸ ha

/-- The merged gateways are valid. -/
lemma valid_of_mem_merge (h : ∀ g ∈ gws, g.Valid) {g : Gateway}
    (hg : g ∈ (merge pfx gws targets).1) : g.Valid := by
  rcases mem_merge hg with hg | ⟨_, -, -, hok⟩
  · exact h g hg
  · exact (discoveredGateway_ok hok).1

/-! ### Which declarations are taken -/

/-- Whether a container declares a gateway of a name, with knobs that are well-formed. -/
def declaresAs (pfx name : String) (t : Target) : Bool :=
  gatewayName pfx t.labels == some name &&
    (discoveredGateway pfx name (egressContainer t) t.labels).isOk

/-- The first container that declares a gateway of a name, with knobs that are well-formed. -/
def firstDeclaring (pfx : String) (targets : List Target) (name : String) : Option Target :=
  targets.find? (declaresAs pfx name)

omit [Libraries] in
lemma isOk_iff {α : Type} {r : Except String α} : r.isOk = true ↔ ∃ a, r = .ok a := by
  cases r <;> simp [Except.isOk, Except.toBool]

lemma declaresAs_iff {name : String} {t : Target} :
    declaresAs pfx name t = true ↔ gatewayName pfx t.labels = some name ∧
      ∃ g, discoveredGateway pfx name (egressContainer t) t.labels = .ok g := by
  rw [declaresAs, Bool.and_eq_true, beq_iff_eq, isOk_iff]

/-- The merged gateways are the configured ones and, for each name that is not configured, the one
of the first container that declares it. -/
theorem mem_merge_iff {g : Gateway} : g ∈ (merge pfx gws targets).1 ↔
    g ∈ gws ∨ g.name ∉ gws.map (·.name) ∧ ∃ t, firstDeclaring pfx targets g.name = some t ∧
      discoveredGateway pfx g.name (egressContainer t) t.labels = .ok g := by
  induction targets using List.reverseRecOn generalizing g with
  | nil => simp [merge, firstDeclaring]
  | append_singleton ts t ih =>
      -- a name is taken when it is configured or declared before
      have htaken : ∀ name, name ∈ ((merge pfx gws ts).1.map (·.name)) ↔
          name ∈ gws.map (·.name) ∨ (firstDeclaring pfx ts name).isSome = true := by
        intro name
        rw [List.mem_map]
        constructor
        · rintro ⟨g', hg', rfl⟩
          rcases ih.1 hg' with hg' | ⟨-, u, hu, -⟩
          · exact Or.inl (List.mem_map_of_mem hg')
          · exact Or.inr (by rw [hu]; rfl)
        · intro h
          by_cases hconf : name ∈ gws.map (·.name)
          · obtain ⟨g', hg', hname⟩ := List.mem_map.1 hconf
            exact ⟨g', ih.2 (Or.inl hg'), hname⟩
          · obtain ⟨u, hu⟩ := Option.isSome_iff_exists.1 (h.resolve_left hconf)
            obtain ⟨-, g', hg'⟩ := declaresAs_iff.1 (List.find?_some hu)
            obtain ⟨-, hname, -⟩ := discoveredGateway_ok hg'
            subst hname
            exact ⟨g', ih.2 (Or.inr ⟨hconf, u, hu, hg'⟩), rfl⟩
      have hfind : firstDeclaring pfx (ts ++ [t]) g.name =
          (firstDeclaring pfx ts g.name).or (if declaresAs pfx g.name t then some t else none) := by
        rw [firstDeclaring, List.find?_append, List.find?_singleton]
        rfl
      rw [merge_append, List.foldl_cons, List.foldl_nil, discover_fst, List.mem_append,
        Option.mem_toList, declared_eq_some, ih, htaken, hfind]
      cases hts : firstDeclaring pfx ts g.name with
      | some u => simp
      | none =>
          constructor
          · rintro (hold | ⟨hname, hnew, hok⟩)
            · exact Or.inl (by simpa using hold)
            · have hdecl : declaresAs pfx g.name t = true := declaresAs_iff.2 ⟨hname, g, hok⟩
              exact Or.inr ⟨fun h => hnew (Or.inl h), t, by simp [hdecl], hok⟩
          · rintro (hold | ⟨hnew, u, hu, hok⟩)
            · exact Or.inl (Or.inl hold)
            · rw [Option.none_or, Option.ite_none_right_eq_some] at hu
              obtain ⟨hdecl, hsome⟩ := hu
              obtain rfl := Option.some.inj hsome
              exact Or.inr ⟨(declaresAs_iff.1 hdecl).1, by simpa using hnew, hok⟩

omit [Libraries] in
/-- Two gateways of one name are the same one. -/
lemma eq_of_name_eq {gs : Gateways} (h : (gs.map (·.name)).Nodup) {g g' : Gateway} (hg : g ∈ gs)
    (hg' : g' ∈ gs) (hname : g.name = g'.name) : g = g' :=
  List.inj_on_of_nodup_map h hg hg' hname

omit [Libraries] in
/-- Looking up the name of a gateway finds the gateway. -/
lemma resolve_name {gs : Gateways} (h : (gs.map (·.name)).Nodup) {g : Gateway} (hg : g ∈ gs) :
    Gateways.resolve gs (some g.name) = some g := by
  cases hfind : gs.find? (·.name == g.name) with
  | none =>
      rw [List.find?_eq_none] at hfind
      exact absurd (by simp) (hfind g hg)
  | some g' =>
      have hname : g'.name = g.name := by simpa using List.find?_some hfind
      rw [Gateways.resolve, hfind, eq_of_name_eq h (List.mem_of_find?_eq_some hfind) hg hname]

omit [Libraries] in
/-- A resolved gateway is one of the gateways. -/
lemma mem_of_resolve {gs : Gateways} {via : Option String} {g : Gateway}
    (h : Gateways.resolve gs via = some g) : g ∈ gs := by
  cases via with
  | some name => exact List.mem_of_find?_eq_some h
  | none =>
      rw [Gateways.resolve, Option.or_eq_some_iff] at h
      rcases h with h | ⟨-, h⟩
      · exact List.mem_of_find?_eq_some h
      · split at h
        · exact List.mem_of_head? h
        · exact absurd h (by simp)

end Degc.Plan
