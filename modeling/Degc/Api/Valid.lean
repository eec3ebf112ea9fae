import Degc.Api.V1alpha1

/-!
# What validation guarantees

The error-reporting checks of the configuration as propositions: a check passes
exactly when its proposition holds.  `Gateway.Valid` is what the check of one
gateway says, `Gateways.Valid` what the check of a whole configuration says, and
`Gateways.RoutesApart` what the check of the routing identities says, of a
configuration as well as of a merged set of gateways.
-/

namespace Degc

open Net Text
open Std (TreeMap TreeSet)

/-! ### Checks that may fail -/

section Checks

variable {α β : Type}

lemma bind_eq_ok {r : Except String α} {f : α → Except String β} {b : β} :
    r >>= f = .ok b ↔ ∃ a, r = .ok a ∧ f a = .ok b := by
  cases r with
  | error e => simp [bind, Except.bind]
  | ok a => simp [bind, Except.bind]

@[simp] lemma ensure_eq_ok {c : Bool} {message : String} {u : Unit} :
    ensure c message = .ok u ↔ c = true := by
  cases c <;> simp [ensure]

@[simp] lemma withContext_eq_ok {context : String} {r : Except String α} {a : α} :
    withContext context r = .ok a ↔ r = .ok a := by
  cases r <;> simp [withContext, Except.mapError]

lemma pure_eq_ok {a b : α} : (pure a : Except String α) = .ok b ↔ a = b := by
  simp [pure, Except.pure]

lemma option_forM_eq_ok {o : Option α} {f : α → Except String Unit} {u : Unit} :
    o.forM f = .ok u ↔ ∀ a, o = some a → f a = .ok () := by
  cases o with
  | none => simp [Option.forM, pure_eq_ok]
  | some a => simp [Option.forM]

lemma list_forM_eq_ok {l : List α} {f : α → Except String Unit} {u : Unit} :
    l.forM f = .ok u ↔ ∀ a ∈ l, f a = .ok () := by
  induction l with
  | nil => simp [List.forM, pure_eq_ok]
  | cons a l ih =>
      rw [List.forall_mem_cons]
      refine bind_eq_ok.trans ⟨?_, ?_⟩
      · rintro ⟨_, ha, hl⟩
        exact ⟨ha, ih.1 hl⟩
      · rintro ⟨ha, hl⟩
        exact ⟨(), ha, ih.2 hl⟩

end Checks

variable [Libraries]

/-! ### One gateway -/

/-- What the validation of a gateway says about it. -/
structure Gateway.Valid (g : Gateway) : Prop where
  kinds : g.egress.kinds = 1
  mark : ∀ m, g.mark = some m → ∃ v, parseMark m = .ok v ∧ v ≠ 0
  table : ∀ t, g.table = some t → 0 < t
  interface : ∀ iface, g.egress.interface = some iface → validIfname iface = true
  nextHop : ∀ nh, g.egress.nextHop = some nh → (parseIp nh).isSome = true
  localSubnets : ∀ s ∈ g.localSubnets, ∃ n, Libraries.networkFromStr s = .ok n
  members : ∀ sel ∈ g.members, sel.isEmpty = false

theorem Gateway.validate_eq_ok {g : Gateway} {u : Unit} : g.validate = .ok u ↔ g.Valid := by
  simp only [Gateway.validate, bind_eq_ok, ensure_eq_ok, withContext_eq_ok, option_forM_eq_ok,
    list_forM_eq_ok, pure_eq_ok, beq_iff_eq, bne_iff_ne, decide_eq_true_eq, Bool.not_eq_true',
    exists_const, and_true]
  constructor
  · rintro ⟨hkinds, hmark, htable, hiface, hnh, hlocal, hmembers⟩
    exact ⟨hkinds, hmark, htable, hiface, hnh, hlocal, hmembers⟩
  · rintro ⟨hkinds, hmark, htable, hiface, hnh, hlocal, hmembers⟩
    exact ⟨hkinds, hmark, htable, hiface, hnh, hlocal, hmembers⟩

/-- The effective mark as a number. -/
def Gateway.effectiveMark (g : Gateway) : UInt32 := g.markValue.toOption.getD 0

lemma Gateway.effectiveMark_of_ok {g : Gateway} {v : UInt32} (h : g.markValue = .ok v) :
    g.effectiveMark = v := by
  rw [effectiveMark, h]
  rfl

omit [Libraries] in
lemma autoMark_ne_zero (name : String) : autoMark name ≠ 0 := by
  intro h
  have hlt : (fnv1a name % 0xE000).toNat < 0xE000 := by
    rw [UInt32.toNat_mod]
    exact Nat.mod_lt _ (by decide)
  have h0 := congrArg UInt32.toNat h
  simp only [autoMark, UInt32.toNat_add] at h0
  have h1 : (0x1000 : UInt32).toNat = 0x1000 := rfl
  have h2 : (0 : UInt32).toNat = 0 := rfl
  omega

omit [Libraries] in
lemma autoTable_pos (name : String) : 0 < autoTable name := by
  have hlt : (fnv1a name % 1000).toNat < 1000 := by
    rw [UInt32.toNat_mod]
    exact Nat.mod_lt _ (by decide)
  rw [UInt32.lt_iff_toNat_lt, autoTable, UInt32.toNat_add]
  have h1 : (5000 : UInt32).toNat = 5000 := rfl
  have h2 : (0 : UInt32).toNat = 0 := rfl
  omega

/-- A valid gateway has an effective mark, and it is not zero. -/
lemma Gateway.Valid.markValue {g : Gateway} (h : g.Valid) :
    g.markValue = .ok g.effectiveMark ∧ g.effectiveMark ≠ 0 := by
  have hex : ∃ v, g.markValue = .ok v ∧ v ≠ 0 := by
    cases hm : g.mark with
    | none =>
        refine ⟨autoMark g.name, ?_, autoMark_ne_zero g.name⟩
        rw [Gateway.markValue, hm]
    | some m =>
        obtain ⟨v, hv, hv0⟩ := h.mark m hm
        refine ⟨v, ?_, hv0⟩
        rw [Gateway.markValue, hm]
        exact withContext_eq_ok.2 hv
  obtain ⟨v, hv, hv0⟩ := hex
  rw [Gateway.effectiveMark_of_ok hv]
  exact ⟨hv, hv0⟩

/-- The effective table of a valid gateway is not zero. -/
lemma Gateway.Valid.tableId {g : Gateway} (h : g.Valid) : 0 < g.tableId := by
  rw [Gateway.tableId]
  cases ht : g.table with
  | none => exact autoTable_pos g.name
  | some t => exact h.table t ht

/-- The egress of a valid gateway is of exactly one kind. -/
lemma Gateway.Valid.egress_cases {g : Gateway} (h : g.Valid) :
    (∃ i, g.egress = ⟨some i, none, none⟩) ∨ (∃ c, g.egress = ⟨none, some c, none⟩) ∨
      ∃ nh, g.egress = ⟨none, none, some nh⟩ := by
  have hk := h.kinds
  generalize g.egress = e at hk
  obtain ⟨i, c, nh⟩ := e
  rcases i with _ | i <;> rcases c with _ | c <;> rcases nh with _ | nh <;>
    simp [CfgEgress.kinds] at hk ⊢

/-! ### Routing identities -/

/-- No two gateways share an effective mark or table. -/
structure Gateways.RoutesApart (gs : Gateways) : Prop where
  marks_ok : ∀ g ∈ gs, g.markValue = .ok g.effectiveMark
  marks : (gs.map (·.effectiveMark)).Nodup
  tables : (gs.map (·.tableId)).Nodup

lemma Gateways.routesApart_cons {g : Gateway} {gs : Gateways} :
    Gateways.RoutesApart (g :: gs) ↔ g.markValue = .ok g.effectiveMark ∧
      (∀ g' ∈ gs, g'.effectiveMark ≠ g.effectiveMark ∧ g'.tableId ≠ g.tableId) ∧
      Gateways.RoutesApart gs := by
  constructor
  · rintro ⟨hok, hmarks, htables⟩
    rw [List.map_cons, List.nodup_cons, List.mem_map, not_exists] at hmarks htables
    obtain ⟨hg, hgs⟩ := List.forall_mem_cons.1 hok
    exact ⟨hg, fun g' hg' => ⟨fun h => hmarks.1 g' ⟨hg', h⟩, fun h => htables.1 g' ⟨hg', h⟩⟩,
      hgs, hmarks.2, htables.2⟩
  · rintro ⟨hg, hne, hgs, hmarks, htables⟩
    refine ⟨List.forall_mem_cons.2 ⟨hg, hgs⟩, List.nodup_cons.2 ⟨fun hmem => ?_, hmarks⟩,
      List.nodup_cons.2 ⟨fun hmem => ?_, htables⟩⟩
    · obtain ⟨g', hg', h⟩ := List.mem_map.1 hmem
      exact (hne g' hg').1 h
    · obtain ⟨g', hg', h⟩ := List.mem_map.1 hmem
      exact (hne g' hg').2 h

omit [Libraries] in
lemma getElem?_insert_eq_none {m : TreeMap UInt32 String} {k a : UInt32} {v : String} :
    (m.insert k v)[a]? = none ↔ a ≠ k ∧ m[a]? = none := by
  simp only [TreeMap.getElem?_insert, Std.LawfulEqOrd.compare_eq_iff_eq]
  split
  · next h => simp [h]
  · next h => simp [Ne.symm h]

lemma checkUniqueRoutingFrom_eq_ok {marks tables : TreeMap UInt32 String} {gs : List Gateway}
    {u : Unit} :
    checkUniqueRoutingFrom marks tables gs = .ok u ↔
      Gateways.RoutesApart gs ∧ ∀ g ∈ gs, marks[g.effectiveMark]? = none ∧
        tables[g.tableId]? = none := by
  induction gs generalizing marks tables with
  | nil => simp [checkUniqueRoutingFrom, Gateways.RoutesApart.mk]
  | cons g gs ih =>
      rw [checkUniqueRoutingFrom, bind_eq_ok, Gateways.routesApart_cons, List.forall_mem_cons]
      constructor
      · rintro ⟨v, hv, hrest⟩
        rw [← Gateway.effectiveMark_of_ok hv] at hrest hv
        cases hm : marks[g.effectiveMark]? with
        | some other => simp [hm] at hrest
        | none =>
            cases ht : tables[g.tableId]? with
            | some other => simp [hm, ht] at hrest
            | none =>
                simp only [hm, ht, ih, getElem?_insert_eq_none] at hrest
                obtain ⟨hap, hfree⟩ := hrest
                exact ⟨⟨hv, fun g' hg' => ⟨(hfree g' hg').1.1, (hfree g' hg').2.1⟩, hap⟩,
                  ⟨rfl, rfl⟩, fun g' hg' => ⟨(hfree g' hg').1.2, (hfree g' hg').2.2⟩⟩
      · rintro ⟨⟨hv, hne, hap⟩, ⟨hm, ht⟩, hfree⟩
        refine ⟨g.effectiveMark, hv, ?_⟩
        simp only [hm, ht, ih, getElem?_insert_eq_none]
        exact ⟨hap, fun g' hg' => ⟨⟨(hne g' hg').1, (hfree g' hg').1⟩,
          ⟨(hne g' hg').2, (hfree g' hg').2⟩⟩⟩

/-- The check of the routing identities passes exactly when they are apart. -/
theorem checkUniqueRouting_eq_ok {gs : List Gateway} {u : Unit} :
    checkUniqueRouting gs = .ok u ↔ Gateways.RoutesApart gs := by
  simp [checkUniqueRouting, checkUniqueRoutingFrom_eq_ok]

/-! ### A configuration -/

/-- What the validation of a configuration says about it. -/
structure Gateways.Valid (gs : Gateways) : Prop where
  gateways : ∀ g ∈ gs, g.Valid
  names : (gs.map (·.name)).Nodup
  default : (gs.filter (·.default)).length ≤ 1
  apart : gs.RoutesApart

lemma Gateways.validateFrom_eq_ok {seen : TreeMap String Unit} {defaults n : ℕ} {gs : Gateways} :
    validateFrom seen defaults gs = .ok n ↔
      (∀ g ∈ gs, g.Valid) ∧ (gs.map (·.name)).Nodup ∧ (∀ g ∈ gs, seen.contains g.name = false) ∧
        n = defaults + (gs.filter (·.default)).length := by
  induction gs generalizing seen defaults with
  | nil => simpa [validateFrom] using eq_comm
  | cons g gs ih =>
      have hcount : defaults + ((g :: gs).filter (·.default)).length
          = defaults + g.default.toNat + (gs.filter (·.default)).length := by
        rw [List.filter_cons]
        cases g.default
        · rfl
        · rw [if_pos rfl, List.length_cons, Bool.toNat_true]
          omega
      have hseen : (∀ g' ∈ gs, (seen.insert g.name ()).contains g'.name = false) ↔
          g.name ∉ gs.map (·.name) ∧ ∀ g' ∈ gs, seen.contains g'.name = false := by
        simp only [TreeMap.contains_insert, Bool.or_eq_false_iff, beq_eq_false_iff_ne, ne_eq,
          Std.LawfulEqOrd.compare_eq_iff_eq, List.mem_map, not_exists, not_and]
        exact ⟨fun h => ⟨fun g' hg' he => (h g' hg').1 he.symm, fun g' hg' => (h g' hg').2⟩,
          fun h g' hg' => ⟨fun he => h.1 g' hg' he.symm, h.2 g' hg'⟩⟩
      simp only [validateFrom, bind_eq_ok, Gateway.validate_eq_ok, ensure_eq_ok,
        Bool.not_eq_true', exists_const, ih, List.forall_mem_cons, List.map_cons, List.nodup_cons,
        hcount, hseen]
      tauto

theorem Gateways.validate_eq_ok {gs : Gateways} {u : Unit} : gs.validate = .ok u ↔ gs.Valid := by
  simp only [Gateways.validate, bind_eq_ok, validateFrom_eq_ok, ensure_eq_ok, decide_eq_true_eq,
    exists_const, checkUniqueRouting_eq_ok, TreeMap.contains_emptyc]
  constructor
  · rintro ⟨_, ⟨hvalid, hnames, -, rfl⟩, hdefault, hapart⟩
    exact ⟨hvalid, hnames, by simpa using hdefault, hapart⟩
  · rintro ⟨hvalid, hnames, hdefault, hapart⟩
    exact ⟨_, ⟨hvalid, hnames, by simp, rfl⟩, by simpa using hdefault, hapart⟩

/-- A parsed document is a valid configuration. -/
theorem parseGateways_valid {fromStr : String → Except String (List Gateway)} {text : String}
    {gs : Gateways} (h : parseGateways fromStr text = .ok gs) : gs.Valid := by
  simp only [parseGateways, bind_eq_ok, withContext_eq_ok, pure_eq_ok] at h
  obtain ⟨_, -, _, hvalid, rfl⟩ := h
  exact Gateways.validate_eq_ok.1 hvalid

/-- Every valid configuration is the parse of the document it is read from. -/
theorem parseGateways_of_valid {gs : Gateways} (h : gs.Valid) (text : String) :
    parseGateways (fun _ => .ok gs) text = .ok gs := by
  simp only [parseGateways, bind_eq_ok, withContext_eq_ok, pure_eq_ok]
  exact ⟨gs, rfl, (), Gateways.validate_eq_ok.2 h, rfl⟩

/-- A discovered gateway is valid, has the name it was declared under and the given
container as its egress. -/
theorem discoveredGateway_ok {pfx name egressContainer : String} {labels : Labels} {g : Gateway}
    (h : discoveredGateway pfx name egressContainer labels = .ok g) :
    g.Valid ∧ g.name = name ∧ g.egress = { container := some egressContainer } := by
  simp only [discoveredGateway, bind_eq_ok, pure_eq_ok] at h
  obtain ⟨_, -, _, hvalid, rfl⟩ := h
  exact ⟨Gateway.validate_eq_ok.1 hvalid, rfl, rfl⟩

end Degc
