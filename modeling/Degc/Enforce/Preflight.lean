import Degc.Enforce.Commands

/-!
# What the check looks for

The check before a host is changed reads the lines in which the host shows its
rules and routes.  Put in terms of the rules and routes themselves, it passes
exactly when no gateway has a foreign route in its table, and no rule sends the
mark of a gateway to a table that is not shown by the number of the gateway's
(`preflight_eq_ok`).
-/

namespace Degc.Route

open Net Text Fib Iproute

variable [Libraries]

/-! ### Routes -/

omit [Libraries] in
/-- No foreign route is found among the lines of routes that have the protocol tag. -/
lemma foreignRoute_eq_none (routes : List Route) (hdev : ∀ r ∈ routes, ∀ d ∈ r.hop.oif, IsWord d) :
    foreignRoute (unlines (routes.map showRoute)) = none ↔ ∀ r ∈ routes, r.proto = 194 := by
  have hlines : ∀ l ∈ routes.map showRoute, IsLine l := by
    intro l hl
    obtain ⟨r, hr, rfl⟩ := List.mem_map.1 hl
    exact isLine_unwords (isWord_routeWords (hdev r hr))
  have hline : ∀ r ∈ routes, (trim (showRoute r) ≠ "" ∧
      contains (trim (showRoute r)) s!"proto {rtProto}" = false) ↔ r.proto ≠ 194 := by
    intro r hr
    have hwords := isWord_routeWords (hdev r hr)
    have hne : showRoute r ≠ "" := by
      intro hempty
      have hread := words_unwords hwords
      rw [show unwords (routeWords r) = "" from hempty, words_empty] at hread
      exact routeWords_ne_nil r hread.symm
    rw [showRoute, trim_unwords hwords, ← showRoute, and_iff_right hne, ← Bool.not_eq_true]
    exact not_congr (contains_proto_iff (hdev r hr))
  rw [foreignRoute, lines_unlines hlines, List.find?_eq_none]
  constructor
  · intro h r hr
    have hfound := h (trim (showRoute r)) (List.mem_map_of_mem (List.mem_map_of_mem hr))
    by_contra hproto
    exact hfound (by simpa using (hline r hr).2 hproto)
  · intro h l hl hfound
    rw [List.map_map, List.mem_map] at hl
    obtain ⟨r, hr, rfl⟩ := hl
    exact (hline r hr).1 (by simpa using hfound) (h r hr)

/-! ### Rules -/

omit [Libraries] in
/-- The numeral of a table is how a table is shown, unless it is one that has a name. -/
lemma tableName_eq_repr {t n : ℕ} :
    tableName t = n.repr ↔ t = n ∧ t ≠ 253 ∧ t ≠ 254 ∧ t ≠ 255 := by
  have hne : ∀ s, readDigits 10 s = none → s ≠ n.repr := by
    rintro s hs rfl
    simp at hs
  simp only [tableName]
  split_ifs with h1 h2 h3
  · exact ⟨fun h => absurd h (hne _ (by decide)), fun h => absurd h1 h.2.2.2⟩
  · exact ⟨fun h => absurd h (hne _ (by decide)), fun h => absurd h2 h.2.2.1⟩
  · exact ⟨fun h => absurd h (hne _ (by decide)), fun h => absurd h3 h.2.1⟩
  · exact ⟨fun h => ⟨repr_injective h, h3, h2, h1⟩, fun h => by rw [h.1]⟩

omit [Libraries] in
lemma wordAfter_cons_self (w : String) (ws : List String) : wordAfter w (w :: ws) = ws.head? := by
  simp [wordAfter]

omit [Libraries] in
lemma wordAfter_cons_of_ne {w x : String} (h : x ≠ w) (ws : List String) :
    wordAfter w (x :: ws) = wordAfter w ws := by
  simp [wordAfter, h]

omit [Libraries] in
/-- The line of a rule conflicts with a mark and a table when the rule is for the mark and shows
another table. -/
lemma isConflicting_showRule {r : Rule} {v t : ℕ} :
    isConflicting ("0x" ++ hex v) t.repr (showRule r) = true ↔
      ∃ m, r.mark = some (v, m) ∧ tableName r.table ≠ t.repr := by
  -- the first word is the priority with a colon, so no key word
  have hprio : ∀ w : String, w.toList.getLast? ≠ some ':' → r.prio.repr ++ ":" ≠ w := by
    rintro w h rfl
    simp at h
  have hfwmark := hprio "fwmark" (by decide)
  have hlookup := hprio "lookup" (by decide)
  rw [isConflicting, words_showRule, ruleWords]
  rcases r.mark with _ | ⟨v', m⟩
  · have htable : "fwmark" ≠ tableName r.table := by
      simp only [tableName]
      split_ifs
      · decide
      · decide
      · decide
      · intro h
        -- a table without a name is shown by its number
        have hread := readDigits_repr r.table
        rw [← h] at hread
        exact absurd hread (by simp [show readDigits 10 "fwmark" = none by decide])
    simp [hfwmark.symm, htable]
  · have hmark : showMark v' m ≠ "lookup" := by
      intro h
      have hhead : (showMark v' m).toList.head? = some '0' := by simp [showMark]
      rw [h] at hhead
      exact absurd hhead (by decide)
    have hinj : "0x" ++ hex v' = "0x" ++ hex v ↔ v' = v := by
      refine ⟨fun h => ?_, fun h => by rw [h]⟩
      have hread := congrArg readNumber h
      simpa using hread
    simp only [List.cons_append, List.nil_append]
    rw [wordAfter_cons_of_ne hfwmark, wordAfter_cons_of_ne (by decide),
      wordAfter_cons_of_ne (by decide), wordAfter_cons_self, wordAfter_cons_of_ne hlookup,
      wordAfter_cons_of_ne (by decide), wordAfter_cons_of_ne (by decide),
      wordAfter_cons_of_ne (by decide), wordAfter_cons_of_ne hmark, wordAfter_cons_self]
    simp [split_showMark, hinj]

omit [Libraries] in
/-- No conflict is found when no line is one. -/
lemma conflictingFwmarkRule_unlines {ls : List String} (h : ∀ l ∈ ls, IsLine l)
    (mark table : String) : conflictingFwmarkRule (unlines ls) mark table = none ↔
      ∀ l ∈ ls, ¬ isConflicting mark table l = true := by
  rw [conflictingFwmarkRule, lines_unlines h, Option.map_eq_none_iff, List.find?_eq_none]

omit [Libraries] in
/-- No rule conflicts with a mark and a table when all rules for the mark show this table. -/
lemma conflictingFwmarkRule_eq_none (rules : List Rule) (v t : ℕ) :
    conflictingFwmarkRule (unlines (rules.map showRule)) ("0x" ++ hex v) t.repr = none ↔
      ∀ r ∈ rules, ∀ m, r.mark = some (v, m) → r.table = t ∧ t ≠ 253 ∧ t ≠ 254 ∧ t ≠ 255 := by
  have hlines : ∀ l ∈ rules.map showRule, IsLine l := by
    simpa using fun r _ => isLine_showRule r
  rw [conflictingFwmarkRule_unlines hlines, List.forall_mem_map]
  refine forall_congr' fun r => forall_congr' fun _ => ?_
  simp only [isConflicting_showRule, not_exists, not_and, not_not, tableName_eq_repr]
  refine forall_congr' fun m => forall_congr' fun _ => and_congr_right fun htable => ?_
  rw [htable]

/-! ### The check -/

/-- What the check says of one gateway: its table has no foreign IPv4 route, and the rules for
its mark are for its table, which has no name of its own. -/
structure Free (f : Fib) (gp : GatewayPlan) : Prop where
  routes : ∀ r ∈ f.routes, r.table = tableOf gp → r.dst.addr.isIpv4 = true → r.proto = 194
  rules : ∀ r ∈ f.rules, ∀ m, r.mark = some (Nft.markOf gp, m) →
    r.table = tableOf gp ∧ tableOf gp ≠ 253 ∧ tableOf gp ≠ 254 ∧ tableOf gp ≠ 255

lemma checkGuard_eq_ok {ipShow : List String → String} {rules mark table : String} :
    checkGuard ipShow rules mark table = .ok () ↔
      foreignRoute (ipShow ["-o", "route", "show", "table", table]) = none ∧
        conflictingFwmarkRule rules mark table = none := by
  rw [checkGuard]
  cases foreignRoute (ipShow ["-o", "route", "show", "table", table]) with
  | some foreign => simp
  | none => cases conflictingFwmarkRule rules mark table <;> simp

/-- The check passes exactly when every gateway is free to use its table and its mark. -/
theorem preflight_eq_ok {h : Host} (hdev : ∀ r ∈ h.fib.routes, ∀ d ∈ r.hop.oif, IsWord d)
    {gps : List GatewayPlan} :
    Env.preflight h (gps.map fun gp => (markText gp, gp.gateway.tableId)) = .ok () ↔
      ∀ gp ∈ gps, Free h.fib gp := by
  rw [Env.preflight, preflight, list_forM_eq_ok, List.forall_mem_map]
  refine forall_congr' fun gp => forall_congr' fun _ => ?_
  set own := h.fib.routes.filter fun r => r.table == tableOf gp && r.dst.addr.isIpv4 with hown
  have hshown : shown ["-o", "route", "show", "table", (tableOf gp).repr] h.fib =
      some (unlines (own.map showRoute)) := by
    simp [shown, hown]
  have hroutes := foreignRoute_eq_none own fun r hr =>
    hdev r (List.mem_filter.1 hr).1
  have hrules := conflictingFwmarkRule_eq_none h.fib.rules (Nft.markOf gp) (tableOf gp)
  rw [← markText_eq] at hrules
  refine checkGuard_eq_ok.trans ?_
  change foreignRoute ((shown ["-o", "route", "show", "table", (tableOf gp).repr] h.fib).getD "")
    = none ∧ conflictingFwmarkRule (unlines (h.fib.rules.map showRule)) (markText gp)
      (tableOf gp).repr = none ↔ _
  rw [hshown, Option.getD_some, hroutes, hrules]
  refine ⟨fun hf => ⟨fun r hr ht h4 => ?_, hf.2⟩, fun hf => ⟨fun r hr => ?_, hf.rules⟩⟩
  · exact hf.1 r (List.mem_filter.2 ⟨hr, by simp [ht, h4]⟩)
  · obtain ⟨hmem, hr⟩ := List.mem_filter.1 hr
    simp only [Bool.and_eq_true, beq_iff_eq] at hr
    exact hf.routes r hmem hr.1 hr.2

end Degc.Route
