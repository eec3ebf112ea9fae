import Degc.Api.Valid

/-!
# The knobs of a gateway container

How each knob of a gateway container is to be written, as a relation between its
text and its value, against what the readers of the knobs accept.  The main result
`strict_iff` says for which labels a gateway is accepted exactly when all of its
knobs are well formed, and then has their values.
-/

namespace Degc

open Net Text
open Std (TreeMap)

section Rel

variable {α β : Type} {R R' : α → β → Prop} {o : Option α}

lemma rel_imp {a : Option β} (h : Option.Rel R o a) (hR : ∀ x y, R x y → R' x y) :
    Option.Rel R' o a := by
  cases h with
  | none => exact .none
  | some h => exact .some (hR _ _ h)

lemma exists_of_rel_some {b : β} (h : Option.Rel R o (some b)) : ∃ a, o = some a ∧ R a b := by
  cases h with
  | some h => exact ⟨_, rfl, h⟩

/-- A value for an optional text exists when there is one for the text. -/
lemma exists_rel_iff : (∃ b, Option.Rel R o b) ↔ ∀ a, o = some a → ∃ b, R a b := by
  constructor
  · rintro ⟨_, h⟩ a rfl
    cases h with
    | some h => exact ⟨_, h⟩
  · intro h
    cases o with
    | none => exact ⟨none, .none⟩
    | some a =>
        obtain ⟨b, hb⟩ := h a rfl
        exact ⟨some b, .some hb⟩

end Rel

/-! ### How knobs are written -/

/-- A boolean as it is written. -/
def WritesBool (s : String) (b : Bool) : Prop := s = "true" ∧ b = true ∨ s = "false" ∧ b = false

/-- A mark as it is written: in decimal, or in hexadecimal behind `0x`, and not zero. -/
def WritesMark (s : String) (v : UInt32) : Prop :=
  v ≠ 0 ∧ (DenotesU32 10 s v ∨ ∃ h : String, s.toList = "0x".toList ++ h.toList ∧ DenotesU32 16 h v)

/-- A table as it is written: in decimal, and above zero. -/
def WritesTable (s : String) (v : UInt32) : Prop := 0 < v ∧ DenotesU32 10 s v

/-- A clause of a selector as it is written: a key, which is not empty, and a value. -/
def WritesClause (s : String) (clause : String × String) : Prop :=
  clause.1 ≠ "" ∧ ∃ k v : String, s.toList = k.toList ++ '=' :: v.toList ∧ '=' ∉ k.toList ∧
    clause = (trim k, trim v)

/-- A selector as it is written: clauses with different keys, between commas. -/
def WritesClauses (s : String) (clauses : List (String × String)) : Prop :=
  List.Forall₂ WritesClause (split ',' s) clauses ∧ (clauses.map (·.1)).Nodup

variable [Libraries]

/-- A list of networks as it is written: between commas, where blank pieces are left out. -/
def WritesSubnets (s : String) (texts : List String) : Prop :=
  texts = ((split ',' s).map trim).filter (· ≠ "") ∧
    ∀ t ∈ texts, ∃ n, Libraries.networkFromStr t = .ok n

/-- The values of the knobs of a gateway container. -/
structure Knobs where
  snat : Option Bool
  mark : Option UInt32
  table : Option UInt32
  localSubnets : Option (List String)
  default : Option Bool
  members : Option (List (String × String))

/-- The knobs that are present are written as their values, and the others have none. -/
structure Knobs.ReadFrom (field : String → Option String) (k : Knobs) : Prop where
  snat : Option.Rel WritesBool (field "snat") k.snat
  mark : Option.Rel WritesMark (field "mark") k.mark
  table : Option.Rel WritesTable (field "table") k.table
  localSubnets : Option.Rel WritesSubnets (field "localSubnets") k.localSubnets
  default : Option.Rel WritesBool (field "default") k.default
  members : Option.Rel WritesClauses (field "members") k.members

/-- A selector has the clauses of a list: it is the map of them, and matches no container that
lacks one. -/
structure Selector.HasClauses (sel : Selector) (clauses : List (String × String)) : Prop where
  getElem? : ∀ key value, sel[key]? = some value ↔ (key, value) ∈ clauses
  matching : ∀ labels, selectorMatches sel labels = true →
    ∀ clause ∈ clauses, labels[clause.1]? = some clause.2

/-- A gateway has the values of its knobs. -/
structure Gateway.Denotes (g : Gateway) (name egressContainer : String) (k : Knobs) : Prop where
  name : g.name = name
  egress : g.egress = { container := some egressContainer }
  snat : g.snat = k.snat
  mark : g.markValue = .ok (k.mark.getD (autoMark g.name))
  table : g.table = k.table
  localSubnets : g.localSubnets = k.localSubnets.getD []
  default : g.default = k.default.getD false
  members : List.Forall₂ Selector.HasClauses g.members k.members.toList

/-- A gateway is accepted exactly when its knobs are well formed, and then has their values. -/
def Strict (pfx name egressContainer : String) (labels : Labels) : Prop :=
  ((∃ g, discoveredGateway pfx name egressContainer labels = .ok g) ↔
      ∃ k, Knobs.ReadFrom (knob pfx labels) k) ∧
    ∀ g, discoveredGateway pfx name egressContainer labels = .ok g →
      ∀ k, Knobs.ReadFrom (knob pfx labels) k → g.Denotes name egressContainer k

/-! ### Reading them -/

omit [Libraries] in
lemma trim_knob {pfx field s : String} {labels : Labels} (h : knob pfx labels field = some s) :
    trim s = s := by
  obtain ⟨t, -, rfl⟩ := Option.map_eq_some_iff.1 h
  exact trim_trim t

lemma parseMark_eq_ok {s : String} {v : UInt32} (h : trim s = s) :
    parseMark s = .ok v ↔ DenotesU32 10 s v ∨
      ∃ h : String, s.toList = "0x".toList ++ h.toList ∧ DenotesU32 16 h v := by
  rw [parseMark, h]
  cases hstrip : stripBeginning "0x" s with
  | none =>
      have hread : parseU32 10 s = .ok v ↔ DenotesU32 10 s v :=
        parseU32_eq_ok (by decide) (by decide)
      refine Iff.trans ?_ (hread.trans (or_iff_left ?_).symm)
      · cases parseU32 10 s <;> simp [Except.toOption]
      · rintro ⟨t, ht, -⟩
        simp [stripBeginning_eq_some.2 ht] at hstrip
  | some t =>
      have hs := stripBeginning_eq_some.1 hstrip
      have hread : parseU32 16 t = .ok v ↔ DenotesU32 16 t v :=
        parseU32_eq_ok (by decide) (by decide)
      refine Iff.trans ?_ (hread.trans ⟨fun ht => Or.inr ⟨t, hs, ht⟩, ?_⟩)
      · dsimp only
        cases parseU32 16 t <;> simp [Except.toOption]
      · rintro (⟨cs, -, hcs | hcs, hread⟩ | ⟨t', ht', hread⟩)
        · rw [← hcs, hs] at hread
          simp [readDigitsFrom, digitVal] at hread
        · rw [hs] at hcs
          simp at hcs
        · rw [hs, List.append_cancel_left_eq, String.toList_inj] at ht'
          exact ht' ▸ hread

/-- A `table` knob is read when it is a numeral. -/
lemma tableKnob_eq_ok {name : String} {o : Option String} {table : Option UInt32} :
    tableKnob name o = .ok table ↔ Option.Rel (DenotesU32 10) o table := by
  cases o with
  | none =>
      rw [tableKnob, Except.ok.injEq]
      cases table <;> simp
  | some s =>
      have hread := fun v => parseU32_eq_ok (s := s) (v := v) (by decide : 0 < 10) (by decide)
      rw [tableKnob, withContext_eq_ok]
      cases hs : parseU32 10 s with
      | error e =>
          refine iff_of_false (by simp [Except.mapError, Except.map]) ?_
          rintro (_ | h)
          simp [(hread _).2 ‹_›] at hs
      | ok v =>
          change Except.ok (some v) = .ok table ↔ _
          rw [Except.ok.injEq]
          constructor
          · rintro rfl
            exact .some ((hread v).1 hs)
          · rintro (_ | h)
            exact congrArg some (Except.ok.inj (hs.symm.trans ((hread _).2 ‹_›)))

omit [Libraries] in
/-- Clauses are read as the map of them. -/
lemma parseSelectorLabel_eq {s : String} {clauses : List (String × String)}
    (h : List.Forall₂ WritesClause (split ',' s) clauses) :
    parseSelectorLabel s = TreeMap.ofList clauses := by
  have hread : ∀ {ps : List String} {clauses : List (String × String)},
      List.Forall₂ WritesClause ps clauses →
      ((ps.filterMap (splitOnce '=')).map fun kv => (trim kv.1, trim kv.2)) = clauses := by
    intro ps clauses h
    induction h with
    | nil => rfl
    | cons hp _ ih =>
        obtain ⟨-, k, v, hcut, hfree, rfl⟩ := hp
        rw [List.filterMap_cons_some (splitOnce_eq_some.2 ⟨hcut, hfree⟩), List.map_cons, ih]
  exact congrArg (fun kvs => TreeMap.ofList kvs) (hread h)

omit [Libraries] in
lemma hasClauses_ofList {clauses : List (String × String)} (h : (clauses.map (·.1)).Nodup) :
    Selector.HasClauses (TreeMap.ofList clauses) clauses := by
  have hdistinct : clauses.Pairwise fun a b => ¬ compare a.1 b.1 = .eq := by
    rw [List.Nodup, List.pairwise_map] at h
    exact h.imp fun hne heq => hne (Std.LawfulEqOrd.eq_of_compare heq)
  have hmem : ∀ key value, (TreeMap.ofList clauses : Selector)[key]? = some value ↔
      (key, value) ∈ clauses := by
    intro key value
    constructor
    · intro hget
      by_cases hin : (clauses.map Prod.fst).contains key
      · obtain ⟨⟨key, value'⟩, hpair, rfl⟩ := List.mem_map.1 (List.contains_iff_mem.1 hin)
        have hget' := TreeMap.getElem?_ofList_of_mem Std.ReflCmp.compare_self hdistinct hpair
        rw [hget', Option.some.injEq] at hget
        exact hget ▸ hpair
      · rw [TreeMap.getElem?_ofList_of_contains_eq_false (by simpa using hin)] at hget
        cases hget
    · exact TreeMap.getElem?_ofList_of_mem Std.ReflCmp.compare_self hdistinct
  refine ⟨hmem, fun labels hmatch clause hclause => ?_⟩
  rw [selectorMatches, Bool.and_eq_true, List.all_eq_true] at hmatch
  have hlisted := TreeMap.mem_toList_iff_getElem?_eq_some.2 ((hmem _ _).2 hclause)
  simpa using hmatch.2 _ hlisted

/-! ### Which knobs are accepted -/

/-- What is checked of the knobs: the mark, the table and the networks are well formed, and the
selector has a clause at all. -/
structure Knobs.Accepted (field : String → Option String) : Prop where
  mark : ∀ s, field "mark" = some s → ∃ v, WritesMark s v
  table : ∀ s, field "table" = some s → ∃ v, WritesTable s v
  localSubnets : ∀ s, field "localSubnets" = some s → ∃ texts, WritesSubnets s texts
  members : ∀ s, field "members" = some s → ∃ p ∈ split ',' s, '=' ∈ p.toList

/-- What is not: the booleans are, and all of the selector is clauses with different keys. -/
structure Knobs.Unchecked (field : String → Option String) : Prop where
  snat : ∀ s, field "snat" = some s → ∃ b, WritesBool s b
  default : ∀ s, field "default" = some s → ∃ b, WritesBool s b
  members : ∀ s, field "members" = some s → ∃ clauses, WritesClauses s clauses

omit [Libraries] in
lemma isEmpty_parseSelectorLabel (s : String) :
    (parseSelectorLabel s).isEmpty = false ↔ ∃ p ∈ split ',' s, '=' ∈ p.toList := by
  rw [parseSelectorLabel, TreeMap.isEmpty_ofList, List.isEmpty_eq_false_iff, Ne,
    List.map_eq_nil_iff, List.filterMap_eq_nil_iff]
  push Not
  refine exists_congr fun p => and_congr_right fun _ => ?_
  rw [Ne, splitOnce_eq_none, not_not]

/-- Well-formed knobs have values. -/
lemma exists_readFrom_iff {field : String → Option String} :
    (∃ k, Knobs.ReadFrom field k) ↔ Knobs.Accepted field ∧ Knobs.Unchecked field := by
  constructor
  · rintro ⟨k, hsnat, hmark, htable, hlocal, hdefault, hmembers⟩
    have hclauses := exists_rel_iff.1 ⟨_, hmembers⟩
    refine ⟨⟨exists_rel_iff.1 ⟨_, hmark⟩, exists_rel_iff.1 ⟨_, htable⟩,
      exists_rel_iff.1 ⟨_, hlocal⟩, fun s hs => ?_⟩, exists_rel_iff.1 ⟨_, hsnat⟩,
      exists_rel_iff.1 ⟨_, hdefault⟩, hclauses⟩
    obtain ⟨clauses, hall, -⟩ := hclauses s hs
    cases hsplit : split ',' s with
    | nil => exact absurd (List.map_eq_nil_iff.1 hsplit) (by
        rw [List.splitOn_eq_splitOnP]
        exact List.splitOnP_ne_nil _ _)
    | cons p ps =>
        rw [hsplit] at hall
        obtain ⟨_, k, v, hcut, -⟩ := (List.forall₂_cons_left_iff.1 hall).choose_spec.choose_spec.1
        exact ⟨p, List.mem_cons_self, by rw [hcut]; simp⟩
  · rintro ⟨⟨hmark, htable, hlocal, -⟩, hsnat, hdefault, hmembers⟩
    obtain ⟨snat, hsnat⟩ := exists_rel_iff.2 hsnat
    obtain ⟨mark, hmark⟩ := exists_rel_iff.2 hmark
    obtain ⟨table, htable⟩ := exists_rel_iff.2 htable
    obtain ⟨localSubnets, hlocal⟩ := exists_rel_iff.2 hlocal
    obtain ⟨default, hdefault⟩ := exists_rel_iff.2 hdefault
    obtain ⟨members, hmembers⟩ := exists_rel_iff.2 hmembers
    exact ⟨⟨snat, mark, table, localSubnets, default, members⟩, hsnat, hmark, htable, hlocal,
      hdefault, hmembers⟩

/-- A gateway is accepted when its knobs are. -/
lemma exists_discoveredGateway_iff {pfx name egressContainer : String} {labels : Labels} :
    (∃ g, discoveredGateway pfx name egressContainer labels = .ok g) ↔
      Knobs.Accepted (knob pfx labels) := by
  simp only [discoveredGateway, bind_eq_ok, pure_eq_ok, Gateway.validate_eq_ok, tableKnob_eq_ok]
  constructor
  · rintro ⟨g, table, htable, _, hvalid, rfl⟩
    refine ⟨fun s hs => ?_, fun s hs => ?_, fun s hs => ?_, fun s hs => ?_⟩
    · obtain ⟨v, hv, hne⟩ := hvalid.mark s hs
      exact ⟨v, hne, (parseMark_eq_ok (trim_knob hs)).1 hv⟩
    · rw [hs] at htable
      cases htable with
      | some hv => exact ⟨_, hvalid.table _ rfl, hv⟩
    · refine ⟨_, rfl, fun t ht => hvalid.localSubnets t ?_⟩
      simpa only [hs, localSubnetsKnob] using ht
    · refine (isEmpty_parseSelectorLabel s).1 (hvalid.members _ ?_)
      simp [hs, membersKnob]
  · rintro ⟨hmark, htable, hlocal, hmembers⟩
    obtain ⟨table, hwrites⟩ := exists_rel_iff.2 htable
    refine ⟨_, table, rel_imp hwrites fun _ _ h => h.2, (), ⟨rfl, fun s hs => ?_, fun t ht => ?_,
      by simp, by simp, fun t ht => ?_, fun sel hsel => ?_⟩, rfl⟩
    · obtain ⟨v, hne, hv⟩ := hmark s hs
      exact ⟨v, (parseMark_eq_ok (trim_knob hs)).2 hv, hne⟩
    · obtain rfl : table = some t := ht
      obtain ⟨s, -, hpos, -⟩ := exists_of_rel_some hwrites
      exact hpos
    · cases hs : knob pfx labels "localSubnets" with
      | none => simp [hs, localSubnetsKnob] at ht
      | some s =>
          obtain ⟨_, rfl, hnet⟩ := hlocal s hs
          exact hnet t (by simpa only [hs, localSubnetsKnob] using ht)
    · cases hs : knob pfx labels "members" with
      | none => simp [hs, membersKnob] at hsel
      | some s =>
          obtain rfl : sel = parseSelectorLabel s := by simpa [hs, membersKnob] using hsel
          exact (isEmpty_parseSelectorLabel s).2 (hmembers s hs)

/-! ### What the knobs give -/

omit [Libraries] in
lemma snatKnob_eq {o : Option String} {b : Option Bool} (h : Option.Rel WritesBool o b) :
    snatKnob o = b := by
  cases h with
  | none => rfl
  | some h => rcases h with ⟨rfl, rfl⟩ | ⟨rfl, rfl⟩ <;> rfl

omit [Libraries] in
lemma defaultKnob_eq {o : Option String} {b : Option Bool} (h : Option.Rel WritesBool o b) :
    (o == some "true") = b.getD false := by
  cases h with
  | none => rfl
  | some h => rcases h with ⟨rfl, rfl⟩ | ⟨rfl, rfl⟩ <;> decide

omit [Libraries] in
/-- A numeral has one value. -/
lemma tableKnob_unique {o : Option String} {t t' : Option UInt32}
    (h : Option.Rel (DenotesU32 10) o t) (h' : Option.Rel (DenotesU32 10) o t') : t = t' := by
  cases h with
  | none => cases h'; rfl
  | some h =>
      cases h' with
      | some h' =>
          have hread := (parseU32_eq_ok (by decide) (by decide)).2 h
          have hread' := (parseU32_eq_ok (by decide) (by decide)).2 h'
          exact congrArg some (Except.ok.inj (hread.symm.trans hread'))

lemma markValue_eq {g : Gateway} {v : Option UInt32} (htrim : ∀ s, g.mark = some s → trim s = s)
    (h : Option.Rel WritesMark g.mark v) : g.markValue = .ok (v.getD (autoMark g.name)) := by
  rw [Gateway.markValue]
  cases hs : g.mark with
  | none =>
      rw [hs] at h
      cases h
      rfl
  | some s =>
      rw [hs] at h
      cases h with
      | some h => exact withContext_eq_ok.2 ((parseMark_eq_ok (htrim s hs)).2 h.2)

lemma localSubnetsKnob_eq {o : Option String} {texts : Option (List String)}
    (h : Option.Rel WritesSubnets o texts) : localSubnetsKnob o = texts.getD [] := by
  cases h with
  | none => rfl
  | some h => exact h.1.symm

omit [Libraries] in
lemma hasClauses_membersKnob {o : Option String} {clauses : Option (List (String × String))}
    (h : Option.Rel WritesClauses o clauses) :
    List.Forall₂ Selector.HasClauses (membersKnob o) clauses.toList := by
  cases h with
  | none => exact .nil
  | some h =>
      rw [membersKnob, parseSelectorLabel_eq h.1]
      exact .cons (hasClauses_ofList h.2) .nil

/-- The gateway of well-formed knobs has their values. -/
lemma denotes_of_ok {pfx name egressContainer : String} {labels : Labels} {g : Gateway}
    {k : Knobs} (h : discoveredGateway pfx name egressContainer labels = .ok g)
    (hk : Knobs.ReadFrom (knob pfx labels) k) : g.Denotes name egressContainer k := by
  simp only [discoveredGateway, bind_eq_ok, pure_eq_ok, tableKnob_eq_ok] at h
  obtain ⟨table, htable, -, -, rfl⟩ := h
  exact {
    name := rfl
    egress := rfl
    snat := snatKnob_eq hk.snat
    mark := markValue_eq (fun s hs => trim_knob hs) hk.mark
    table := tableKnob_unique htable (rel_imp hk.table fun _ _ h => h.2)
    localSubnets := localSubnetsKnob_eq hk.localSubnets
    default := defaultKnob_eq hk.default
    members := hasClauses_membersKnob hk.members }

/-- The knobs of a gateway container are taken strictly exactly when those that are accepted also
have boolean values where these are due, and a selector of nothing but clauses with different
keys. -/
theorem strict_iff (pfx name egressContainer : String) (labels : Labels) :
    Strict pfx name egressContainer labels ↔
      (Knobs.Accepted (knob pfx labels) → Knobs.Unchecked (knob pfx labels)) := by
  rw [Strict, exists_discoveredGateway_iff, exists_readFrom_iff, iff_self_and]
  exact and_iff_left fun g hg k hk => denotes_of_ok hg hk

/-- A selector whose second clause has no value. -/
def droppedClause : Labels :=
  TreeMap.ofList [("degc.gateway", "vpn"), ("degc.gateway.members", "vpn=true,tier")]

omit [Libraries] in
/-- The clause without a value is left out, and the gateway is accepted. -/
theorem not_strict : ¬ @Strict .plain "degc" "vpn" "gluetun" droppedClause := by
  intro h
  have hmembers : knob "degc" droppedClause "members" = some "vpn=true,tier" := by decide +kernel
  have hmark : knob "degc" droppedClause "mark" = none := by decide +kernel
  have htable : knob "degc" droppedClause "table" = none := by decide +kernel
  have hlocal : knob "degc" droppedClause "localSubnets" = none := by decide +kernel
  have hsplit : split ',' "vpn=true,tier" = ["vpn=true", "tier"] := by decide
  have haccepted : @Knobs.Accepted .plain (knob "degc" droppedClause) := by
    refine @Knobs.Accepted.mk .plain _ ?_ ?_ ?_ ?_
    · simp [hmark]
    · simp [htable]
    · simp [hlocal]
    · simp [hmembers, hsplit]
  obtain ⟨k, hk⟩ := h.1.1 ((@exists_discoveredGateway_iff .plain _ _ _ _).2 haccepted)
  obtain ⟨clauses, hclauses, -⟩ := exists_rel_iff.1 ⟨_, @Knobs.ReadFrom.members .plain _ _ hk⟩ _
    hmembers
  rw [hsplit] at hclauses
  rcases hclauses with _ | ⟨-, _ | ⟨⟨-, key, value, hcut, -⟩, -⟩⟩
  have hin : '=' ∈ "tier".toList := by
    rw [hcut]
    simp
  exact absurd hin (by decide)

end Degc
