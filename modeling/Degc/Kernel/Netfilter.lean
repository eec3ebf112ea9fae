import Degc.Net.Addr

/-!
# Tables of packet filter rules

A table has sets of addresses and base chains of rules.  A rule is a list of
expressions evaluated from the left: the matches end it when they fail, setting
the mark goes on with the changed packet, and a verdict ends the chain.

A script is a list of lines, loaded in one transaction: `load` goes through them
with a cursor that holds the block which is open.  The main results are how a
block of a set and a block of a chain act on the open table (`steps_setBlock`,
`steps_chainBlock`), what the sets hold after a number of set blocks
(`addSets_spec`), and what a script that redefines a table leaves (`load_redefine`).
-/

namespace Netfilter

open Net
open Std (TreeMap)

/-! ### Packets and rules -/

/-- What the rules see of a packet; the output interface is known once it is routed. -/
structure Packet where
  src : IpAddr
  dst : IpAddr
  mark : ℕ := 0
  oif : Option String := none
  deriving DecidableEq

/-- The address families of the matches. -/
inductive Family
  | ip
  | ip6
  deriving DecidableEq, Repr

/-- Whether an address is of a family. -/
def Family.has : Family → IpAddr → Bool
  | .ip => IpAddr.isIpv4
  | .ip6 => IpAddr.isIpv6

/-- The type of the sets of addresses of a family. -/
def Family.typ : Family → String
  | .ip => "ipv4_addr"
  | .ip6 => "ipv6_addr"

/-- An expression of a rule. -/
inductive Expr
  | saddr (family : Family) (set : String)
  | daddrNot (family : Family) (set : String)
  | mark (value : ℕ)
  | oifname (name : String)
  | oifnameNot (name : String)
  | setMark (value : ℕ)
  | masquerade
  | drop
  deriving DecidableEq, Repr

/-- A rule. -/
abbrev Rule := List Expr

/-- A set of addresses. -/
structure ElemSet where
  typ : String
  interval : Bool
  elems : List Cidr
  deriving DecidableEq

/-- The sets of a table. -/
abbrev Sets := TreeMap String ElemSet

/-- Whether a set that is named holds an address. -/
def holds (sets : Sets) (name : String) (a : IpAddr) : Bool :=
  sets[name]?.any fun s => s.elems.any (·.contains a)

/-- What becomes of a packet at a rule. -/
inductive Verdict
  | next (p : Packet)
  | accept (p : Packet)
  | drop
  deriving DecidableEq

/-- Evaluating a rule. -/
def evalRule (sets : Sets) : Rule → Packet → Verdict
  | [], p => .next p
  | .saddr f s :: es, p => if f.has p.src && holds sets s p.src then evalRule sets es p else .next p
  | .daddrNot f s :: es, p =>
      if f.has p.dst && !holds sets s p.dst then evalRule sets es p else .next p
  | .mark v :: es, p => if p.mark == v then evalRule sets es p else .next p
  | .oifname i :: es, p => if p.oif == some i then evalRule sets es p else .next p
  | .oifnameNot i :: es, p => if p.oif != some i then evalRule sets es p else .next p
  | .setMark v :: es, p => evalRule sets es { p with mark := v }
  -- the address is rewritten behind the chains that are modelled
  | .masquerade :: _, p => .accept p
  | .drop :: _, _ => .drop

/-- Evaluating rules one after the other; no packet is left when one drops it. -/
def evalRules (sets : Sets) : List Rule → Packet → Option Packet
  | [], p => some p
  | r :: rs, p =>
      match evalRule sets r p with
      | .next p' => evalRules sets rs p'
      | .accept p' => some p'
      | .drop => none

/-- Rules that drop a packet or pass it on as it is drop it together, or pass it on as it is. -/
lemma evalRules_eq_some {sets : Sets} {rules : List Rule} {p p' : Packet}
    (h : ∀ r ∈ rules, evalRule sets r p = .next p ∨ evalRule sets r p = .drop) :
    evalRules sets rules p = some p' ↔ p' = p ∧ ∀ r ∈ rules, evalRule sets r p = .next p := by
  induction rules with
  | nil => simpa [evalRules] using eq_comm
  | cons r rules ih =>
      rw [List.forall_mem_cons] at h
      rw [evalRules, List.forall_mem_cons]
      rcases h.1 with hr | hr
      · simp [hr, ih h.2]
      · simp [hr]

/-- A base chain that accepts what its rules do not decide. -/
structure Chain where
  name : String
  typ : String
  hook : String
  priority : String
  rules : List Rule
  deriving DecidableEq

/-- A table. -/
structure Table where
  sets : Sets := ∅
  chains : List Chain := []

/-- The way of a packet through the chains of a table at a hook. -/
def Table.traverse (t : Table) (hook : String) (p : Packet) : Option Packet :=
  (t.chains.filter (·.hook == hook)).foldlM (fun p c => evalRules t.sets c.rules p) p

/-- The tables, by family and name. -/
abbrev Ruleset := TreeMap String Table

/-! ### Scripts -/

/-- A line of a script. -/
inductive Line
  | addTable (table : String)
  | deleteTable (table : String)
  | table (table : String)
  | set (name : String)
  | type (typ : String)
  | interval
  | elements (elems : List Cidr)
  | chain (name : String)
  | base (typ hook priority : String)
  | rule (r : Rule)
  | close
  deriving DecidableEq

/-- The block that is open. -/
inductive Cursor
  | top
  | table (key : String) (t : Table)
  | set (key : String) (t : Table) (name : String) (s : ElemSet)
  | chain (key : String) (t : Table) (c : Chain)

/-- A script that is being loaded. -/
structure Loader where
  ruleset : Ruleset
  cursor : Cursor := .top

/-- Adding a set to a table.  A set that is already there gets the elements, unless it is of
another kind. -/
def Table.addSet (t : Table) (name : String) (s : ElemSet) : Option Table :=
  match t.sets[name]? with
  | none => some { t with sets := t.sets.insert name s }
  | some s' =>
      if s'.typ = s.typ ∧ s'.interval = s.interval then
        some { t with sets := t.sets.insert name { s with elems := s'.elems ++ s.elems } }
      else none

/-- Whether a table has the sets that a rule names. -/
def Table.hasSets (t : Table) (r : Rule) : Bool :=
  r.all fun
    | .saddr f s | .daddrNot f s => t.sets[s]?.any (·.typ == f.typ)
    | _ => true

/-- Loading a line. -/
def Loader.step (l : Loader) (line : Line) : Option Loader :=
  match l.cursor, line with
  | .top, .addTable key => some { l with ruleset := l.ruleset.insertIfNew key {} }
  | .top, .deleteTable key =>
      if l.ruleset.contains key then some { l with ruleset := l.ruleset.erase key } else none
  | .top, .table key => some { l with cursor := .table key (l.ruleset.getD key {}) }
  | .table key t, .set name => some { l with cursor := .set key t name ⟨"", false, []⟩ }
  | .table key t, .chain name => some { l with cursor := .chain key t ⟨name, "", "", "", []⟩ }
  | .table key t, .close => some ⟨l.ruleset.insert key t, .top⟩
  | .set key t name s, .type typ => some { l with cursor := .set key t name { s with typ := typ } }
  | .set key t name s, .interval =>
      some { l with cursor := .set key t name { s with interval := true } }
  | .set key t name s, .elements es =>
      some { l with cursor := .set key t name { s with elems := s.elems ++ es } }
  | .set key t name s, .close => (t.addSet name s).map fun t => { l with cursor := .table key t }
  | .chain key t c, .base typ hook priority =>
      some { l with
        cursor := .chain key t { c with typ := typ, hook := hook, priority := priority } }
  | .chain key t c, .rule r =>
      -- a rule over a set that is not defined is an error
      if t.hasSets r then some { l with cursor := .chain key t { c with rules := c.rules ++ [r] } }
      else none
  | .chain key t c, .close =>
      some { l with cursor := .table key { t with chains := t.chains ++ [c] } }
  | _, _ => none

/-- Loading lines one after the other. -/
def Loader.steps (l : Loader) (lines : List Line) : Option Loader := lines.foldlM Loader.step l

/-- Loading a script: all of it or nothing.  The program also refuses a set of intervals that
overlap, which is left to the environment here: `load` says what a script does if it is not
refused. -/
def load (lines : List Line) (rs : Ruleset) : Option Ruleset :=
  (Loader.steps { ruleset := rs } lines).bind fun l =>
    match l.cursor with
    | .top => some l.ruleset
    | _ => none

/-! ### Blocks -/

lemma Loader.steps_append (l : Loader) (as bs : List Line) :
    l.steps (as ++ bs) = (l.steps as).bind (·.steps bs) :=
  List.foldlM_append ..

lemma Loader.steps_cons (l : Loader) (a : Line) (as : List Line) :
    l.steps (a :: as) = (l.step a).bind (·.steps as) :=
  List.foldlM_cons ..

@[simp] lemma Loader.steps_nil (l : Loader) : l.steps [] = some l := rfl

/-- The block that defines a set. -/
def setBlock (name : String) (s : ElemSet) : List Line :=
  [.set name, .type s.typ] ++ (if s.interval then [.interval] else []) ++
    (if s.elems.isEmpty then [] else [.elements s.elems]) ++ [.close]

/-- The block of a base chain. -/
def chainBlock (c : Chain) : List Line :=
  [.chain c.name, .base c.typ c.hook c.priority] ++ c.rules.map .rule ++ [.close]

/-- A block of a set adds the set. -/
lemma steps_setBlock (rs : Ruleset) (key : String) (t : Table) (name : String) (s : ElemSet) :
    Loader.steps ⟨rs, .table key t⟩ (setBlock name s) =
      (t.addSet name s).map fun t => ⟨rs, .table key t⟩ := by
  obtain ⟨typ, interval, elems⟩ := s
  cases interval <;> cases elems <;>
    simp only [setBlock, Loader.steps_append, Loader.steps_cons, Loader.step, Loader.steps_nil,
      Option.bind_some, Option.bind_fun_some, List.isEmpty_nil, List.isEmpty_cons, if_true,
      if_false, Bool.false_eq_true, List.nil_append]

lemma steps_rules (rs : Ruleset) (key : String) (t : Table) (c : Chain) (rules : List Rule) :
    Loader.steps ⟨rs, .chain key t c⟩ (rules.map .rule) =
      if rules.all t.hasSets then some ⟨rs, .chain key t { c with rules := c.rules ++ rules }⟩
      else none := by
  induction rules generalizing c with
  | nil => simp
  | cons r rules ih =>
      rw [List.map_cons, Loader.steps_cons]
      by_cases h : t.hasSets r <;> simp [Loader.step, h, ih]

/-- A block of a chain adds the chain when the table has the sets of its rules. -/
lemma steps_chainBlock (rs : Ruleset) (key : String) (t : Table) (c : Chain) :
    Loader.steps ⟨rs, .table key t⟩ (chainBlock c) =
      if c.rules.all t.hasSets then some ⟨rs, .table key { t with chains := t.chains ++ [c] }⟩
      else none := by
  simp only [chainBlock, Loader.steps_append, Loader.steps_cons, Loader.step, Loader.steps_nil,
    Option.bind_some, steps_rules]
  split <;> rfl

/-! ### Adding sets -/

/-- Adding sets one after the other. -/
def Table.addSets (t : Table) (defs : List (String × ElemSet)) : Option Table :=
  defs.foldlM (fun t d => t.addSet d.1 d.2) t

/-- Blocks of sets add the sets. -/
lemma steps_setBlocks (rs : Ruleset) (key : String) (t : Table) (defs : List (String × ElemSet)) :
    Loader.steps ⟨rs, .table key t⟩ (defs.flatMap fun d => setBlock d.1 d.2) =
      (t.addSets defs).map fun t => ⟨rs, .table key t⟩ := by
  induction defs generalizing t with
  | nil => rfl
  | cons d defs ih =>
      rw [List.flatMap_cons, Loader.steps_append, steps_setBlock, Table.addSets, List.foldlM_cons]
      cases t.addSet d.1 d.2 with
      | none => rfl
      | some t' => exact ih t'

/-- Adding a set adds its elements to those under its name and changes nothing else. -/
lemma addSet_spec {t t' : Table} {name : String} {s : ElemSet} (h : t.addSet name s = some t') :
    t'.chains = t.chains ∧
      (∃ s', t'.sets[name]? = some s' ∧ s'.typ = s.typ ∧ s'.interval = s.interval ∧
        s'.elems = ((t.sets[name]?).elim [] (·.elems)) ++ s.elems) ∧
      ∀ n, n ≠ name → t'.sets[n]? = t.sets[n]? := by
  rw [Table.addSet] at h
  have hother : ∀ (s' : ElemSet) (n : String), n ≠ name →
      (t.sets.insert name s')[n]? = t.sets[n]? := fun s' n hn => by
    simp [TreeMap.getElem?_insert, Ne.symm hn]
  cases hs : t.sets[name]? with
  | none =>
      rw [hs] at h
      obtain rfl := Option.some.inj h
      exact ⟨rfl, ⟨s, TreeMap.getElem?_insert_self, rfl, rfl, rfl⟩, hother s⟩
  | some s' =>
      rw [hs] at h
      obtain ⟨hkind, hsome⟩ := Option.ite_none_right_eq_some.1 h
      obtain rfl := Option.some.inj hsome
      exact ⟨rfl, ⟨_, TreeMap.getElem?_insert_self, rfl, rfl, rfl⟩, hother _⟩

/-- The elements of all definitions of a name. -/
def elemsOf (defs : List (String × ElemSet)) (name : String) : List Cidr :=
  (defs.filter (·.1 = name)).flatMap (·.2.elems)

lemma elemsOf_eq_nil {defs : List (String × ElemSet)} {name : String}
    (h : name ∉ defs.map (·.1)) : elemsOf defs name = [] := by
  rw [elemsOf, List.filter_eq_nil_iff.2, List.flatMap_nil]
  exact fun d hd => by simpa using fun he => h (List.mem_map.2 ⟨d, hd, he⟩)

lemma elemsOf_append (as bs : List (String × ElemSet)) (name : String) :
    elemsOf (as ++ bs) name = elemsOf as name ++ elemsOf bs name := by
  simp [elemsOf, List.filter_append]

lemma elemsOf_flatMap {α : Type} (as : List α) (defs : α → List (String × ElemSet))
    (name : String) :
    elemsOf (as.flatMap defs) name = as.flatMap fun a => elemsOf (defs a) name := by
  induction as with
  | nil => rfl
  | cons a as ih => rw [List.flatMap_cons, List.flatMap_cons, elemsOf_append, ih]

/-- The elements under a name, none when there is no set of the name. -/
def elemsAt (sets : Sets) (name : String) : List Cidr := (sets[name]?).elim [] (·.elems)

lemma holds_eq_elemsAt (sets : Sets) (name : String) (a : IpAddr) :
    holds sets name a = (elemsAt sets name).any (·.contains a) := by
  rw [holds, elemsAt]
  cases sets[name]? <;> simp

/-- After adding sets, a name holds what it held and the elements of all its definitions. -/
theorem addSets_spec {t t' : Table} {defs : List (String × ElemSet)}
    (h : t.addSets defs = some t') :
    t'.chains = t.chains ∧ ∀ n, elemsAt t'.sets n = elemsAt t.sets n ++ elemsOf defs n := by
  induction defs generalizing t with
  | nil =>
      obtain rfl := Option.some.inj h
      simp [elemsOf]
  | cons d defs ih =>
      rw [Table.addSets, List.foldlM_cons] at h
      obtain ⟨t₁, h₁, h₂⟩ := Option.bind_eq_some_iff.1 h
      obtain ⟨hc₁, ⟨s', hs', -, -, helems⟩, hother⟩ := addSet_spec h₁
      obtain ⟨hc₂, hrest⟩ := ih h₂
      refine ⟨hc₂.trans hc₁, fun n => ?_⟩
      rw [hrest n]
      -- a set that is defined again gets the elements of both definitions
      by_cases hn : d.1 = n
      · subst hn
        simp only [elemsAt, hs', Option.elim_some, helems, elemsOf, List.filter_cons, decide_true,
          if_true, List.flatMap_cons, List.append_assoc]
      · rw [elemsAt, hother n (Ne.symm hn), elemsOf, elemsOf, List.filter_cons]
        simp [hn, elemsAt]

/-- Sets are added when the sets of each name are of one kind, and then keep their types. -/
lemma exists_addSets {kind : String → String × Bool} {t : Table} {defs : List (String × ElemSet)}
    (ht : ∀ (n : String) (s : ElemSet), t.sets[n]? = some s → (s.typ, s.interval) = kind n)
    (hdefs : ∀ d ∈ defs, (d.2.typ, d.2.interval) = kind d.1) :
    ∃ t', t.addSets defs = some t' ∧
      (∀ (n : String) (s : ElemSet), t.sets[n]? = some s →
        ∃ s' : ElemSet, t'.sets[n]? = some s' ∧ s'.typ = s.typ) ∧
      ∀ d ∈ defs, ∃ s' : ElemSet, t'.sets[d.1]? = some s' ∧ s'.typ = d.2.typ := by
  induction defs generalizing t with
  | nil => exact ⟨t, rfl, fun n s hs => ⟨s, hs, rfl⟩, by simp⟩
  | cons d defs ih =>
      rw [List.forall_mem_cons] at hdefs
      obtain ⟨t₁, h₁⟩ : ∃ t₁, t.addSet d.1 d.2 = some t₁ := by
        rw [Table.addSet]
        cases hs : t.sets[d.1]? with
        | none => exact ⟨_, rfl⟩
        | some s' =>
            have hkind := (ht d.1 s' hs).trans hdefs.1.symm
            exact ⟨_, if_pos (Prod.mk.inj hkind)⟩
      obtain ⟨-, ⟨s₁, hs₁, htyp, hinterval, -⟩, hother⟩ := addSet_spec h₁
      have ht₁ : ∀ (n : String) (s : ElemSet), t₁.sets[n]? = some s →
          (s.typ, s.interval) = kind n := by
        intro n s hs
        by_cases hn : n = d.1
        · subst hn
          obtain rfl : s₁ = s := Option.some.inj (hs₁.symm.trans hs)
          rw [htyp, hinterval]
          exact hdefs.1
        · exact ht n s ((hother n hn).symm.trans hs)
      obtain ⟨t', h', hkept, hadded⟩ := ih ht₁ hdefs.2
      refine ⟨t', ?_, fun n s hs => ?_, List.forall_mem_cons.2 ⟨?_, hadded⟩⟩
      · rw [Table.addSets, List.foldlM_cons, h₁]
        exact h'
      · by_cases hn : n = d.1
        · subst hn
          obtain ⟨s', hs', htyp'⟩ := hkept d.1 s₁ hs₁
          have hkind := (ht d.1 s hs).trans hdefs.1.symm
          exact ⟨s', hs', (htyp'.trans htyp).trans (Prod.mk.inj hkind).1.symm⟩
        · exact hkept n s ((hother n hn).trans hs)
      · obtain ⟨s', hs', htyp'⟩ := hkept d.1 s₁ hs₁
        exact ⟨s', hs', htyp'.trans htyp⟩

/-- A set that is added is of the kind of one of its definitions. -/
lemma interval_addSets {t t' : Table} {defs : List (String × ElemSet)}
    (h : t.addSets defs = some t') {n : String} {s : ElemSet} (hs : t'.sets[n]? = some s) :
    (∃ s₀ : ElemSet, t.sets[n]? = some s₀ ∧ s₀.interval = s.interval) ∨
      ∃ d ∈ defs, d.1 = n ∧ d.2.interval = s.interval := by
  induction defs generalizing t with
  | nil =>
      obtain rfl := Option.some.inj h
      exact Or.inl ⟨s, hs, rfl⟩
  | cons d defs ih =>
      rw [Table.addSets, List.foldlM_cons] at h
      obtain ⟨t₁, h₁, h₂⟩ := Option.bind_eq_some_iff.1 h
      obtain ⟨-, ⟨s₁, hs₁, -, hinterval, -⟩, hother⟩ := addSet_spec h₁
      rcases ih h₂ with ⟨s₀, hs₀, hkind⟩ | ⟨d', hd', hdef⟩
      · by_cases hn : n = d.1
        · subst hn
          obtain rfl : s₁ = s₀ := Option.some.inj (hs₁.symm.trans hs₀)
          exact Or.inr ⟨d, List.mem_cons_self, rfl, hinterval.symm.trans hkind⟩
        · exact Or.inl ⟨s₀, (hother n hn).symm.trans hs₀, hkind⟩
      · exact Or.inr ⟨d', List.mem_cons_of_mem _ hd', hdef⟩

/-! ### Redefining a table -/

/-- A script that adds, deletes and redefines a table. -/
def redefine (key : String) (defs : List (String × ElemSet)) (chains : List Chain) : List Line :=
  [.addTable key, .deleteTable key, .table key] ++ (defs.flatMap fun d => setBlock d.1 d.2) ++
    chains.flatMap chainBlock ++ [.close]

/-- The first lines of the script leave an empty table open, whatever was there. -/
lemma steps_open (rs : Ruleset) (key : String) :
    Loader.steps { ruleset := rs } [.addTable key, .deleteTable key, .table key] =
      some ⟨(rs.insertIfNew key {}).erase key, .table key {}⟩ := by
  simp [Loader.steps_cons, Loader.step]

lemma steps_chainBlocks {rs : Ruleset} {key : String} {t : Table} {chains : List Chain}
    {l : Loader} (h : Loader.steps ⟨rs, .table key t⟩ (chains.flatMap chainBlock) = some l) :
    l = ⟨rs, .table key { t with chains := t.chains ++ chains }⟩ := by
  induction chains generalizing t with
  | nil => simpa using h.symm
  | cons c chains ih =>
      rw [List.flatMap_cons, Loader.steps_append, steps_chainBlock] at h
      split at h
      · simpa using ih h
      · simp at h

/-- A table that is redefined holds nothing of what it was, and the other tables stay. -/
theorem load_redefine {key : String} {defs : List (String × ElemSet)} {chains : List Chain}
    {rs rs' : Ruleset} (h : load (redefine key defs chains) rs = some rs') :
    (∃ t, Table.addSets {} defs = some t ∧
      rs'[key]? = some { sets := t.sets, chains := chains }) ∧
      ∀ k, k ≠ key → rs'[k]? = rs[k]? := by
  rw [load, redefine, Loader.steps_append, Loader.steps_append, Loader.steps_append, steps_open,
    Option.bind_some, steps_setBlocks] at h
  cases ht : Table.addSets {} defs with
  | none => simp [ht] at h
  | some t =>
      simp only [ht, Option.map_some, Option.bind_some] at h
      obtain ⟨l, hl, htop⟩ := Option.bind_eq_some_iff.1 h
      obtain ⟨l', hl', hclose⟩ := Option.bind_eq_some_iff.1 hl
      have hchains : t.chains = [] := (addSets_spec ht).1
      obtain rfl := steps_chainBlocks hl'
      obtain rfl : _ = l := Option.some.inj hclose
      obtain rfl := Option.some.inj htop
      refine ⟨⟨t, rfl, by simp [hchains]⟩, fun k hk => ?_⟩
      simp [TreeMap.getElem?_insert, TreeMap.getElem?_erase, TreeMap.getElem?_insertIfNew,
        Ne.symm hk]

/-- The redefinition of a table is loaded when its sets can be added and its rules name sets that
it has. -/
lemma exists_load_redefine {key : String} {defs : List (String × ElemSet)} {chains : List Chain}
    {t : Table} (ht : Table.addSets {} defs = some t)
    (hrules : ∀ c ∈ chains, c.rules.all t.hasSets = true) (rs : Ruleset) :
    ∃ rs', load (redefine key defs chains) rs = some rs' := by
  have hchains : ∀ (t' : Table) (rs : Ruleset), t'.sets = t.sets →
      Loader.steps ⟨rs, .table key t'⟩ (chains.flatMap chainBlock) =
        some ⟨rs, .table key { t' with chains := t'.chains ++ chains }⟩ := by
    induction chains with
    | nil => simp
    | cons c chains ih =>
        intro t' rs hsets
        rw [List.forall_mem_cons] at hrules
        have hhas : t'.hasSets = t.hasSets := by
          funext r
          rw [Table.hasSets, Table.hasSets, hsets]
        rw [List.flatMap_cons, Loader.steps_append, steps_chainBlock, hhas, if_pos hrules.1,
          Option.bind_some, ih hrules.2 { t' with chains := t'.chains ++ [c] } rs hsets]
        simp
  refine ⟨((rs.insertIfNew key {}).erase key).insert key
    { t with chains := t.chains ++ chains }, ?_⟩
  rw [load, redefine, Loader.steps_append, Loader.steps_append, Loader.steps_append, steps_open,
    Option.bind_some, steps_setBlocks, ht]
  simp [hchains t _ rfl, Loader.steps_cons, Loader.step]

/-- The names of the sets that lines define. -/
def setNames (lines : List Line) : List String :=
  lines.filterMap fun
    | .set name => some name
    | _ => none

lemma setNames_append (as bs : List Line) : setNames (as ++ bs) = setNames as ++ setNames bs :=
  List.filterMap_append

lemma setNames_setBlock (name : String) (s : ElemSet) : setNames (setBlock name s) = [name] := by
  simp only [setBlock, setNames_append]
  split <;> split <;> rfl

lemma setNames_chainBlock (c : Chain) : setNames (chainBlock c) = [] := by
  simp [chainBlock, setNames, List.filterMap_append]

/-- The redefinition of a table defines the names of its sets. -/
lemma setNames_redefine (key : String) (defs : List (String × ElemSet)) (chains : List Chain) :
    setNames (redefine key defs chains) = defs.map (·.1) := by
  have hdefs : setNames (defs.flatMap fun d => setBlock d.1 d.2) = defs.map (·.1) := by
    induction defs with
    | nil => rfl
    | cons d defs ih =>
        rw [List.flatMap_cons, setNames_append, setNames_setBlock, ih, List.map_cons]
        rfl
  have hchains : setNames (chains.flatMap chainBlock) = [] := by
    induction chains with
    | nil => rfl
    | cons c chains ih =>
        rw [List.flatMap_cons, setNames_append, setNames_chainBlock, ih, List.append_nil]
  rw [redefine, setNames_append, setNames_append, setNames_append, hdefs, hchains]
  simp [setNames]

end Netfilter
