import Degc.Net.Addr

/-!
# Routes and policy rules

A host routes a packet by going through its policy rules in order: a rule that
matches the mark of the packet names a table, and the best route of the table
decides, unless the table has none for the destination.  Routes are keyed by their
table, destination and metric.

The main results are `lookup_eq_some`, that a route better than all others is the
one a lookup finds, and what the operations do to the routes and the rules.
-/

namespace Fib

open Net

/-! ### Routes -/

/-- What a route does with a packet. -/
inductive Hop
  | blackhole
  | host (dev : String)
  | dev (dev : String)
  | via (gateway : IpAddr) (dev : String)
  deriving DecidableEq, Repr

/-- The device a packet leaves by. -/
def Hop.oif : Hop → Option String
  | .blackhole => none
  | .host d | .dev d | .via _ d => some d

/-- A route. -/
structure Route where
  table : ℕ
  dst : Cidr
  hop : Hop
  proto : UInt8
  metric : ℕ
  deriving DecidableEq

/-- Two routes with one key replace each other. -/
def Route.sameKey (r r' : Route) : Bool :=
  r.table == r'.table && r.dst == r'.dst && r.metric == r'.metric

@[simp] lemma Route.sameKey_iff {r r' : Route} :
    r.sameKey r' = true ↔ r.table = r'.table ∧ r.dst = r'.dst ∧ r.metric = r'.metric := by
  simp [Route.sameKey, and_assoc]

/-- A route comes before another one when its destination is longer, or is as long and its
metric is lower. -/
def Route.key (r : Route) : ℕ ×ₗ ℕ := toLex (r.dst.addr.width - r.dst.len, r.metric)

/-- Whether a route is one of a table for a destination. -/
def Route.serves (r : Route) (table : ℕ) (dst : IpAddr) : Bool :=
  r.table == table && r.dst.contains dst

/-- The best route of a table for a destination. -/
def lookup (routes : List Route) (table : ℕ) (dst : IpAddr) : Option Route :=
  (routes.filter (·.serves table dst)).argmin Route.key

/-- A route that serves a destination before all others that do is the one that is found. -/
theorem lookup_eq_some {routes : List Route} {table : ℕ} {dst : IpAddr} {r : Route}
    (hr : r ∈ routes) (hserves : r.serves table dst = true)
    (hbest : ∀ r' ∈ routes, r'.serves table dst = true → r' ≠ r → r.key < r'.key) :
    lookup routes table dst = some r := by
  have hmem : r ∈ routes.filter (·.serves table dst) := List.mem_filter.2 ⟨hr, hserves⟩
  cases hfound : lookup routes table dst with
  | none =>
      rw [lookup, List.argmin_eq_none] at hfound
      exact absurd hmem (by simp [hfound])
  | some r' =>
      obtain ⟨hr', hserves'⟩ := List.mem_filter.1 (List.argmin_mem hfound)
      by_contra hne
      exact List.not_lt_of_mem_argmin hmem hfound
        (hbest r' hr' hserves' fun h => hne (by rw [h]))

lemma lookup_eq_none {routes : List Route} {table : ℕ} {dst : IpAddr} :
    lookup routes table dst = none ↔ ∀ r ∈ routes, r.serves table dst = false := by
  rw [lookup, List.argmin_eq_none, List.filter_eq_nil_iff]
  simp

lemma mem_of_lookup {routes : List Route} {table : ℕ} {dst : IpAddr} {r : Route}
    (h : lookup routes table dst = some r) : r ∈ routes ∧ r.serves table dst = true :=
  List.mem_filter.1 (List.argmin_mem h)

/-- A lookup depends only on the routes that serve the destination. -/
lemma lookup_congr {routes routes' : List Route} {table : ℕ} {dst : IpAddr}
    (h : routes.filter (·.serves table dst) = routes'.filter (·.serves table dst)) :
    lookup routes table dst = lookup routes' table dst := by
  rw [lookup, lookup, h]

/-- Putting a route in the place of those with its key. -/
def replaceRoute (r : Route) (routes : List Route) : List Route :=
  routes.filter (fun r' => !r.sameKey r') ++ [r]

lemma mem_replaceRoute {r r' : Route} {routes : List Route} :
    r' ∈ replaceRoute r routes ↔ r' = r ∨ r' ∈ routes ∧ r.sameKey r' = false := by
  simp [replaceRoute, or_comm]

/-! ### Policy rules -/

/-- A policy rule; the mark is a value and a mask. -/
structure Rule where
  prio : ℕ
  mark : Option (ℕ × ℕ)
  table : ℕ
  deriving DecidableEq, Repr

/-- The mask that compares the whole mark. -/
def fullMask : ℕ := 0xffffffff

/-- Whether a rule matches a packet with a mark. -/
def Rule.fits (r : Rule) (mark : ℕ) : Bool := r.mark.all fun (v, m) => (mark ^^^ v) &&& m == 0

/-- A rule over the whole mark matches that mark only. -/
lemma fits_fullMask {p v t m : ℕ} (hv : v < 2 ^ 32) (hm : m < 2 ^ 32) :
    (Rule.mk p (some (v, fullMask)) t).fits m = true ↔ m = v := by
  have hxor : m ^^^ v < 2 ^ 32 := Nat.xor_lt_two_pow hm hv
  have hmask : (m ^^^ v) &&& fullMask = m ^^^ v := by
    rw [show fullMask = 2 ^ 32 - 1 from rfl, Nat.and_two_pow_sub_one_eq_mod, Nat.mod_eq_of_lt hxor]
  simp [Rule.fits, hmask]

/-- The rule of the table of the host's own addresses. -/
def localRule : Rule := ⟨0, none, 255⟩

/-- The rule of the table of the usual routes. -/
def mainRule : Rule := ⟨32766, none, 254⟩

/-- The rule of the table of last resort. -/
def defaultRule : Rule := ⟨32767, none, 253⟩

/-- Inserting a rule behind those of its priority. -/
def insertRule (r : Rule) (rules : List Rule) : List Rule :=
  rules.takeWhile (·.prio ≤ r.prio) ++ r :: rules.dropWhile (·.prio ≤ r.prio)

lemma insertRule_append {r : Rule} {before after : List Rule}
    (hbefore : ∀ b ∈ before, b.prio ≤ r.prio) (hafter : ∀ a ∈ after.head?, r.prio < a.prio) :
    insertRule r (before ++ after) = before ++ r :: after := by
  have hb : ∀ b ∈ before, decide (b.prio ≤ r.prio) = true := fun b hb => by simpa using hbefore b hb
  rw [insertRule, List.takeWhile_append_of_pos hb, List.dropWhile_append_of_pos hb]
  cases after with
  | nil => simp
  | cons a after =>
      have ha : ¬ a.prio ≤ r.prio := Nat.not_le.2 (hafter a rfl)
      simp [ha]

lemma mem_insertRule {r r' : Rule} {rules : List Rule} :
    r' ∈ insertRule r rules ↔ r' = r ∨ r' ∈ rules := by
  rw [insertRule, List.mem_append, List.mem_cons]
  constructor
  · rintro (h | h | h)
    · exact Or.inr ((List.takeWhile_prefix _).subset h)
    · exact Or.inl h
    · exact Or.inr ((List.dropWhile_suffix _).subset h)
  · rintro (h | h)
    · exact Or.inr (Or.inl h)
    · rw [← List.takeWhile_append_dropWhile (p := fun x : Rule => decide (x.prio ≤ r.prio))
        (l := rules),
        List.mem_append] at h
      exact h.imp id Or.inr

/-- Inserting a rule adds it to the others. -/
lemma insertRule_perm (r : Rule) (rules : List Rule) : (insertRule r rules).Perm (r :: rules) := by
  have hsplit := List.takeWhile_append_dropWhile (p := fun x : Rule => decide (x.prio ≤ r.prio))
    (l := rules)
  rw [insertRule]
  refine List.perm_middle.trans ?_
  rw [hsplit]

end Fib

/-- The rules and routes of a host.  Each family has its rules; the routes are of both, as their
destinations say. -/
structure Fib where
  rules : List Fib.Rule
  rules6 : List Fib.Rule
  routes : List Fib.Route

namespace Fib

open Net

/-- The rules for the packets to a destination. -/
def rulesFor (f : Fib) : IpAddr → List Rule
  | .v4 _ => f.rules
  | .v6 _ => f.rules6

/-- The route that decides about a packet with a mark and a destination. -/
def route (f : Fib) (mark : ℕ) (dst : IpAddr) : Option Route :=
  ((f.rulesFor dst).filter (·.fits mark)).findSome? fun r => lookup f.routes r.table dst

/-! ### The routes of one key -/

/-- The routes of a table with a destination and a metric; a host has at most one. -/
def slot (table : ℕ) (dst : Cidr) (metric : ℕ) (routes : List Route) : List Route :=
  routes.filter fun r => r.table == table && r.dst == dst && r.metric == metric

@[simp] lemma mem_slot {table metric : ℕ} {dst : Cidr} {routes : List Route} {r : Route} :
    r ∈ slot table dst metric routes ↔
      r ∈ routes ∧ r.table = table ∧ r.dst = dst ∧ r.metric = metric := by
  simp [slot, and_assoc]

/-- A route that is put in place is the only one of its key. -/
lemma slot_replaceRoute_self (r : Route) (routes : List Route) :
    slot r.table r.dst r.metric (replaceRoute r routes) = [r] := by
  rw [slot, replaceRoute, List.filter_append, List.filter_filter, List.filter_eq_nil_iff.2]
  · simp
  · intro r' _ h
    simp only [Bool.and_eq_true, beq_iff_eq, Bool.not_eq_true'] at h
    obtain ⟨⟨⟨htable, hdst⟩, hmetric⟩, hne⟩ := h
    rw [Route.sameKey_iff.2 ⟨htable.symm, hdst.symm, hmetric.symm⟩] at hne
    exact absurd hne (by simp)

/-- Putting a route in place that is there already, and alone, changes only the order. -/
lemma replaceRoute_perm {r : Route} {routes : List Route}
    (h : slot r.table r.dst r.metric routes = [r]) : (replaceRoute r routes).Perm routes := by
  have hslot : routes.filter (fun r' => r.sameKey r') = [r] := by
    rw [← h, slot]
    refine List.filter_congr fun r' _ => ?_
    rw [Bool.eq_iff_iff, Route.sameKey_iff, Bool.and_eq_true, Bool.and_eq_true, beq_iff_eq,
      beq_iff_eq, beq_iff_eq, and_assoc, eq_comm, @eq_comm _ r.dst, @eq_comm _ r.metric]
  rw [replaceRoute, ← hslot]
  exact List.perm_append_comm.trans (List.filter_append_perm _ routes)

/-- The routes of the other keys stay. -/
lemma filter_replaceRoute {p : Route → Bool} {r : Route} (hr : p r = false)
    {routes : List Route} (h : ∀ r' ∈ routes, p r' = true → r.sameKey r' = false) :
    (replaceRoute r routes).filter p = routes.filter p := by
  rw [replaceRoute, List.filter_append, List.filter_filter, List.filter_cons_of_neg (by simp [hr]),
    List.filter_nil, List.append_nil]
  refine List.filter_congr fun r' hr' => ?_
  cases hp : p r' with
  | false => rfl
  | true => simp [h r' hr' hp]

lemma slot_replaceRoute_of_ne {table metric : ℕ} {dst : Cidr} {r : Route} (routes : List Route)
    (h : ¬ (r.table = table ∧ r.dst = dst ∧ r.metric = metric)) :
    slot table dst metric (replaceRoute r routes) = slot table dst metric routes := by
  refine filter_replaceRoute ?_ fun r' _ hr' => ?_
  · simpa [and_assoc] using h
  · simp only [Bool.and_eq_true, beq_iff_eq] at hr'
    obtain ⟨⟨rfl, rfl⟩, rfl⟩ := hr'
    cases hs : r.sameKey r' with
    | false => rfl
    | true => exact absurd (Route.sameKey_iff.1 hs) h

/-- The routes of a key depend only on those of its table. -/
lemma slot_congr {table : ℕ} {routes routes' : List Route}
    (h : routes'.filter (·.table == table) = routes.filter (·.table == table)) (dst : Cidr)
    (metric : ℕ) : slot table dst metric routes' = slot table dst metric routes := by
  have hcut : ∀ rs : List Route, slot table dst metric rs =
      (rs.filter (·.table == table)).filter fun r => r.dst == dst && r.metric == metric := by
    intro rs
    rw [slot, List.filter_filter]
    exact List.filter_congr fun r _ => by simp [Bool.and_comm, Bool.and_left_comm]
  rw [hcut, hcut, h]

/-- Removing a route that a filter leaves out changes nothing behind the filter. -/
lemma filter_eraseP {p q : Route → Bool} {routes : List Route}
    (h : ∀ r ∈ routes, q r = true → p r = false) :
    (routes.eraseP q).filter p = routes.filter p := by
  induction routes with
  | nil => rfl
  | cons r routes ih =>
      rw [List.forall_mem_cons] at h
      cases hq : q r with
      | true => rw [List.eraseP_cons_of_pos hq, List.filter_cons_of_neg (by simp [h.1 hq])]
      | false =>
          rw [List.eraseP_cons_of_neg (by simp [hq]), List.filter_cons, List.filter_cons, ih h.2]

/-- Where no two elements are meant, removing the first one that is removes all. -/
lemma eraseP_eq_filter {α : Type*} {p : α → Bool} {l : List α}
    (h : l.Pairwise fun a b => p a = true → p b = false) :
    l.eraseP p = l.filter fun a => !p a := by
  induction l with
  | nil => rfl
  | cons a l ih =>
      rw [List.pairwise_cons] at h
      cases hp : p a with
      | true =>
          rw [List.eraseP_cons_of_pos hp, List.filter_cons_of_neg (by simp [hp]),
            List.filter_eq_self.2 fun b hb => by simp [h.1 b hb hp]]
      | false =>
          rw [List.eraseP_cons_of_neg (by simp [hp]), List.filter_cons_of_pos (by simp [hp]),
            ih h.2]

/-- Removing a route that a filter lets through removes it behind the filter. -/
lemma filter_eraseP_of_imp {p q : Route → Bool} {routes : List Route}
    (h : ∀ r ∈ routes, q r = true → p r = true) :
    (routes.eraseP q).filter p = (routes.filter p).eraseP q := by
  induction routes with
  | nil => rfl
  | cons r routes ih =>
      rw [List.forall_mem_cons] at h
      cases hq : q r with
      | true =>
          rw [List.eraseP_cons_of_pos hq, List.filter_cons_of_pos (h.1 hq),
            List.eraseP_cons_of_pos hq]
      | false =>
          rw [List.eraseP_cons_of_neg (by simp [hq]), List.filter_cons, List.filter_cons, ih h.2]
          cases p r with
          | true => rw [if_pos rfl, if_pos rfl, List.eraseP_cons_of_neg (by simp [hq])]
          | false => rfl

/-! ### Keys -/

/-- No two routes have one key. -/
def Keyed (routes : List Route) : Prop := routes.Pairwise fun r r' => r.sameKey r' = false

instance (routes : List Route) : Decidable (Keyed routes) :=
  inferInstanceAs (Decidable (List.Pairwise _ _))

lemma Keyed.sublist {routes routes' : List Route} (h : Keyed routes)
    (hsub : routes'.Sublist routes) : Keyed routes' :=
  List.Pairwise.sublist hsub h

/-- Putting a route in place keeps the keys apart. -/
lemma Keyed.replaceRoute {routes : List Route} (h : Keyed routes) (r : Route) :
    Keyed (replaceRoute r routes) := by
  refine List.pairwise_append.2 ⟨h.sublist List.filter_sublist, List.pairwise_singleton _ _, ?_⟩
  intro r' hr' x hx
  obtain rfl := List.mem_singleton.1 hx
  have hne : x.sameKey r' = false := by simpa using (List.mem_filter.1 hr').2
  rw [← Bool.not_eq_true, Route.sameKey_iff] at hne ⊢
  exact fun hkey => hne ⟨hkey.1.symm, hkey.2.1.symm, hkey.2.2.symm⟩

/-- Where the keys are apart, the route of a key is the only one. -/
lemma Keyed.slot_eq {routes : List Route} (h : Keyed routes) {r : Route} (hr : r ∈ routes) :
    slot r.table r.dst r.metric routes = [r] := by
  have hkeyed : Keyed (slot r.table r.dst r.metric routes) := h.sublist List.filter_sublist
  have hmem : r ∈ slot r.table r.dst r.metric routes := mem_slot.2 ⟨hr, rfl, rfl, rfl⟩
  rcases hslot : slot r.table r.dst r.metric routes with _ | ⟨a, _ | ⟨b, rest⟩⟩
  · simp [hslot] at hmem
  · rw [hslot] at hmem
    rw [List.mem_singleton.1 hmem]
  · rw [hslot] at hkeyed
    have ha := (mem_slot.1 (hslot ▸ List.mem_cons_self : a ∈ slot r.table r.dst r.metric routes)).2
    have hb := (mem_slot.1 (hslot ▸ List.mem_cons_of_mem _ List.mem_cons_self :
      b ∈ slot r.table r.dst r.metric routes)).2
    have hsame : a.sameKey b = true := Route.sameKey_iff.2
      ⟨ha.1.trans hb.1.symm, ha.2.1.trans hb.2.1.symm, ha.2.2.trans hb.2.2.symm⟩
    have hne := (List.pairwise_cons.1 hkeyed).1 b List.mem_cons_self
    rw [hsame] at hne
    exact absurd hne (by simp)

end Fib
