import Degc.Enforce.Reachable

/-!
# The floors

A gateway's floor is put in place before its rule and nothing removes it: no
command has its key except for the one that puts it in place again, and what the
kernel withdraws leaves by a device.

The main result is `Runs.floor`: whatever plans are run and wherever the runs stop,
the table of every rule that was added has its floor, so that a lookup in it never
comes back empty.
-/

namespace Degc

open Net Text Fib

variable [Libraries]

/-- A host that is reached from another one by running the commands of plans, whatever fails and
wherever a run is killed, while the kernel withdraws routes by a device. -/
inductive Runs (h₀ : Host) : Host → Prop
  | start : Runs h₀ h₀
  | run {h : Host} {p : Plan} {d : Desired} (hr : Runs h₀ h) (hd : Enforce.compile p = .ok d)
      (env : Env) (k : ℕ) : Runs h₀ (Route.apply env.world.ip (d.ip.take k) h).1
  | withdraw {h : Host} (hr : Runs h₀ h) (gone : Route → Bool)
      (hgone : ∀ r, gone r = true → r.hop.oif.isSome = true) :
      Runs h₀ { h with fib := { h.fib with routes := h.fib.routes.filter fun r => !gone r } }

/-- A table has a floor. -/
def HasFloor (table : ℕ) (f : Fib) : Prop :=
  ∃ b ∈ slot table .default4 9999 f.routes, b.hop = .blackhole

/-- The tables of all rules that are not from the beginning have floors. -/
def Floored (f₀ f : Fib) : Prop := ∀ r ∈ f.rules, r ∈ f₀.rules ∨ HasFloor r.table f

omit [Libraries] in
lemma HasFloor.of_routes {table : ℕ} {f f' : Fib} (h : HasFloor table f)
    (hslot : slot table .default4 9999 f'.routes = slot table .default4 9999 f.routes) :
    HasFloor table f' := by
  rwa [HasFloor, hslot]

/-- No command of a gateway removes a floor. -/
lemma HasFloor.effect {table : ℕ} {gp : GatewayPlan} {link : IpAddr → String} {f f' : Fib}
    (h : HasFloor table f) (he : Route.Effect gp f link f') : HasFloor table f' := by
  rcases he.routes_cases with heq | ⟨r, rfl | hlive, heq⟩ | ⟨-, heq⟩
  · exact h.of_routes (by rw [heq])
  · by_cases ht : Route.tableOf gp = table
    · subst ht
      exact ⟨Route.floorOf gp, by simp [heq, Route.floorOf, mem_replaceRoute], rfl⟩
    · refine h.of_routes ?_
      rw [heq]
      exact slot_replaceRoute_of_ne _ fun hkey => ht hkey.1
  · -- a live default has another metric
    refine h.of_routes ?_
    rw [heq]
    exact slot_replaceRoute_of_ne _ (by simp [(Route.liveOf_eq_some hlive).2.1])
  · refine h.of_routes ?_
    rw [heq]
    refine filter_eraseP fun r _ hr => ?_
    simp only [Route.isLive, Bool.and_eq_true, beq_iff_eq] at hr
    simp [hr.2]

/-- A command other than the one for the rule adds no rule, and no command removes a floor. -/
lemma Floored.effect {f₀ f f' : Fib} (h : Floored f₀ f) {gp : GatewayPlan} {link : IpAddr → String}
    (he : Route.Effect gp f link f') (hfloor : f'.rules ≠ f.rules → HasFloor (Route.tableOf gp) f) :
    Floored f₀ f' := by
  intro r hr
  by_cases hold : r ∈ f.rules
  · exact (h r hold).imp id (·.effect he)
  · have hchanged : f'.rules ≠ f.rules := fun heq => hold (heq ▸ hr)
    cases he with
    | rule hnew =>
        obtain rfl : r = Route.ruleOf gp := (mem_insertRule.1 hr).resolve_right hold
        exact Or.inr (hfloor hchanged)
    | _ => exact absurd rfl hchanged

/-- Running the commands of a gateway, as far as one gets. -/
lemma Floored.run {f₀ f : Fib} (h : Floored f₀ f) (env : Env) (gp : GatewayPlan) (k : ℕ) :
    Floored f₀ (Script.run env.runIp ((Route.cmdsOf gp).take k) f).1 := by
  have he : Route.Effect gp f env.link
      { f with routes := replaceRoute (Route.floorOf gp) f.routes } := .floor
  have hfloor : HasFloor (Route.tableOf gp)
      { f with routes := replaceRoute (Route.floorOf gp) f.routes } :=
    ⟨Route.floorOf gp, by simp [Route.floorOf, mem_replaceRoute], rfl⟩
  refine Route.run_behind_floor (Q := fun f => Floored f₀ f ∧ HasFloor (Route.tableOf gp) f) h
    ⟨h.effect he fun hne => absurd rfl hne, hfloor⟩ (fun _ hf => hf.1) (fun c hc f hf => ?_) k
  have he' := Route.effect_of_mem env gp f hc
  exact ⟨hf.1.effect he' fun _ => hf.2, hf.2.effect he'⟩

/-- In every reached host the tables of the added rules have floors. -/
lemma Runs.floored {h₀ h : Host} (hr : Runs h₀ h) : Floored h₀.fib h.fib := by
  induction hr with
  | start => exact fun r hr => Or.inl hr
  | run _ hd env k ih =>
      rw [(env.routeApply_eq _ _).1, (Route.compile_ip hd).1]
      exact Script.run_take_flatMap (fun gp _ k f hf => hf.run env gp k) ih k
  | withdraw _ gone hgone ih =>
      intro r hr
      refine (ih r hr).imp id ?_
      rintro ⟨b, hb, hhop⟩
      -- a floor leaves by no device
      have hstays : gone b = false := by
        rw [← Bool.not_eq_true]
        intro hg
        simpa [hhop, Hop.oif] using hgone b hg
      rw [mem_slot] at hb
      exact ⟨b, mem_slot.2 ⟨List.mem_filter.2 ⟨hb.1, by simp [hstays]⟩, hb.2⟩, hhop⟩

/-- The same for the hosts that are reached by applying plans. -/
lemma Reachable.floored {h₀ h : Host} (hr : Reachable h₀ h) : Floored h₀.fib h.fib := by
  induction hr with
  | start => exact fun r hr => Or.inl hr
  | @apply h p d _ hc env k ih =>
      rcases env.apply_fst (d.upTo k) h with hsame | ⟨-, rs, -, happly⟩
      · rwa [hsame]
      · have hip : (d.upTo k).ip = (p.gateways.flatMap Route.cmdsOf).take k := by
          rw [Desired.upTo, hc.ip]
        rw [happly, hip]
        exact Script.run_take_flatMap (fun gp _ k f hf => hf.run env gp k) ih k

omit [Libraries] in
/-- A lookup in a table with a floor does not come back empty. -/
lemma HasFloor.lookup_ne_none {table : ℕ} {f : Fib} (h : HasFloor table f) (a : BitVec 32) :
    lookup f.routes table (.v4 a) ≠ none := by
  obtain ⟨b, hb, -⟩ := h
  rw [mem_slot] at hb
  intro hnone
  have hserves : b.serves table (.v4 a) = true := by simp [Route.serves, hb.2.1, hb.2.2.1]
  rw [lookup_eq_none.1 hnone b hb.1] at hserves
  exact absurd hserves (by simp)

/-- In every reached host, the table of a rule that was added holds its floor, and a lookup in it
does not come back empty. -/
theorem Runs.floor {h₀ h : Host} (hr : Runs h₀ h) :
    ∀ r ∈ h.fib.rules, r ∉ h₀.fib.rules →
      (∃ b ∈ h.fib.routes, b.table = r.table ∧ b.dst = .default4 ∧ b.metric = 9999 ∧
        b.hop = .blackhole) ∧
      ∀ a : BitVec 32, lookup h.fib.routes r.table (.v4 a) ≠ none := by
  intro r hmem hnew
  have hfloor := (hr.floored r hmem).resolve_left hnew
  have hlookup := hfloor.lookup_ne_none
  obtain ⟨b, hb, hhop⟩ := hfloor
  rw [mem_slot] at hb
  exact ⟨⟨b, hb.1, hb.2.1, hb.2.2.1, hb.2.2.2, hhop⟩, hlookup⟩

omit [Libraries] in
/-- Killed behind the rule of its gateway, a run leaves a table that is never empty. -/
theorem floor_homePlan : ∃ h, @Runs .plain homeHost h ∧
    ⟨100, some (4, fullMask), 100⟩ ∈ h.fib.rules ∧
    ∀ a : BitVec 32, lookup h.fib.routes 100 (.v4 a) ≠ none := by
  obtain ⟨d, hc⟩ := exists_compiled [] "degc" (vpnGateways 100) (by decide) (by decide)
  have hr := @Runs.run .plain _ _ _ d (@Runs.start .plain homeHost)
    (@Compiled.compile .plain _ _ hc)
    Env.allOk 2
  have hmem : ⟨100, some (4, fullMask), 100⟩ ∈
      (Route.apply Env.allOk.world.ip (d.ip.take 2) homeHost).1.fib.rules := by
    rw [@Compiled.ip .plain _ _ hc]
    decide +kernel
  exact ⟨_, hr, hmem, (@Runs.floor .plain _ _ hr _ hmem (by decide)).2⟩

end Degc
