import Degc.Enforce.Injective
import Degc.Plan.Accounted
import Degc.Reconcile.Shown

/-!
# The summary as a fingerprint

A reconcile whose plan has the summary of the one before is not logged as a change.
`Shown` is what a summary shows of a plan, and `HidesLike` compares what it hides.

The main result `summary_iff` says when one summary means one state of the host and the
same problems: when plans of which the same is shown also agree in what is hidden.  In a
run of reconciles every change is logged exactly when this is so of every two reconciles
that follow one another.
-/

namespace Degc.Reconcile

open Net

variable [Libraries]

/-! ### Two plans -/

/-- What a plan is compiled from. -/
structure Input where
  pfx : String
  gws : Gateways
  targets : List Target

namespace Input

def plan (x : Input) : Plan := Plan.compile x.targets x.pfx x.gws

def merged (x : Input) : Gateways := (Plan.merge x.pfx x.gws x.targets).1

def shown (x : Input) : Shown := Reconcile.shown x.pfx x.gws x.targets

/-- The addresses of the containers of a gateway. -/
def addrs (x : Input) (g : Gateway) : List IpAddr :=
  (containersOf x.pfx x.gws x.targets g.name).flatMap Target.addrs

def LegibleNames (x : Input) : Prop := Reconcile.LegibleNames x.pfx x.gws x.targets

end Input

/-- Two plans have the same script and commands and the same problems. -/
structure SameState (p q : Plan) : Prop where
  host : hostState p = hostState q
  unresolved : p.unresolved = q.unresolved
  conflicts : p.conflicts = q.conflicts
  errors : p.discoveryErrors = q.discoveryErrors

/-- Two gateways agree in what is hidden of them. -/
structure HiddenAlike (x y : Input) (g g' : Gateway) : Prop where
  mark : g.effectiveMark = g'.effectiveMark
  table : g.tableId = g'.tableId
  /-- Of an egress that is down, the reason is hidden. -/
  reason : ∀ why why', Plan.resolveEgress g x.targets = .unavailable why →
    Plan.resolveEgress g' y.targets = .unavailable why' → why = why'
  addrs : ∀ ip, ip ∈ x.addrs g ↔ ip ∈ y.addrs g'
  locals4 : Nft.locals4 g = Nft.locals4 g'
  /-- Without an IPv6 address the IPv6 networks are not used. -/
  locals6 : (∃ ip ∈ x.addrs g, ip.isIpv6 = true) → Nft.locals6 g = Nft.locals6 g'
  /-- Without an egress there is nothing to masquerade. -/
  snat : (∀ why, Plan.resolveEgress g x.targets ≠ .unavailable why) →
    g.snatEnabled = g'.snatEnabled

/-- Two gateways agree in what is shown of them and of use for the host. -/
structure HeadAlike (x y : Input) (g g' : Gateway) : Prop where
  name : Nft.sanitize g.name = Nft.sanitize g'.name
  egress : Plan.resolveEgress g x.targets = Plan.resolveEgress g' y.targets

/-- What is hidden is alike: whether the marks and the tables keep apart, then the gateways one by
one, and the problems that are counted. -/
structure HidesLike (x y : Input) : Prop where
  apart : x.merged.RoutesApart ↔ y.merged.RoutesApart
  gateways : x.merged.RoutesApart → List.Forall₂ (HiddenAlike x y) x.merged y.merged
  unresolved : unresolvedEntries x.pfx x.gws x.targets = unresolvedEntries y.pfx y.gws y.targets
  conflicts : conflictEntries x.pfx x.gws x.targets = conflictEntries y.pfx y.gws y.targets
  errors : (Plan.merge x.pfx x.gws x.targets).2 = (Plan.merge y.pfx y.gws y.targets).2

/-- The gateways are set up under the same names and with the same egresses. -/
def HeadsAlike (x y : Input) : Prop :=
  x.merged.RoutesApart → List.Forall₂ (HeadAlike x y) x.merged y.merged

/-- Different things are shown by one text. -/
def Garbled (x y : Input) : Prop := x.shown ≠ y.shown ∧ x.shown.text = y.shown.text

/-- What is shown alike hides what is alike; and where different things have one text, the host
does not see the difference. -/
structure Faithful (x y : Input) : Prop where
  hidden : x.shown = y.shown → HidesLike x y
  garbled : Garbled x y → HidesLike x y ∧ HeadsAlike x y

variable {x y : Input}

lemma faithful_of_text_ne (h : x.shown.text ≠ y.shown.text) : Faithful x y :=
  ⟨fun he => absurd (congrArg Shown.text he) h, fun hg => absurd hg.2 h⟩

lemma SameState.refl (p : Plan) : SameState p p := ⟨rfl, rfl, rfl, rfl⟩

lemma SameState.symm {p q : Plan} (h : SameState p q) : SameState q p :=
  ⟨h.host.symm, h.unresolved.symm, h.conflicts.symm, h.errors.symm⟩

lemma SameState.trans {p q r : Plan} (h : SameState p q) (h' : SameState q r) : SameState p r :=
  ⟨h.host.trans h'.host, h.unresolved.trans h'.unresolved, h.conflicts.trans h'.conflicts,
    h.errors.trans h'.errors⟩

lemma Input.merged_eq (x : Input) : x.merged = x.plan.gateways.map (·.gateway) :=
  (Plan.mergedGateways_compile x.gws).symm

lemma Input.mem_addrs (hx : (x.gws.map (·.name)).Nodup) {gp : GatewayPlan}
    (hgp : gp ∈ x.plan.gateways) {ip : IpAddr} : ip ∈ x.addrs gp.gateway ↔ ip ∈ gp.members := by
  rw [Plan.mem_members_compile hx hgp]
  simp only [addrs, List.mem_flatMap, mem_containersOf hx hgp, and_assoc]

/-- What the lines of two gateways are made of, from the containers and the configurations. -/
lemma sameRules_iff (hx : (x.gws.map (·.name)).Nodup) (hy : (y.gws.map (·.name)).Nodup)
    {gp gp' : GatewayPlan} (hgp : gp ∈ x.plan.gateways) (hgp' : gp' ∈ y.plan.gateways) :
    gp.SameRules gp' ↔
      HiddenAlike x y gp.gateway gp'.gateway ∧ HeadAlike x y gp.gateway gp'.gateway := by
  have he : gp.egress = Plan.resolveEgress gp.gateway x.targets := Plan.egress_eq hgp
  have he' : gp'.egress = Plan.resolveEgress gp'.gateway y.targets := Plan.egress_eq hgp'
  have hm (ip : IpAddr) : ip ∈ x.addrs gp.gateway ↔ ip ∈ gp.members := Input.mem_addrs hx hgp
  have hm' (ip : IpAddr) : ip ∈ y.addrs gp'.gateway ↔ ip ∈ gp'.members := Input.mem_addrs hy hgp'
  constructor
  · intro h
    refine ⟨⟨h.mark, h.table, fun why why' hw hw' => ?_, fun ip => ?_, h.locals4, fun h6 => ?_,
      fun hup => h.snat fun why => he ▸ hup why⟩, h.name, he ▸ he' ▸ h.egress⟩
    · rw [← he, h.egress, he', hw'] at hw
      exact (Egress.unavailable.inj hw).symm
    · rw [hm, hm', h.members]
    · obtain ⟨ip, hip, h6⟩ := h6
      exact h.locals6 ⟨ip, (hm ip).1 hip, h6⟩
  · rintro ⟨hhidden, hhead⟩
    refine ⟨hhead.name, hhidden.mark, hhidden.table, ?_, fun ip => ?_, hhidden.locals4,
      fun h6 => ?_, fun hup => hhidden.snat fun why => he ▸ hup why⟩
    · rw [he, he', hhead.egress]
    · rw [← hm, ← hm', hhidden.addrs]
    · obtain ⟨ip, hip, h6⟩ := h6
      exact hhidden.locals6 ⟨ip, (hm ip).2 hip, h6⟩

/-- Two plans are of one state exactly when what is hidden of them is alike, and of what is shown
what the host is set up from. -/
lemma sameState_iff (hx : x.gws.validate = .ok ()) (hy : y.gws.validate = .ok ()) :
    SameState x.plan y.plan ↔ HidesLike x y ∧ HeadsAlike x y := by
  have hhost := @hostState_eq_iff _ x.pfx y.pfx x.gws y.gws x.targets y.targets hx hy
  have hxn := (Gateways.validate_eq_ok.1 hx).names
  have hyn := (Gateways.validate_eq_ok.1 hy).names
  have hgateways : List.Forall₂ GatewayPlan.SameRules x.plan.gateways y.plan.gateways ↔
      List.Forall₂ (HiddenAlike x y) x.merged y.merged ∧
        List.Forall₂ (HeadAlike x y) x.merged y.merged := by
    rw [← Blocks.forall₂_and_iff, x.merged_eq, y.merged_eq, List.forall₂_map_left_iff,
      List.forall₂_map_right_iff]
    exact ⟨Blocks.forall₂_imp_of_mem fun gp hgp gp' hgp' => (sameRules_iff hxn hyn hgp hgp').1,
      Blocks.forall₂_imp_of_mem fun gp hgp gp' hgp' => (sameRules_iff hxn hyn hgp hgp').2⟩
  rw [Plan.mergedGateways_compile, Plan.mergedGateways_compile] at hhost
  obtain ⟨hu, hc, he⟩ := @problems_compile _ x.pfx x.gws x.targets
  obtain ⟨hu', hc', he'⟩ := @problems_compile _ y.pfx y.gws y.targets
  constructor
  · rintro ⟨h, hunresolved, hconflicts, herrors⟩
    obtain ⟨hapart, hrules⟩ := hhost.1 h
    exact ⟨⟨hapart, fun ha => (hgateways.1 (hrules ha)).1, hu ▸ hu' ▸ hunresolved,
      hc ▸ hc' ▸ hconflicts, he ▸ he' ▸ herrors⟩, fun ha => (hgateways.1 (hrules ha)).2⟩
  · rintro ⟨h, hheads⟩
    refine ⟨hhost.2 ⟨h.apart, fun ha => hgateways.2 ⟨h.gateways ha, hheads ha⟩⟩, ?_, ?_, ?_⟩
    · exact hu.trans (h.unresolved.trans hu'.symm)
    · exact hc.trans (h.conflicts.trans hc'.symm)
    · exact he.trans (h.errors.trans he'.symm)

/-- Where the same is shown, the names and the egresses are the same but for the reasons why an
egress is down. -/
lemma HidesLike.heads (h : HidesLike x y) (hshown : x.shown = y.shown) : HeadsAlike x y := by
  intro ha
  have hgateways : List.Forall₂ (fun g g' => shownGateway x.pfx x.gws x.targets g =
      shownGateway y.pfx y.gws y.targets g') x.merged y.merged :=
    Blocks.forall₂_of_map_eq (congrArg Shown.gateways hshown)
  refine (Blocks.forall₂_and_iff.2 ⟨hgateways, h.gateways ha⟩).imp fun g g' hg => ?_
  obtain ⟨hg, hhidden⟩ := hg
  refine ⟨congrArg (fun s => Nft.sanitize s.name) hg, ?_⟩
  have hegress : shownEgress (Plan.resolveEgress g x.targets) =
      shownEgress (Plan.resolveEgress g' y.targets) := congrArg ShownGateway.egress hg
  have hreason := hhidden.reason
  cases hr : Plan.resolveEgress g x.targets <;> cases hr' : Plan.resolveEgress g' y.targets <;>
    simp_all [shownEgress]

/-- One summary means one state exactly when what is shown is faithful to what is hidden. -/
lemma faithful_iff (hx : x.gws.validate = .ok ()) (hy : y.gws.validate = .ok ()) :
    (planSummary x.plan = planSummary y.plan → SameState x.plan y.plan) ↔ Faithful x y := by
  have htext : planSummary x.plan = x.shown.text :=
    planSummary_compile (Gateways.validate_eq_ok.1 hx).names
  have htext' : planSummary y.plan = y.shown.text :=
    planSummary_compile (Gateways.validate_eq_ok.1 hy).names
  rw [htext, htext', sameState_iff hx hy]
  constructor
  · exact fun h => ⟨fun hshown => (h (congrArg Shown.text hshown)).1, fun hg => h hg.2⟩
  · intro h he
    by_cases hshown : x.shown = y.shown
    · exact ⟨h.hidden hshown, (h.hidden hshown).heads hshown⟩
    · exact h.garbled ⟨hshown, he⟩

/-- Where the names keep to themselves, different things are shown by different texts. -/
lemma not_garbled (hx : x.gws.validate = .ok ()) (hy : y.gws.validate = .ok ())
    (hxl : x.LegibleNames) (hyl : y.LegibleNames) : ¬ Garbled x y :=
  fun h => h.1 (Shown.text_injective (hxl.legible hx) (hyl.legible hy) h.2)

/-! ### A run of reconciles -/

/-- A request to reconcile, with what Docker answers. -/
structure Request where
  trigger : Trigger
  answer : Except String (List ContainerSummary)

/-- A successful reconcile: what triggered it, what its plan was compiled from and the lines it
logged. -/
structure Report where
  trigger : Trigger
  input : Input
  lines : List LogLine

/-- The report of one reconcile, if it succeeds. -/
def report {σ : Type} (pfx : String) (gws : Gateways) (r : Request) (out : Outcome σ) :
    List Report :=
  match listTargets r.answer, out.stats with
  | .ok targets, .ok _ => [⟨r.trigger, ⟨pfx, gws, targets⟩, out.lines⟩]
  | _, _ => []

/-- The reports of a run of reconciles. -/
def reports {σ : Type} (enforcer : Enforcer σ) (pfx : String) (gws : Gateways) :
    σ → Option String → List Request → List Report
  | _, _, [] => []
  | s, fp, r :: rs =>
      let out := reconcileApply enforcer pfx gws r.trigger r.answer s fp
      report pfx gws r out ++ reports enforcer pfx gws out.host out.lastFp rs

/-- A reconcile is logged as a change, with a line for each problem. -/
def Report.AtInfo (r : Report) : Prop := changeLines r.trigger r.input.plan <:+ r.lines

instance (r : Report) : Decidable r.AtInfo := inferInstanceAs (Decidable (_ <:+ _))

/-- The last reconcile that was logged as a change. -/
def lastLogged (rs : List Report) : Option Report := rs.reverse.find? fun r => decide r.AtInfo

/-- Every reconcile that changes the host or the problems with respect to the one that was logged
last is logged, with its problems. -/
def ChangesLogged (rs : List Report) : Prop :=
  ∀ before r after, rs = before ++ r :: after →
    (∀ q, lastLogged before = some q → ¬ SameState q.input.plan r.input.plan → r.AtInfo) ∧
      (lastLogged before = none → r.AtInfo)

lemma lastLogged_append (rs : List Report) (r : Report) :
    lastLogged (rs ++ [r]) = if r.AtInfo then some r else lastLogged rs := by
  rw [lastLogged, List.reverse_append, List.reverse_singleton, List.singleton_append,
    List.find?_cons]
  by_cases h : r.AtInfo <;> simp [h, lastLogged]

lemma level_changeLines {trigger : Trigger} {plan : Plan} {l : LogLine}
    (h : l ∈ changeLines trigger plan) : l.level ≠ .debug := by
  rcases List.mem_cons.1 h with rfl | h
  · exact fun he => Level.noConfusion he
  · simp only [problemLines, List.mem_append, List.mem_map] at h
    rcases h with (⟨_, -, rfl⟩ | ⟨_, -, rfl⟩) | ⟨_, -, rfl⟩ <;> simp

/-- What is logged of a plan ends with its change exactly when its summary is new. -/
lemma changeLines_suffix_iff (trigger : Trigger) (fp : Option String) (plan : Plan)
    (ls : List LogLine) :
    changeLines trigger plan <:+ ls ++ (logPlan trigger fp plan).1 ↔
      fp ≠ some (planSummary plan) := by
  by_cases h : fp = some (planSummary plan)
  · refine iff_of_false (fun hsuffix => ?_) (not_not.2 h)
    -- the last line is at the level of debugging, and none of the change is
    obtain ⟨us, hus⟩ := hsuffix
    have hne : changeLines trigger plan ≠ [] := List.cons_ne_nil _ _
    have hlast := congrArg List.getLast? hus
    rw [logPlan, if_pos h, List.getLast?_concat, List.getLast?_append_of_ne_nil _ hne] at hlast
    exact level_changeLines (List.mem_of_getLast? hlast) rfl
  · refine iff_of_true ?_ h
    rw [logPlan, if_neg h]
    exact List.suffix_append _ _

/-- A reconcile that succeeds is logged as a change exactly when its summary is not the
fingerprint, and leaves its summary as the fingerprint. -/
lemma report_cases {σ : Type} (enforcer : Enforcer σ) (pfx : String) (gws : Gateways) (r : Request)
    (s : σ) (fp : Option String) :
    let out := reconcileApply enforcer pfx gws r.trigger r.answer s fp
    (report pfx gws r out = [] ∧ out.lastFp = fp) ∨
      ∃ rep, report pfx gws r out = [rep] ∧ rep.input.pfx = pfx ∧ rep.input.gws = gws ∧
        (rep.AtInfo ↔ fp ≠ some (planSummary rep.input.plan)) ∧
        out.lastFp = some (planSummary rep.input.plan) := by
  intro out
  rcases reconcileApply_cases enforcer pfx gws r.trigger r.answer s fp with
    ⟨-, e, he⟩ | ⟨targets, d, hlist, -, ⟨e, he⟩ | ⟨-, he⟩⟩
  · refine Or.inl ⟨?_, congrArg Outcome.lastFp he⟩
    simp only [out, he, report]
    cases listTargets r.answer <;> rfl
  · exact Or.inl ⟨by simp only [out, he, report, hlist], congrArg Outcome.lastFp he⟩
  · refine Or.inr ⟨⟨r.trigger, ⟨pfx, gws, targets⟩, out.lines⟩, ?_, rfl, rfl, ?_, ?_⟩
    · simp only [out, he, report, hlist]
    · have hlines : out.lines = _ := congrArg Outcome.lines he
      rw [Report.AtInfo, hlines]
      exact changeLines_suffix_iff _ _ _ _
    · exact (congrArg Outcome.lastFp he).trans (logPlan_snd _ _ _)

/-- A reconcile of a run is logged as a change exactly when the one before has another summary;
without one before, when the summary is not the fingerprint. -/
lemma atInfo_of_split {σ : Type} {enforcer : Enforcer σ} {pfx : String} {gws : Gateways} {s : σ}
    {fp : Option String} {rs : List Request} {before after : List Report} {r : Report}
    (h : reports enforcer pfx gws s fp rs = before ++ r :: after) :
    r.input.pfx = pfx ∧ r.input.gws = gws ∧
      (r.AtInfo ↔ (before.getLast?.map fun p => planSummary p.input.plan).or fp ≠
        some (planSummary r.input.plan)) := by
  induction rs generalizing s fp before with
  | nil => simp [reports] at h
  | cons req rs ih =>
      rw [reports] at h
      rcases report_cases enforcer pfx gws req s fp with ⟨hreport, hlast⟩ |
        ⟨rep, hreport, hpfx, hgws, hinfo, hlast⟩
      · rw [hreport, hlast, List.nil_append] at h
        exact ih h
      · rw [hreport, hlast, List.singleton_append] at h
        cases before with
        | nil =>
            obtain ⟨rfl, -⟩ := List.cons.inj h
            exact ⟨hpfx, hgws, hinfo⟩
        | cons b bs =>
            rw [List.cons_append, List.cons.injEq] at h
            obtain ⟨rfl, hrest⟩ := h
            obtain ⟨hpfx', hgws', hinfo'⟩ := ih hrest
            refine ⟨hpfx', hgws', hinfo'.trans ?_⟩
            -- the reconcile before is the last one, or the one that was just reported
            cases bs with
            | nil => rfl
            | cons c cs =>
                rw [List.getLast?_cons_cons, List.getLast?_eq_some_getLast (List.cons_ne_nil c cs)]
                rfl

/-- In a list of reports one is logged as a change exactly when the one before has another
summary. -/
structure Fingerprinted (rs : List Report) : Prop where
  first : ∀ r after, rs = r :: after → r.AtInfo
  next : ∀ before p r after, rs = before ++ p :: r :: after →
    (r.AtInfo ↔ planSummary p.input.plan ≠ planSummary r.input.plan)

lemma fingerprinted_reports {σ : Type} (enforcer : Enforcer σ) (pfx : String) (gws : Gateways)
    (s : σ) (rs : List Request) : Fingerprinted (reports enforcer pfx gws s none rs) := by
  refine ⟨fun r after h => ?_, fun before p r after h => ?_⟩
  · rw [← List.nil_append (r :: after)] at h
    exact (atInfo_of_split h).2.2.2 (by simp)
  · rw [List.append_cons] at h
    simpa using (atInfo_of_split h).2.2

/-- Where one summary means one state from each reconcile to the next, the one that was logged last
is of the state of the last one. -/
lemma Fingerprinted.lastLogged_eq {rs : List Report} (h : Fingerprinted rs)
    (hsame : ∀ before p r after, rs = before ++ p :: r :: after →
      planSummary p.input.plan = planSummary r.input.plan → SameState p.input.plan r.input.plan)
    {before after : List Report} {p : Report} (hsplit : rs = before ++ p :: after) :
    ∃ q, lastLogged (before ++ [p]) = some q ∧ SameState q.input.plan p.input.plan := by
  induction before using List.reverseRecOn generalizing p after with
  | nil =>
      refine ⟨p, ?_, SameState.refl _⟩
      rw [lastLogged_append, if_pos (h.first p after hsplit)]
  | append_singleton before b ih =>
      rw [← List.append_cons] at hsplit
      rw [lastLogged_append]
      by_cases hinfo : p.AtInfo
      · exact ⟨p, if_pos hinfo, SameState.refl _⟩
      · obtain ⟨q, hq, hstate⟩ := ih hsplit
        rw [h.next _ _ _ _ hsplit, not_not] at hinfo
        refine ⟨q, ?_, hstate.trans (hsame _ _ _ _ hsplit hinfo)⟩
        rw [if_neg (by rw [h.next _ _ _ _ hsplit, not_not]; exact hinfo), hq]

/-- Every change is logged exactly when one summary means one state from each reconcile to the
next. -/
lemma Fingerprinted.changesLogged_iff {rs : List Report} (h : Fingerprinted rs) :
    ChangesLogged rs ↔ ∀ before p r after, rs = before ++ p :: r :: after →
      planSummary p.input.plan = planSummary r.input.plan →
        SameState p.input.plan r.input.plan := by
  constructor
  · intro hlogged before p r after hsplit hsummary
    have hno : ¬ r.AtInfo := by rw [h.next _ _ _ _ hsplit, not_not]; exact hsummary
    have hsplit' : rs = (before ++ [p]) ++ r :: after := hsplit.trans (List.append_cons _ _ _)
    cases hlast : lastLogged (before ++ [p]) with
    | none => exact absurd ((hlogged _ _ _ hsplit').2 hlast) hno
    | some q =>
        have hqr : SameState q.input.plan r.input.plan :=
          by_contra fun hne => hno ((hlogged _ _ _ hsplit').1 q hlast hne)
        rw [lastLogged_append] at hlast
        split_ifs at hlast with hinfo
        · exact Option.some.inj hlast ▸ hqr
        · have hqp : SameState q.input.plan p.input.plan :=
            by_contra fun hne => hinfo ((hlogged _ _ _ hsplit).1 q hlast hne)
          exact hqp.symm.trans hqr
  · intro hsame before r after hsplit
    cases before using List.reverseRecOn with
    | nil => exact ⟨by simp [lastLogged], fun _ => h.first _ _ hsplit⟩
    | append_singleton before p =>
        rw [← List.append_cons] at hsplit
        obtain ⟨q, hq, hstate⟩ := h.lastLogged_eq hsame hsplit
        refine ⟨fun q' hq' hne => ?_, fun hnone => by simp [hq] at hnone⟩
        obtain rfl : q = q' := Option.some.inj (hq.symm.trans hq')
        rw [h.next _ _ _ _ hsplit]
        exact fun hsummary => hne (hstate.trans (hsame _ _ _ _ hsplit hsummary))

/-- One summary means one script, one list of commands and the same problems exactly when what is
shown is faithful to what is hidden; where the names keep to themselves, only the same things have
one text.  In a run of reconciles every change is logged exactly when this is so from each
reconcile to the next. -/
theorem summary_iff :
    (∀ x y : Input, x.gws.validate = .ok () → y.gws.validate = .ok () →
      ((planSummary x.plan = planSummary y.plan → SameState x.plan y.plan) ↔ Faithful x y) ∧
        (x.LegibleNames → y.LegibleNames → ¬ Garbled x y)) ∧
      ∀ (σ : Type) (enforcer : Enforcer σ) (pfx : String) (gws : Gateways) (s : σ)
        (rs : List Request), gws.validate = .ok () →
        (ChangesLogged (reports enforcer pfx gws s none rs) ↔
          ∀ before p r after, reports enforcer pfx gws s none rs = before ++ p :: r :: after →
            Faithful p.input r.input) := by
  refine ⟨fun x y hx hy => ⟨faithful_iff hx hy, not_garbled hx hy⟩,
    fun σ enforcer pfx gws s rs hvalid => ?_⟩
  rw [(fingerprinted_reports enforcer pfx gws s rs).changesLogged_iff]
  refine forall_congr' fun before => forall_congr' fun p => forall_congr' fun r =>
    forall_congr' fun after => forall_congr' fun hsplit => ?_
  have hp : p.input.gws = gws := (atInfo_of_split hsplit).2.1
  have hr : r.input.gws = gws := (atInfo_of_split (hsplit.trans (List.append_cons _ _ _))).2.1
  exact faithful_iff (hp.symm ▸ hvalid) (hr.symm ▸ hvalid)

/-- In a dry run every reconcile succeeds whose plan compiles. -/
lemma inputs_dryRun {pfx : String} {gws : Gateways} {answers : List (List ContainerSummary)}
    (h : ∀ cs ∈ answers, ∃ d, Enforce.compile (Plan.compile (cs.map (·.target)) pfx gws) = .ok d)
    (fp : Option String) :
    (reports dryRunEnforcer pfx gws () fp (answers.map fun cs => ⟨.event, .ok cs⟩)).map (·.input) =
      answers.map fun cs => ⟨pfx, gws, cs.map (·.target)⟩ := by
  induction answers generalizing fp with
  | nil => rfl
  | cons cs answers ih =>
      rw [List.forall_mem_cons] at h
      obtain ⟨d, hd⟩ := h.1
      have hlist : listTargets (.ok cs) = .ok (cs.map (·.target)) := rfl
      let plan := Plan.compile (cs.map (·.target)) pfx gws
      have hout : reconcileApply dryRunEnforcer pfx gws .event (.ok cs) () fp =
          ⟨(), (logPlan .event fp plan).2, dryRunLines d ++ (logPlan .event fp plan).1,
            .ok (statsOf plan)⟩ := by
        simp only [reconcileApply, hlist, hd, dryRunEnforcer, plan]
      rw [List.map_cons, reports, hout, List.map_append, ih h.2, report, hlist]
      rfl

/-- The containers that are listed, and one gateway on a host interface. -/
def appInput (cs : List ContainerSummary) : Input :=
  ⟨"degc", Plan.wireguardGateways, cs.map (·.target)⟩

omit [Libraries] in
/-- No container declares a gateway, so the plan compiles. -/
lemma exists_compile_appInput {cs : List ContainerSummary}
    (h : @Input.merged .plain (appInput cs) = Plan.wireguardGateways) :
    ∃ d, @Enforce.compile .plain (@Input.plan .plain (appInput cs)) = .ok d := by
  refine @exists_compile .plain _ ?_
  rw [show (@Input.plan .plain (appInput cs)).gateways.map (·.gateway) = Plan.wireguardGateways from
    (@Input.merged_eq .plain _).symm.trans h]
  exact @Gateways.Valid.apart .plain _ ((@Gateways.validate_eq_ok .plain _ ()).1 rfl)

/-- The reports of a dry run for what Docker lists time after time. -/
def appReports (answers : List (List ContainerSummary)) : List Report :=
  @reports .plain Unit dryRunEnforcer "degc" Plan.wireguardGateways () none
    (answers.map fun cs => ⟨.event, .ok cs⟩)

omit [Libraries] in
lemma fingerprinted_appReports (answers : List (List ContainerSummary)) :
    @Fingerprinted .plain (appReports answers) :=
  @fingerprinted_reports .plain Unit dryRunEnforcer "degc" Plan.wireguardGateways () _

omit [Libraries] in
lemma inputs_appReports {answers : List (List ContainerSummary)}
    (h : ∀ cs ∈ answers, @Input.merged .plain (appInput cs) = Plan.wireguardGateways) :
    (appReports answers).map (·.input) = answers.map appInput :=
  @inputs_dryRun .plain _ _ _ (fun cs hcs => exists_compile_appInput (h cs hcs)) none

omit [Libraries] in
/-- A run in which the container is away before it has another address logs all changes. -/
theorem summary_kept :
    @ChangesLogged .plain (appReports [[Plan.appContainer "services" "172.18.0.7"], [],
      [Plan.appContainer "services" "172.18.0.8"]]) := by
  refine ((@summary_iff .plain).2 Unit dryRunEnforcer "degc" Plan.wireguardGateways () _ rfl).2
    fun before p r after h => ?_
  have hinputs : (appReports [[Plan.appContainer "services" "172.18.0.7"], [],
      [Plan.appContainer "services" "172.18.0.8"]]).map (·.input) =
        [appInput [Plan.appContainer "services" "172.18.0.7"], appInput [],
          appInput [Plan.appContainer "services" "172.18.0.8"]] := by
    refine inputs_appReports ?_
    simp only [List.forall_mem_cons, List.not_mem_nil, false_implies, implies_true, and_true]
    exact ⟨rfl, rfl, rfl⟩
  have hsplit := (congrArg (List.map Report.input) h).symm.trans hinputs
  rcases before with _ | ⟨b, _ | ⟨c, bs⟩⟩
  · simp only [List.nil_append, List.map_cons, List.cons.injEq] at hsplit
    rw [hsplit.1, hsplit.2.1]
    exact @faithful_of_text_ne .plain _ _ (by decide +kernel)
  · simp only [List.cons_append, List.nil_append, List.map_cons, List.cons.injEq] at hsplit
    rw [hsplit.2.1, hsplit.2.2.1]
    exact @faithful_of_text_ne .plain _ _ (by decide +kernel)
  · -- there are no more than three
    have hlength := congrArg List.length hsplit
    simp only [List.length_map, List.length_append, List.length_cons, List.length_nil] at hlength
    omega

omit [Libraries] in
/-- The address of the only member changes: the summary stays the same, the script does not, and
the change is not logged. -/
theorem summary_collides :
    @Gateways.validate .plain Plan.wireguardGateways = .ok () ∧
      planSummary (Plan.planOf (Plan.appContainer "services" "172.18.0.7")) =
        planSummary (Plan.planOf (Plan.appContainer "services" "172.18.0.8")) ∧
      @hostState .plain (Plan.planOf (Plan.appContainer "services" "172.18.0.7")) ≠
        @hostState .plain (Plan.planOf (Plan.appContainer "services" "172.18.0.8")) ∧
      ¬ @ChangesLogged .plain (appReports [[Plan.appContainer "services" "172.18.0.7"],
        [Plan.appContainer "services" "172.18.0.8"]]) := by
  have hsummary : planSummary (Plan.planOf (Plan.appContainer "services" "172.18.0.7")) =
      planSummary (Plan.planOf (Plan.appContainer "services" "172.18.0.8")) := by decide +kernel
  have hstate : @hostState .plain (Plan.planOf (Plan.appContainer "services" "172.18.0.7")) ≠
      @hostState .plain (Plan.planOf (Plan.appContainer "services" "172.18.0.8")) := by
    decide +kernel
  refine ⟨rfl, hsummary, hstate, fun h => ?_⟩
  have hinputs : (appReports [[Plan.appContainer "services" "172.18.0.7"],
      [Plan.appContainer "services" "172.18.0.8"]]).map (·.input) =
        [appInput [Plan.appContainer "services" "172.18.0.7"],
          appInput [Plan.appContainer "services" "172.18.0.8"]] := by
    refine inputs_appReports ?_
    simp only [List.forall_mem_cons, List.not_mem_nil, false_implies, implies_true, and_true]
    exact ⟨rfl, rfl⟩
  obtain ⟨p, _, hreports, hp, hrest⟩ := List.map_eq_cons_iff.1 hinputs
  obtain ⟨r, _, rfl, hr, hnil⟩ := List.map_eq_cons_iff.1 hrest
  obtain rfl := List.map_eq_nil_iff.1 hnil
  have hsame : @SameState .plain (@Input.plan .plain p.input) (@Input.plan .plain r.input) :=
    (@Fingerprinted.changesLogged_iff .plain _ (fingerprinted_appReports _)).1 h [] p r [] hreports
      (hp ▸ hr ▸ hsummary)
  rw [hp, hr] at hsame
  exact hstate (@SameState.host .plain _ _ hsame)

end Degc.Reconcile
