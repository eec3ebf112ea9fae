import Degc.Daemon.Guarded
import Degc.Reconcile.Settles

/-!
# What a tick heals

Events are missed when the task has no stream, and lost with a stream that breaks, so
that the host may lag behind the containers that run; and others may take away what is
installed on it.  A tick leads to a list that shows everything before it, and to an attempt
that puts everything back.

The main result is `Reaches.heals`: left alone after a tick the daemon comes to rest after
a bounded number of steps, and then what the last attempt left, if it succeeded, agrees with
the plan of the containers that run.
-/

namespace Degc.Daemon

open Net Text Netfilter Transition

variable [Libraries]

/-! ### The own steps -/

/-- The steps that the daemon takes by itself. -/
inductive Own (s : Daemon) : Daemon → Prop
  | resubscribe (h : s.loop.watcher = .sleeping) :
      Own s { s with
        loop := { s.loop with watcher := .connecting }
        metrics := s.metrics.watchRestarted }
  | list {trigger : Trigger} (h : s.loop.main = .listing trigger)
      (answer : Except String (List ContainerSummary))
      (hanswer : ∀ cs, answer = .ok cs → cs = s.running) :
      Own s { s with
        loop := { s.loop with main := .applying trigger, seen := s.loop.occurred, fresh := [] }
        answer := answer
        heard := s.silent }
  | applied {trigger : Trigger} (h : s.loop.main = .applying trigger) (env : Env) (unixNow : ℕ) :
      Own s (s.applied trigger env unixNow)
  | plain {l : Reconcile.State} (h : Reconcile.Own s.loop l) (hplain : Plain s.loop l) :
      Own s { s with loop := l }

/-- The daemon takes steps until its loop exits. -/
def Next (s t : Daemon) : Prop := s.loop.main ≠ .exited ∧ Step s t

/-- The same for the steps it takes by itself. -/
def OwnNext (s t : Daemon) : Prop := s.loop.main ≠ .exited ∧ Own s t

section Own

variable {h₀ : Host} {s t : Daemon}

lemma Own.step (h : Own s t) : Step s t := by
  cases h with
  | resubscribe hw => exact .resubscribe hw
  | list hm answer hanswer => exact .list hm answer hanswer
  | applied hm env unixNow => exact .applied hm env unixNow
  | plain hl hplain => exact .plain hl.step hplain

/-- An own step of the daemon is one of the loop or the task. -/
lemma Own.loop (h : Own s t) : Reconcile.Own s.loop t.loop := by
  cases h with
  | resubscribe hw => exact .resubscribe hw
  | list hm answer hanswer => exact .list hm
  | applied hm env unixNow => exact .applied _ hm
  | plain hl hplain => exact hl

omit [Libraries] in
/-- A task that stays where it is does not subscribe again. -/
lemma not_restart (w : Reconcile.Watcher) : ¬ (w = .sleeping ∧ w = .connecting) := by
  rintro ⟨rfl, hconnecting⟩
  cases hconnecting

/-- Where the loop or the task can take an own step, the daemon can. -/
lemma exists_own (hs : Known h₀ s) {l : Reconcile.State} (h : Reconcile.Own s.loop l) :
    ∃ t, Own s t := by
  cases h with
  | list hm => exact ⟨_, .list hm (.error "") (by rintro cs ⟨⟩)⟩
  | applied ok hm => exact ⟨_, .applied hm .allOk 0⟩
  | resubscribe hw => exact ⟨_, .resubscribe hw⟩
  | connect hw => exact ⟨_, .plain (.connect hw) ⟨rfl, fun _ => Iff.rfl, by simp⟩⟩
  | read hw =>
      refine ⟨_, .plain (.read hw) ?_⟩
      rw [Reconcile.State.read]
      split <;> exact ⟨rfl, fun _ => Iff.rfl, by simp⟩
  | send hw => exact ⟨_, .plain (.send hw) ⟨rfl, fun _ => Iff.rfl, by simp⟩⟩
  | ended hw => exact ⟨_, .plain (.ended hw) ⟨rfl, fun _ => Iff.rfl, by simp⟩⟩
  | watch hm =>
      have hw := hs.loop.covered.absent (Or.inr (Or.inr hm))
      exact ⟨_, .plain (.watch hm) ⟨rfl, by simp [hm], by simp [hw]⟩⟩
  | receive hm hsignal =>
      exact ⟨_, .plain (.receive hm hsignal) ⟨rfl, by simp [hm], not_restart _⟩⟩
  | rewatch hm hsignal hw =>
      exact ⟨_, .plain (.rewatch hm hsignal hw) ⟨rfl, fun _ => Iff.rfl, by simp [hw]⟩⟩
  | drain hm hsignal =>
      exact ⟨_, .plain (.drain hm hsignal) ⟨rfl, fun _ => Iff.rfl, not_restart _⟩⟩
  | quiet hm => exact ⟨_, .plain (.quiet hm) ⟨rfl, by simp [hm], not_restart _⟩⟩
  | closed hm hsignal hw =>
      exact ⟨_, .plain (.closed hm hsignal hw) ⟨rfl, by simp [hm], not_restart _⟩⟩

/-- A daemon that takes no step by itself is at rest, or its loop has exited. -/
lemma settled_of_stuck (hs : Known h₀ s) (hmain : s.loop.main ≠ .exited)
    (hstuck : Stuck OwnNext s) : Reconcile.Settled s.loop := by
  have hloop : Stuck Reconcile.OwnNext s.loop := by
    rintro l ⟨-, hl⟩
    obtain ⟨t, ht⟩ := exists_own hs hl
    exact hstuck t ⟨hmain, ht⟩
  exact (hs.loop.stuck_iff.1 hloop).resolve_right hmain

end Own

/-! ### After a tick -/

/-- The daemon when a tick is taken. -/
def tick (s : Daemon) : Daemon :=
  { s with loop := { s.loop with main := .listing .resync, ticked := s.loop.occurred } }

/-- A list is next, or the last one shows everything, and an attempt is next, or the last one put
everything back if it succeeded. -/
structure Fresh (s : Daemon) : Prop where
  list : (∃ trigger, s.loop.main = .listing trigger) ∨
    s.loop.seen = s.loop.occurred ∧ s.heard = s.silent
  attempt : (∃ trigger, s.loop.main = .listing trigger ∨ s.loop.main = .applying trigger) ∨
    ∀ a, s.attempts.getLast? = some a → s.Succeeds a → s.drifted = false
  begins : ¬ s.loop.main.Begins
  goes : s.loop.main ≠ .exited

section Fresh

variable {h₀ : Host} {s t : Daemon}

omit [Libraries] in
/-- Past the first reconcile the own steps of the loop do not exit, and only a list ends the
listing. -/
lemma main_own {l l' : Reconcile.State} (h : Reconcile.Own l l') (hbegins : ¬ l.main.Begins)
    (hgoes : l.main ≠ .exited) : ¬ l'.main.Begins ∧ l'.main ≠ .exited := by
  cases h with
  | read hw =>
      rw [Reconcile.State.read]
      split <;> exact ⟨hbegins, hgoes⟩
  | @list trigger hm =>
      cases trigger with
      | startup => exact absurd (Or.inl hm) hbegins
      | event | resync => simp [Reconcile.Main.Begins]
  | @applied trigger ok hm =>
      cases trigger with
      | startup => exact absurd (Or.inr hm) hbegins
      | event | resync => simp [Reconcile.Main.Begins, Reconcile.Main.applied]
  | watch | receive | quiet | closed => simp [Reconcile.Main.Begins]
  | _ => exact ⟨hbegins, hgoes⟩

omit [Libraries] in
/-- Only a list ends the listing. -/
lemma listing_own {l l' : Reconcile.State} (hl : Reconcile.Own l l') (hplain : Plain l l')
    {trigger : Trigger} (hlisting : l.main = .listing trigger) : l'.main = .listing trigger := by
  cases hl with
  | read hw =>
      rw [Reconcile.State.read]
      split <;> exact hlisting
  | @list trigger hm => exact absurd ((hplain.applying trigger).1 rfl) (by simp [hm])
  | applied ok hm | watch hm | receive hm | quiet hm | closed hm => simp [hlisting] at hm
  | _ => exact hlisting

/-- An attempt that succeeds puts everything back. -/
lemma drifted_applied {trigger : Trigger} {env : Env} {unixNow : ℕ}
    (hok : s.Succeeds (s.attempt trigger env unixNow)) :
    (s.applied trigger env unixNow).drifted = false := by
  have hand : (s.applied trigger env unixNow).drifted =
      (s.drifted && !(s.outcome (s.attempt trigger env unixNow)).stats.isOk) := rfl
  rw [hand, show (s.outcome (s.attempt trigger env unixNow)).stats.isOk = true from hok]
  simp

/-- The own steps keep what the last list shows, and what the last attempt put back. -/
lemma fresh_own (hf : Fresh s) (h : Own s t) : Fresh t := by
  obtain ⟨hbegins, hgoes⟩ := main_own h.loop hf.begins hf.goes
  refine ⟨?_, ?_, hbegins, hgoes⟩
  · cases h with
    | resubscribe hw => exact hf.list
    | list hm answer hanswer => exact Or.inr ⟨rfl, rfl⟩
    | applied hm env unixNow =>
        rcases hf.list with ⟨trigger, hlisting⟩ | hshown
        · simp [hm] at hlisting
        · exact Or.inr hshown
    | @plain l hl hplain =>
        rcases hf.list with ⟨trigger, hlisting⟩ | hshown
        · exact Or.inl ⟨trigger, listing_own hl hplain hlisting⟩
        · refine Or.inr ?_
          rw [hplain.seen hl.step, hplain.occurred]
          exact hshown
  · cases h with
    | resubscribe hw => exact hf.attempt
    | list hm answer hanswer => exact Or.inl ⟨_, Or.inr rfl⟩
    | @applied trigger hm env unixNow =>
        refine Or.inr fun a ha hok => ?_
        obtain rfl := Option.some.inj ((getLast?_applied s trigger env unixNow).symm.trans ha)
        exact drifted_applied hok
    | @plain l hl hplain =>
        refine hf.attempt.imp_left ?_
        rintro ⟨trigger, hlisting | happlying⟩
        · exact ⟨trigger, Or.inl (listing_own hl hplain hlisting)⟩
        · exact ⟨trigger, Or.inr ((hplain.applying trigger).2 happlying)⟩

/-- The own steps leave the containers and the configuration as they are. -/
lemma plan_own (h : Own s t) : t.plan = s.plan := by
  cases h <;> rfl

/-- What is known of a daemon that is left alone. -/
lemma alone_own {p : Plan} (hs : Reaches h₀ s ∧ Fresh s ∧ s.plan = p) (h : OwnNext s t) :
    Reaches h₀ t ∧ Fresh t ∧ t.plan = p :=
  ⟨hs.1.step h.1 h.2.step, fresh_own hs.2.1 h.2, (plan_own h.2).trans hs.2.2⟩

lemma Reaches.tick (hs : Reaches h₀ s) (hidle : s.loop.main = .idle) : Reaches h₀ s.tick :=
  hs.step (by simp [hidle]) (.plain (.tick hidle) ⟨rfl, by simp [hidle], not_restart _⟩)

/-- Left alone after a tick, the daemon comes to rest after a bounded number of steps, whatever
their order is.  Then the last attempt, if it succeeded, left everything as the plan of the
containers that ran at the tick says, whatever was missed or lost, and whatever others took away,
before. -/
theorem Reaches.heals (hconn : Connected h₀) (hs : Reaches h₀ s) (hidle : s.loop.main = .idle) :
    (∃ m t, Run OwnNext Next s.tick m 0 t ∧ Stuck OwnNext t) ∧
      ∀ m t, Run OwnNext Next s.tick m 0 t → m ≤ s.loop.rank + 2 ∧
        (Stuck OwnNext t → Reconcile.Settled t.loop ∧ ∃ a, t.attempts.getLast? = some a ∧
          (t.Succeeds a → Agrees h₀ t a s.plan)) := by
  have hrank : ∀ s t, OwnNext s t → t.loop.rank < s.loop.rank := fun _ _ h =>
    Reconcile.rank_own h.2.loop
  have hnext : ∀ s t, Next s t → t.loop.rank ≤ s.loop.rank + 6 := by
    rintro s t ⟨-, h⟩
    rcases h.loop_cases with h | h
    · exact Reconcile.rank_step h
    · rw [h]
      exact Nat.le_add_right _ _
  refine ⟨exists_stuck hrank s.tick, fun m t hrun => ⟨?_, fun hstuck => ?_⟩⟩
  · have hle := hrun.rank_add_le hrank hnext
    have htick : s.tick.loop.rank = s.loop.rank + 2 := Reconcile.rank_tick hidle
    omega
  · obtain ⟨ht, hf, hplan⟩ := hrun.alone (fun _ _ hs h => alone_own hs h) rfl
      ⟨hs.tick hidle, ⟨Or.inl ⟨_, rfl⟩, Or.inl ⟨_, Or.inl rfl⟩,
        by simp [Daemon.tick, Reconcile.Main.Begins], by simp [Daemon.tick]⟩, rfl⟩
    have hsettled := settled_of_stuck ht.known hf.goes hstuck
    have hshown : t.loop.seen = t.loop.occurred ∧ t.heard = t.silent :=
      hf.list.resolve_left (by simp [hsettled.idle])
    obtain ⟨b, hb, -⟩ := (ht.attempted.ready.resolve_left hf.begins).resolve_left hf.goes
    obtain ⟨a, hlast⟩ : ∃ a, t.attempts.getLast? = some a :=
      ⟨_, List.getLast?_eq_getLast_of_ne_nil (List.ne_nil_of_mem hb)⟩
    refine ⟨hsettled, a, hlast, fun hok => ?_⟩
    rw [show s.plan = t.plan from hplan.symm]
    have hback := hf.attempt.resolve_left (by simp [hsettled.idle]) a hlast hok
    exact agrees_of_seen hconn ht.known hsettled.idle hshown.1 hshown.2 hback hlast hok

end Fresh

omit [Libraries] in
/-- The daemon when others have flushed the packet filter. -/
def flush (s : Daemon) : Daemon :=
  { s with host := { s.host with nft := ∅ }, drifted := true, flushed := true }

lemma Reaches.flush {h₀ : Host} {s : Daemon} (hs : Reaches h₀ s) (hidle : s.loop.main = .idle) :
    Reaches h₀ s.flush := hs.step (by simp [hidle]) (.flush ∅)

lemma plan_flush (s : Daemon) : s.flush.plan = s.plan := rfl

omit [Libraries] in
/-- In the home network, two steps after a tick everything is at rest again, though others had
flushed the packet filter. -/
theorem heals_subscribed : ∃ m t, m ≤ 2 ∧
    Run (@OwnNext .plain) (@Next .plain) (tick (flush subscribedDaemon)) m 0 t ∧
    Reconcile.Settled t.loop ∧ ∃ a, t.attempts.getLast? = some a ∧
      (@Succeeds .plain t a → @Agrees .plain homeHost t a (@plan .plain subscribedDaemon)) := by
  have hflushed := @Reaches.flush .plain _ _ reaches_subscribed rfl
  obtain ⟨⟨m, t, hrun, hstuck⟩, hall⟩ :=
    @Reaches.heals .plain _ _ connected_homeHost hflushed rfl
  obtain ⟨hle, hrest⟩ := hall m t hrun
  rw [@plan_flush .plain] at hrest
  exact ⟨m, t, hle, hrun, hrest hstuck⟩

end Degc.Daemon
