import Degc.Reconcile
import Mathlib.Logic.Relation

/-!
# The event watcher and the main loop

A task watches the events of Docker and signals the main loop over a channel that
holds one signal; the loop debounces the signals and reconciles.  Events, the task
and the loop take their steps in any order.

The events that change the set of containers are numbered in the order in which
they occur, and the state remembers what became of them.  `covered_step` is what
one step keeps of that.  The main results are `Reachable.announced`, for the events
that reach the task, and `Reachable.gaps`, for those that do not.
-/

namespace Degc.Reconcile

/-! ### Events -/

/-- The types of the objects events are about. -/
inductive EventType
  | builder
  | config
  | container
  | daemon
  | image
  | network
  | node
  | plugin
  | secret
  | service
  | volume
  deriving DecidableEq

/-- An event, as Docker reports it. -/
structure EventMessage where
  typ : Option EventType := none
  action : Option String := none

/-- Whether an event changes the set of running containers. -/
def isRelevant (msg : EventMessage) : Bool :=
  msg.typ == some .container &&
    (msg.action == some "start" || msg.action == some "die" || msg.action == some "destroy")

/-- Sending to a channel that holds one signal at most: what it holds then, and whether the signal
was taken. -/
def trySend (full : Bool) : Bool × Bool := (true, !full)

/-! ### The state -/

/-- An event in a stream, with the number of relevant events up to it. -/
abbrev Item := ℕ × EventMessage

/-- Where the task is.  A stream holds the events that are not read yet, and is live as long as
Docker adds to it. -/
inductive Watcher
  | absent
  | connecting
  | listening (unread : List Item) (live : Bool)
  /-- A relevant event was read; the signal for it is next. -/
  | sending (unread : List Item) (live : Bool)
  | sleeping
  | stopped

/-- Where the main loop is. -/
inductive Main
  /-- The containers are to be listed next. -/
  | listing (trigger : Trigger)
  /-- They were asked for; the plan is compiled and applied. -/
  | applying (trigger : Trigger)
  /-- The first reconcile succeeded, and the task is to be started. -/
  | starting
  | idle
  | debouncing
  | exited
  deriving DecidableEq

/-- The state of the process, and what became of the relevant events. -/
structure State where
  watcher : Watcher := .absent
  /-- Whether the channel holds a signal. -/
  signal : Bool := false
  main : Main := .listing .startup
  /-- The number of relevant events so far. -/
  occurred : ℕ := 0
  /-- Their number when the containers were last asked for. -/
  seen : ℕ := 0
  /-- Their number when the last tick was taken. -/
  ticked : ℕ := 0
  /-- The relevant events the task has read since the containers were last asked for. -/
  fresh : List ℕ := []
  /-- The relevant events that occurred while there was no live stream. -/
  missed : List ℕ := []
  /-- The relevant events that were not read when their stream broke. -/
  dropped : List ℕ := []

/-- The numbers of the relevant events in a stream. -/
def numbers (items : List Item) : List ℕ := (items.filter fun i => isRelevant i.2).map (·.1)

/-- The events in the stream of the task. -/
def Watcher.unread : Watcher → List Item
  | .listening items _ | .sending items _ => items
  | _ => []

/-! ### The steps -/

/-- An event occurs: Docker adds it to a live stream. -/
def State.occur (s : State) (msg : EventMessage) : State :=
  let n := if isRelevant msg then s.occurred + 1 else s.occurred
  match s.watcher with
  | .listening items true =>
      { s with occurred := n, watcher := .listening (items ++ [(n, msg)]) true }
  | .sending items true =>
      { s with occurred := n, watcher := .sending (items ++ [(n, msg)]) true }
  | _ => { s with occurred := n, missed := numbers [(n, msg)] ++ s.missed }

/-- The task reads the next event. -/
def State.read (s : State) (item : Item) (items : List Item) (live : Bool) : State :=
  if isRelevant item.2 then
    { s with watcher := .sending items live, fresh := item.1 :: s.fresh }
  else { s with watcher := .listening items live }

/-- Where the loop is after a reconcile.  The first one must succeed. -/
def Main.applied (trigger : Trigger) (ok : Bool) : Main :=
  match trigger with
  | .startup => if ok then .starting else .exited
  -- a failure is logged, and the loop goes on
  | .event | .resync => .idle

/-- The steps of the containers, the task and the loop. -/
inductive Step (s : State) : State → Prop
  | occur (msg : EventMessage) : Step s (s.occur msg)
  | connect (h : s.watcher = .connecting) : Step s { s with watcher := .listening [] true }
  | refuse (h : s.watcher = .connecting) : Step s { s with watcher := .sleeping }
  /-- The stream breaks, and some of the events that were not read do not arrive. -/
  | cut {items : List Item} (k : ℕ) (h : s.watcher = .listening items true) :
      Step s { s with
        watcher := .listening (items.take k) false
        dropped := numbers (items.drop k) ++ s.dropped }
  | cutSending {items : List Item} (k : ℕ) (h : s.watcher = .sending items true) :
      Step s { s with
        watcher := .sending (items.take k) false
        dropped := numbers (items.drop k) ++ s.dropped }
  | read {item : Item} {items : List Item} {live : Bool}
      (h : s.watcher = .listening (item :: items) live) : Step s (s.read item items live)
  /-- A signal the channel has no room for is dropped. -/
  | send {items : List Item} {live : Bool} (h : s.watcher = .sending items live) :
      Step s { s with watcher := .listening items live, signal := (trySend s.signal).1 }
  /-- Behind the last event of a broken stream the task waits before it subscribes again. -/
  | ended (h : s.watcher = .listening [] false) : Step s { s with watcher := .sleeping }
  | resubscribe (h : s.watcher = .sleeping) : Step s { s with watcher := .connecting }
  /-- The task stops, not between an event and its signal. -/
  | stop (h : s.watcher ≠ .absent) (hsend : ∀ items live, s.watcher ≠ .sending items live) :
      Step s { s with watcher := .stopped, dropped := numbers s.watcher.unread ++ s.dropped }
  | list {trigger : Trigger} (h : s.main = .listing trigger) :
      Step s { s with main := .applying trigger, seen := s.occurred, fresh := [] }
  | applied {trigger : Trigger} (ok : Bool) (h : s.main = .applying trigger) :
      Step s { s with main := .applied trigger ok }
  | watch (h : s.main = .starting) : Step s { s with main := .idle, watcher := .connecting }
  | tick (h : s.main = .idle) : Step s { s with main := .listing .resync, ticked := s.occurred }
  | receive (h : s.main = .idle) (hsignal : s.signal = true) :
      Step s { s with main := .debouncing, signal := false }
  /-- The channel is empty and has no sender: the task is started again. -/
  | rewatch (h : s.main = .idle) (hsignal : s.signal = false) (hstopped : s.watcher = .stopped) :
      Step s { s with watcher := .connecting }
  | drain (h : s.main = .debouncing) (hsignal : s.signal = true) : Step s { s with signal := false }
  | quiet (h : s.main = .debouncing) : Step s { s with main := .listing .event }
  | closed (h : s.main = .debouncing) (hsignal : s.signal = false)
      (hstopped : s.watcher = .stopped) : Step s { s with main := .listing .event }
  | shutdown (h : s.main = .idle) : Step s { s with main := .exited }

/-- The process takes steps until the loop exits.  The receiver of the channel is not dropped
before that, unless the task has stopped. -/
def Next (s t : State) : Prop := s.main ≠ .exited ∧ Step s t

/-- The states of the process. -/
def Reachable (s : State) : Prop := Relation.ReflTransGen Next {} s

/-! ### What becomes of the events -/

/-- A signal is about to be sent, is in the channel, or was consumed and the containers are not
asked for yet. -/
def Announced (s : State) : Prop :=
  (∃ items live, s.watcher = .sending items live) ∨ s.signal = true ∨ s.main = .debouncing ∨
    s.main = .listing .event

/-- Where a relevant event is that the last list does not show. -/
def Placed (s : State) (n : ℕ) : Prop :=
  n ∈ s.missed ∨ n ∈ s.dropped ∨ n ∈ numbers s.watcher.unread ∨ Announced s

/-- What is known in every state about the relevant events. -/
structure Covered (s : State) : Prop where
  /-- What the task has read is announced. -/
  fresh : s.fresh ≠ [] → Announced s
  /-- What the last list does not show was missed or dropped, or is not read, or is announced. -/
  events : ∀ n, s.seen < n → n ≤ s.occurred → Placed s n
  /-- A tick that is over has shown everything before it. -/
  ticked : s.ticked ≤ s.occurred ∧ ((∀ t, s.main ≠ .listing t) → s.ticked ≤ s.seen)
  /-- There is no task before the first reconcile has succeeded. -/
  absent : s.main = .listing .startup ∨ s.main = .applying .startup ∨ s.main = .starting →
    s.watcher = .absent

lemma numbers_append (items items' : List Item) :
    numbers (items ++ items') = numbers items ++ numbers items' := by
  rw [numbers, List.filter_append, List.map_append]
  rfl

lemma mem_numbers_take_drop {items : List Item} (k : ℕ) {n : ℕ} (h : n ∈ numbers items) :
    n ∈ numbers (items.take k) ∨ n ∈ numbers (items.drop k) := by
  rw [← List.take_append_drop k items, numbers_append, List.mem_append] at h
  exact h

section Places

variable {s : State}

lemma Announced.of_sending {items : List Item} {live : Bool}
    (h : s.watcher = .sending items live) : Announced s := Or.inl ⟨items, live, h⟩

lemma Announced.of_signal (h : s.signal = true) : Announced s := Or.inr (Or.inl h)

lemma Announced.of_debouncing (h : s.main = .debouncing) : Announced s :=
  Or.inr (Or.inr (Or.inl h))

lemma Announced.of_listing (h : s.main = .listing .event) : Announced s :=
  Or.inr (Or.inr (Or.inr h))

variable {n : ℕ}

lemma Placed.of_missed (h : n ∈ s.missed) : Placed s n := Or.inl h

lemma Placed.of_dropped (h : n ∈ s.dropped) : Placed s n := Or.inr (Or.inl h)

lemma Placed.of_unread (h : n ∈ numbers s.watcher.unread) : Placed s n := Or.inr (Or.inr (Or.inl h))

lemma Placed.of_announced (h : Announced s) : Placed s n := Or.inr (Or.inr (Or.inr h))

end Places

/-- Where the loop and the channel stay and the task does not send, what is announced stays so. -/
lemma Announced.of_eq {s t : State} (h : Announced s) (hsignal : t.signal = s.signal)
    (hmain : t.main = s.main) (hwatcher : ∀ items live, s.watcher = .sending items live →
      ∃ items live, t.watcher = .sending items live) : Announced t := by
  rcases h with ⟨items, live, h⟩ | h | h | h
  · obtain ⟨items, live, h⟩ := hwatcher items live h
    exact .of_sending h
  · exact .of_signal (hsignal.trans h)
  · exact .of_debouncing (hmain.trans h)
  · exact .of_listing (hmain.trans h)

section Step

variable {s t : State}

/-- What an event changes: the task stays where it is. -/
lemma occur_eq (s : State) (msg : EventMessage) :
    (s.occur msg).signal = s.signal ∧ (s.occur msg).main = s.main ∧
      (s.occur msg).seen = s.seen ∧ (s.occur msg).ticked = s.ticked ∧
      (s.occur msg).fresh = s.fresh ∧ (s.occur msg).dropped = s.dropped ∧
      (s.occur msg).occurred = (if isRelevant msg then s.occurred + 1 else s.occurred) := by
  rw [State.occur]
  split <;> exact ⟨rfl, rfl, rfl, rfl, rfl, rfl, rfl⟩

/-- What is announced stays so until the containers are asked for. -/
lemma announced_step (hs : Covered s) (h : Step s t) (ha : Announced s) :
    Announced t ∨ t.seen = t.occurred ∧ t.fresh = [] := by
  -- a step out of a place of the loop where nothing is announced
  have hmoved : ∀ m, s.main = m → m ≠ .debouncing → m ≠ .listing .event →
      (∃ items live, s.watcher = .sending items live) ∨ s.signal = true := by
    rintro m rfl hdebounce hevent
    rcases ha with ha | ha | ha | ha
    · exact Or.inl ha
    · exact Or.inr ha
    · exact absurd ha hdebounce
    · exact absurd ha hevent
  cases h with
  | occur msg =>
      obtain ⟨hsignal, hmain, -⟩ := occur_eq s msg
      refine Or.inl (ha.of_eq hsignal hmain fun items live hw => ?_)
      rw [State.occur, hw]
      cases live
      · exact ⟨items, false, rfl⟩
      · exact ⟨_, true, rfl⟩
  | connect hw | refuse hw | cut k hw | ended hw | resubscribe hw =>
      exact Or.inl (ha.of_eq rfl rfl fun _ _ hw' => by simp [hw] at hw')
  | cutSending k hw => exact Or.inl (ha.of_eq rfl rfl fun _ _ _ => ⟨_, _, rfl⟩)
  | @read item items live hw =>
      rw [State.read]
      split
      · exact Or.inl (.of_sending rfl)
      · exact Or.inl (ha.of_eq rfl rfl fun _ _ hw' => by simp [hw] at hw')
  | send hw => exact Or.inl (.of_signal rfl)
  | stop hw hsend => exact Or.inl (ha.of_eq rfl rfl fun items live hw' => absurd hw' (hsend _ _))
  | list hm => exact Or.inr ⟨rfl, rfl⟩
  | applied ok hm | tick hm | shutdown hm =>
      rcases hmoved _ hm (by simp) (by simp) with ⟨items, live, ha⟩ | ha
      · exact Or.inl (.of_sending ha)
      · exact Or.inl (.of_signal ha)
  | watch hm =>
      rcases hmoved _ hm (by simp) (by simp) with ⟨items, live, ha⟩ | ha
      · simp [hs.absent (Or.inr (Or.inr hm))] at ha
      · exact Or.inl (.of_signal ha)
  | receive hm hsignal => exact Or.inl (.of_debouncing rfl)
  | rewatch hm hsignal hw => exact Or.inl (ha.of_eq rfl rfl fun _ _ hw' => by simp [hw] at hw')
  | drain hm hsignal => exact Or.inl (.of_debouncing hm)
  | quiet | closed => exact Or.inl (.of_listing rfl)

/-- Only a relevant event that the task reads is new among those it has read. -/
lemma fresh_step (h : Step s t) :
    t.fresh = s.fresh ∨ t.fresh = [] ∨ Announced t := by
  cases h with
  | occur msg => exact Or.inl (occur_eq s msg).2.2.2.2.1
  | @read item items live hw =>
      rw [State.read]
      split
      · exact Or.inr (Or.inr (.of_sending rfl))
      · exact Or.inl rfl
  | list => exact Or.inr (Or.inl rfl)
  | _ => exact Or.inl rfl

/-- What was not read is still there when an event occurs. -/
lemma unread_occur (s : State) (msg : EventMessage) {n : ℕ}
    (hn : n ∈ numbers s.watcher.unread) : n ∈ numbers (s.occur msg).watcher.unread := by
  rw [State.occur]
  split
  · next hw =>
      rw [hw] at hn
      rw [Watcher.unread, numbers_append]
      exact List.mem_append_left _ hn
  · next hw =>
      rw [hw] at hn
      rw [Watcher.unread, numbers_append]
      exact List.mem_append_left _ hn
  · exact hn

/-- A relevant event that was not read is read, dropped, or stays where it is. -/
lemma unread_step (hs : Covered s) (h : Step s t) {n : ℕ} (hn : n ∈ numbers s.watcher.unread) :
    Placed t n := by
  cases h with
  | occur msg => exact .of_unread (unread_occur s msg hn)
  | connect hw | refuse hw | ended hw | resubscribe hw | rewatch hm hsignal hw =>
      simp [hw, Watcher.unread, numbers] at hn
  | cut k hw | cutSending k hw =>
      rw [hw] at hn
      rcases mem_numbers_take_drop k hn with hn | hn
      · exact .of_unread hn
      · exact .of_dropped (List.mem_append_left _ hn)
  | @read item items live hw =>
      rw [State.read]
      split
      · exact .of_announced (.of_sending rfl)
      · rename_i hrelevant
        rw [hw] at hn
        refine .of_unread ?_
        simpa [Watcher.unread, numbers, hrelevant] using hn
  | send hw => exact .of_announced (.of_signal rfl)
  | stop hw hsend => exact .of_dropped (List.mem_append_left _ hn)
  | watch hm => simp [hs.absent (Or.inr (Or.inr hm)), Watcher.unread, numbers] at hn
  | _ => exact .of_unread hn

/-- What was missed or dropped stays so. -/
lemma lost_step (h : Step s t) {n : ℕ} (hn : n ∈ s.missed ∨ n ∈ s.dropped) :
    n ∈ t.missed ∨ n ∈ t.dropped := by
  cases h with
  | occur msg =>
      rw [State.occur]
      split
      · exact hn
      · exact hn
      · exact hn.imp_left (List.mem_append_right _)
  | read hw =>
      rw [State.read]
      split <;> exact hn
  | cut | cutSending | stop => exact hn.imp_right (List.mem_append_right _)
  | _ => exact hn

/-- An event is placed until the containers are asked for. -/
lemma placed_step (hs : Covered s) (h : Step s t) {n : ℕ} (hn : Placed s n) :
    Placed t n ∨ t.seen = t.occurred := by
  rcases hn with hn | hn | hn | hn
  · exact Or.inl ((lost_step h (Or.inl hn)).imp_right Or.inl)
  · exact Or.inl ((lost_step h (Or.inr hn)).imp_right Or.inl)
  · exact Or.inl (unread_step hs h hn)
  · exact (announced_step hs h hn).imp .of_announced (·.1)

/-- A new relevant event goes to the stream, or is missed. -/
lemma occurred_step (h : Step s t) :
    t.occurred = s.occurred ∨ t.occurred = s.occurred + 1 ∧ Placed t t.occurred := by
  cases h with
  | occur msg =>
      by_cases hrelevant : isRelevant msg
      · have hoccurred : (s.occur msg).occurred = s.occurred + 1 := by simp [occur_eq, hrelevant]
        refine Or.inr ⟨hoccurred, ?_⟩
        rw [hoccurred, State.occur]
        split
        · exact .of_unread (by simp [Watcher.unread, numbers, hrelevant])
        · exact .of_unread (by simp [Watcher.unread, numbers, hrelevant])
        · exact .of_missed (by simp [numbers, hrelevant])
      · exact Or.inl (by simp [occur_eq, hrelevant])
  | read hw =>
      rw [State.read]
      split <;> exact Or.inl rfl
  | _ => exact Or.inl rfl

lemma seen_step (h : Step s t) : t.seen = s.seen ∨ t.seen = t.occurred := by
  cases h with
  | occur msg => exact Or.inl (occur_eq s msg).2.2.1
  | read hw =>
      rw [State.read]
      split <;> exact Or.inl rfl
  | list => exact Or.inr rfl
  | _ => exact Or.inl rfl

/-- A tick that is taken, or one before it, is over once the containers are asked for. -/
lemma ticked_step (hs : Covered s) (h : Step s t) :
    t.ticked ≤ t.occurred ∧ ((∀ r, t.main ≠ .listing r) → t.ticked ≤ t.seen) := by
  obtain ⟨hle, hover⟩ := hs.ticked
  cases h with
  | occur msg =>
      obtain ⟨-, hmain, hseen, hticked, -, -, hoccurred⟩ := occur_eq s msg
      rw [hmain, hseen, hticked, hoccurred]
      refine ⟨hle.trans ?_, hover⟩
      split <;> omega
  | read hw =>
      rw [State.read]
      split <;> exact ⟨hle, hover⟩
  | list hm => exact ⟨hle, fun _ => hle⟩
  | applied ok hm | watch hm | receive hm hsignal | shutdown hm =>
      exact ⟨hle, fun _ => hover (by simp [hm])⟩
  | tick hm => exact ⟨le_rfl, fun h => absurd rfl (h .resync)⟩
  | quiet hm => exact ⟨hle, fun h => absurd rfl (h .event)⟩
  | closed hm hsignal hw => exact ⟨hle, fun h => absurd rfl (h .event)⟩
  | _ => exact ⟨hle, hover⟩

/-- The task is first started after a reconcile that succeeded. -/
lemma absent_step (hs : Covered s) (h : Step s t)
    (hm : t.main = .listing .startup ∨ t.main = .applying .startup ∨ t.main = .starting) :
    t.watcher = .absent := by
  have habsent := hs.absent
  cases h with
  | occur msg =>
      rw [(occur_eq s msg).2.1] at hm
      rw [State.occur, habsent hm]
  | connect hw | refuse hw | cut k hw | cutSending k hw | send hw | ended hw | resubscribe hw =>
      exact absurd (hw.symm.trans (habsent hm)) (by simp)
  | @read item items live hw =>
      have hmain : (s.read item items live).main = s.main := by
        rw [State.read]
        split <;> rfl
      rw [hmain] at hm
      exact absurd (hw.symm.trans (habsent hm)) (by simp)
  | stop hw hsend => exact absurd (habsent hm) hw
  | list hlisting =>
      simp only [Main.applying.injEq, reduceCtorEq, or_false, false_or] at hm
      exact habsent (Or.inl (hm ▸ hlisting))
  | @applied trigger ok happlying =>
      have hstartup : trigger = .startup := by
        cases trigger with
        | startup => rfl
        | event | resync => simp [Main.applied] at hm
      exact habsent (Or.inr (Or.inl (hstartup ▸ happlying)))
  | rewatch hidle | drain hidle => simp [hidle] at hm
  | watch | tick | receive | quiet | closed | shutdown => simp at hm

/-- What is known of the relevant events is kept by every step. -/
lemma covered_step (hs : Covered s) (h : Step s t) : Covered t where
  fresh ht := by
    rcases fresh_step h with hfresh | hfresh | ha
    · rcases announced_step hs h (hs.fresh (hfresh ▸ ht)) with ha | ⟨-, hnil⟩
      · exact ha
      · exact absurd hnil ht
    · exact absurd hfresh ht
    · exact ha
  events n hseen hn := by
    by_cases hold : n ≤ s.occurred
    · rcases seen_step h with hkept | hkept
      · rcases placed_step hs h (hs.events n (hkept ▸ hseen) hold) with hplaced | hshown
        · exact hplaced
        · omega
      · omega
    · rcases occurred_step h with hkept | ⟨hnext, hnew⟩
      · omega
      · obtain rfl : n = t.occurred := by omega
        exact hnew
  ticked := ticked_step hs h
  absent := absent_step hs h

end Step

lemma covered_start : Covered {} where
  fresh h := absurd rfl h
  events n hseen hn := by
    simp only at hseen hn
    omega
  ticked := ⟨le_rfl, fun _ => le_rfl⟩
  absent _ := rfl

/-- What is known of the relevant events holds in every state of the process. -/
lemma Reachable.covered {s : State} (h : Reachable s) : Covered s := by
  induction h with
  | refl => exact covered_start
  | tail _ hnext ih => exact covered_step ih hnext.2

lemma Reachable.step {s t : State} (h : Reachable s) (hmain : s.main ≠ .exited) (hst : Step s t) :
    Reachable t :=
  Relation.ReflTransGen.tail h ⟨hmain, hst⟩

/-! ### The events that reach the task -/

/-- Whatever the order of the steps, a relevant event that the task has read since the containers
were last asked for is announced: an idle loop with an empty channel has seen it, unless the task
is about to signal. -/
theorem Reachable.announced {s : State} (h : Reachable s) :
    (s.fresh ≠ [] → Announced s) ∧
      (s.main = .idle → s.signal = false → (∀ items live, s.watcher ≠ .sending items live) →
        s.fresh = []) := by
  refine ⟨h.covered.fresh, fun hidle hsignal hsend => ?_⟩
  by_contra hfresh
  rcases h.covered.fresh hfresh with ⟨items, live, ha⟩ | ha | ha | ha
  · exact hsend items live ha
  · simp [hsignal] at ha
  · simp [hidle] at ha
  · simp [hidle] at ha

/-- A container starts. -/
def startEvent : EventMessage := { typ := some .container, action := some "start" }

/-- After the first list the reconcile succeeds, and the task subscribes. -/
lemma reachable_subscribed {occurred seen : ℕ} {missed : List ℕ}
    (h : Reachable { main := .applying .startup, occurred, seen, missed }) :
    Reachable { main := .idle, watcher := .listening [] true, occurred, seen, missed } := by
  have happlied : Reachable { main := .starting, occurred, seen, missed } :=
    h.step (by simp) (@Step.applied _ .startup true rfl)
  have hstarted : Reachable
      { main := .idle, watcher := .connecting, occurred, seen, missed } :=
    happlied.step (by simp) (.watch rfl)
  exact hstarted.step (by simp) (.connect rfl)

lemma reachable_listed : Reachable { main := .applying .startup } :=
  Reachable.step .refl (by simp) (.list rfl)

/-- The second of two events is read while the loop debounces the first. -/
def debouncingState : State :=
  { main := .debouncing, watcher := .listening [] true, occurred := 2, fresh := [2, 1] }

lemma reachable_debouncing : Reachable debouncingState := by
  have hoccurred : Reachable
      { main := .idle, watcher := .listening [(1, startEvent)] true, occurred := 1 } :=
    (reachable_subscribed reachable_listed).step (by simp) (.occur startEvent)
  have hread : Reachable
      { main := .idle, watcher := .sending [] true, occurred := 1, fresh := [1] } :=
    hoccurred.step (by simp) (@Step.read _ (1, startEvent) [] true rfl)
  have hsent : Reachable
      { main := .idle, watcher := .listening [] true, signal := true, occurred := 1,
        fresh := [1] } :=
    hread.step (by simp) (.send rfl)
  have hreceived : Reachable
      { main := .debouncing, watcher := .listening [] true, occurred := 1, fresh := [1] } :=
    hsent.step (by simp) (.receive rfl rfl)
  have hoccurred : Reachable
      { main := .debouncing, watcher := .listening [(2, startEvent)] true, occurred := 2,
        fresh := [1] } :=
    hreceived.step (by simp) (.occur startEvent)
  have hread : Reachable
      { main := .debouncing, watcher := .sending [] true, occurred := 2, fresh := [2, 1] } :=
    hoccurred.step (by simp) (@Step.read _ (2, startEvent) [] true rfl)
  have hsent : Reachable
      { main := .debouncing, watcher := .listening [] true, signal := true, occurred := 2,
        fresh := [2, 1] } :=
    hread.step (by simp) (.send rfl)
  exact hsent.step (by simp) (.drain rfl rfl)

/-- The signal for the second event was drained, and the loop will still list. -/
theorem Reachable.announced_debouncing :
    Reachable debouncingState ∧ debouncingState.fresh ≠ [] ∧ Announced debouncingState := by
  have hfresh : debouncingState.fresh ≠ [] := by simp [debouncingState]
  exact ⟨reachable_debouncing, hfresh, (Reachable.announced reachable_debouncing).1 hfresh⟩

/-! ### The events that do not -/

/-- With a task that is subscribed, an empty channel and an idle loop, the last list shows every
event that occurred while the task was not subscribed. -/
def NoGap (s : State) : Prop :=
  (∃ items, s.watcher = .listening items true) → s.signal = false → s.main = .idle →
    ∀ n ∈ s.missed, n ≤ s.seen

/-- Between two states the task begins to subscribe, for the first time or again, or is
subscribed. -/
def Subscribes (s t : State) : Prop :=
  s.watcher ≠ .connecting ∧ t.watcher = .connecting ∨
    s.watcher = .connecting ∧ t.watcher = .listening [] true

lemma Subscribes.ne {s t : State} (hs : Subscribes s t) : t.watcher ≠ s.watcher := by
  rintro heq
  rcases hs with ⟨hne, he⟩ | ⟨hc, hl⟩
  · exact hne (heq ▸ he)
  · simp [heq, hc] at hl

/-- To subscribe puts no signal in the channel and asks for no list; with the first subscription the
loop becomes idle. -/
lemma subscribes_step {s t : State} (h : Step s t) (hs : Subscribes s t) :
    t.signal = s.signal ∧ t.seen = s.seen ∧ t.fresh = s.fresh ∧
      (t.main = s.main ∨ s.main = .starting ∧ t.main = .idle) := by
  cases h with
  | occur msg =>
      obtain ⟨hsignal, hmain, hseen, -, hfresh, -⟩ := occur_eq s msg
      exact ⟨hsignal, hseen, hfresh, Or.inl hmain⟩
  | connect | refuse | resubscribe | rewatch => exact ⟨rfl, rfl, rfl, Or.inl rfl⟩
  | watch hm => exact ⟨rfl, rfl, rfl, Or.inr ⟨hm, rfl⟩⟩
  | read hw =>
      rcases hs with ⟨-, he⟩ | ⟨he, -⟩
      · rw [State.read] at he
        split at he <;> simp at he
      · simp [hw] at he
  | send hw =>
      rcases hs with ⟨-, he⟩ | ⟨he, -⟩
      · simp at he
      · simp [hw] at he
  | cut | cutSending | ended | stop => exact ⟨rfl, rfl, rfl, Or.inl rfl⟩
  | _ => exact absurd rfl hs.ne

/-- Whatever the order of the steps, to subscribe leaves no signal and leads to no list.  An idle
loop whose channel is empty and whose task has read every event of its stream has seen all relevant
events but those that occurred without a stream or were lost with one; and it has seen everything
before the last tick. -/
theorem Reachable.gaps {s : State} (h : Reachable s) :
    (∀ t, Step s t → Subscribes s t → t.signal = s.signal ∧ t.seen = s.seen ∧ t.fresh = s.fresh ∧
      (t.main = s.main ∨ s.main = .starting ∧ t.main = .idle)) ∧
    (s.main = .idle → s.signal = false → (∀ items live, s.watcher ≠ .sending items live) →
        numbers s.watcher.unread = [] →
      ∀ n, s.seen < n → n ≤ s.occurred → n ∈ s.missed ∨ n ∈ s.dropped) ∧
    (s.main = .idle → s.ticked ≤ s.seen) := by
  refine ⟨fun t hst => subscribes_step hst, fun hidle hsignal hsend hread n hseen hn => ?_,
    fun hidle => h.covered.ticked.2 (by simp [hidle])⟩
  rcases h.covered.events n hseen hn with hmissed | hdropped | hunread | ha
  · exact Or.inl hmissed
  · exact Or.inr hdropped
  · simp [hread] at hunread
  · rcases ha with ⟨items, live, ha⟩ | ha | ha | ha
    · exact absurd ha (hsend items live)
    · simp [hsignal] at ha
    · simp [hidle] at ha
    · simp [hidle] at ha

/-- A container started between the first list and the first subscription. -/
def startGap : State :=
  { main := .idle, watcher := .listening [] true, occurred := 1, missed := [1] }

/-- The same before the task is subscribed. -/
lemma reachable_connecting : Reachable { startGap with watcher := .connecting } := by
  have hoccurred : Reachable { main := .applying .startup, occurred := 1, missed := [1] } :=
    reachable_listed.step (by simp) (.occur startEvent)
  have happlied : Reachable { main := .starting, occurred := 1, missed := [1] } :=
    hoccurred.step (by simp) (@Step.applied _ .startup true rfl)
  exact happlied.step (by simp) (.watch rfl)

lemma reachable_startGap : Reachable startGap :=
  reachable_connecting.step (by simp [startGap]) (.connect rfl)

/-- The first list shows a container; a second one started after the stream had broken and before
the task subscribed again. -/
def errorGap : State :=
  { main := .idle, watcher := .listening [] true, occurred := 2, seen := 1, missed := [2, 1] }

lemma reachable_errorGap : Reachable errorGap := by
  have hoccurred : Reachable { occurred := 1, missed := [1] } :=
    Reachable.step .refl (by simp) (.occur startEvent)
  have hlisted : Reachable
      { main := .applying .startup, occurred := 1, seen := 1, missed := [1] } :=
    hoccurred.step (by simp) (.list rfl)
  have hbroken : Reachable
      { main := .idle, watcher := .listening [] false, occurred := 1, seen := 1,
        missed := [1] } :=
    (reachable_subscribed hlisted).step (by simp) (@Step.cut _ [] 0 rfl)
  have hended : Reachable
      { main := .idle, watcher := .sleeping, occurred := 1, seen := 1, missed := [1] } :=
    hbroken.step (by simp) (.ended rfl)
  have hoccurred : Reachable
      { main := .idle, watcher := .sleeping, occurred := 2, seen := 1, missed := [2, 1] } :=
    hended.step (by simp) (.occur startEvent)
  have hconnecting : Reachable
      { main := .idle, watcher := .connecting, occurred := 2, seen := 1, missed := [2, 1] } :=
    hoccurred.step (by simp) (.resubscribe rfl)
  exact hconnecting.step (by simp) (.connect rfl)

/-- Neither the first subscription nor one after an error leads to a list of what was missed. -/
theorem not_noGap :
    (Reachable startGap ∧ ¬ NoGap startGap) ∧ Reachable errorGap ∧ ¬ NoGap errorGap := by
  refine ⟨⟨reachable_startGap, fun h => ?_⟩, reachable_errorGap, fun h => ?_⟩
  · have hseen := h ⟨[], rfl⟩ rfl rfl 1 (by simp [startGap])
    simp [startGap] at hseen
  · have hseen := h ⟨[], rfl⟩ rfl rfl 2 (by simp [errorGap])
    simp [errorGap] at hseen

/-- After the gap at the start, the next tick leads to a list of what was missed. -/
def tickedState : State :=
  { startGap with seen := 1, ticked := 1 }

lemma reachable_ticked : Reachable tickedState := by
  have hticked : Reachable { startGap with main := .listing .resync, ticked := 1 } :=
    reachable_startGap.step (by simp [startGap]) (.tick rfl)
  have hlisted : Reachable { startGap with main := .applying .resync, seen := 1, ticked := 1 } :=
    hticked.step (by simp) (.list rfl)
  exact hlisted.step (by simp) (@Step.applied _ .resync true rfl)

/-- The event of the gap is the one that was missed, to subscribe behind it leaves the loop as it
is, and after the tick it has been seen. -/
theorem Reachable.gaps_start :
    (∃ s, Step s startGap ∧ Subscribes s startGap ∧ startGap.main = s.main) ∧
      (startGap.seen < 1 ∧ (1 ∈ startGap.missed ∨ 1 ∈ startGap.dropped)) ∧
      1 ≤ tickedState.ticked ∧ tickedState.ticked ≤ tickedState.seen := by
  have hconnects : Step { startGap with watcher := .connecting } startGap := .connect rfl
  have hsubscribes : Subscribes { startGap with watcher := .connecting } startGap :=
    Or.inr ⟨rfl, rfl⟩
  have hmain := ((Reachable.gaps reachable_connecting).1 _ hconnects hsubscribes).2.2.2
  have hgap := (Reachable.gaps reachable_startGap).2.1 rfl rfl (by simp [startGap]) rfl 1
    (by simp [startGap]) (by simp [startGap])
  exact ⟨⟨_, hconnects, hsubscribes, hmain.resolve_right (by simp [startGap])⟩,
    ⟨by simp [startGap], hgap⟩, by simp [tickedState], (Reachable.gaps reachable_ticked).2.2 rfl⟩

end Degc.Reconcile
