import Degc.Reconcile.Loop
import Degc.Transition

/-!
# The process comes to rest

Some steps are the process's own: reading, signalling, listing, applying, subscribing
again after the wait.  The others are caused from outside: events, ticks, broken streams,
refused subscriptions, a task that stops, the shutdown.

Every own step lowers the rank of the state, so that the process takes a bounded number
of them for each step from outside, whatever the order.  The main result is
`Reachable.settles`: left alone it comes to rest, and then the loop is idle with an empty
channel, and the task subscribed with nothing to read.
-/

namespace Degc.Reconcile

open Transition

/-! ### The own steps -/

/-- The steps that the process takes by itself. -/
inductive Own (s : State) : State → Prop
  | connect (h : s.watcher = .connecting) : Own s { s with watcher := .listening [] true }
  | read {item : Item} {items : List Item} {live : Bool}
      (h : s.watcher = .listening (item :: items) live) : Own s (s.read item items live)
  | send {items : List Item} {live : Bool} (h : s.watcher = .sending items live) :
      Own s { s with watcher := .listening items live, signal := (trySend s.signal).1 }
  | ended (h : s.watcher = .listening [] false) : Own s { s with watcher := .sleeping }
  | resubscribe (h : s.watcher = .sleeping) : Own s { s with watcher := .connecting }
  | list {trigger : Trigger} (h : s.main = .listing trigger) :
      Own s { s with main := .applying trigger, seen := s.occurred, fresh := [] }
  | applied {trigger : Trigger} (ok : Bool) (h : s.main = .applying trigger) :
      Own s { s with main := .applied trigger ok }
  | watch (h : s.main = .starting) : Own s { s with main := .idle, watcher := .connecting }
  | receive (h : s.main = .idle) (hsignal : s.signal = true) :
      Own s { s with main := .debouncing, signal := false }
  | rewatch (h : s.main = .idle) (hsignal : s.signal = false) (hstopped : s.watcher = .stopped) :
      Own s { s with watcher := .connecting }
  | drain (h : s.main = .debouncing) (hsignal : s.signal = true) : Own s { s with signal := false }
  | quiet (h : s.main = .debouncing) : Own s { s with main := .listing .event }
  | closed (h : s.main = .debouncing) (hsignal : s.signal = false)
      (hstopped : s.watcher = .stopped) : Own s { s with main := .listing .event }

lemma Own.step {s t : State} (h : Own s t) : Step s t := by
  cases h with
  | connect hw => exact .connect hw
  | read hw => exact .read hw
  | send hw => exact .send hw
  | ended hw => exact .ended hw
  | resubscribe hw => exact .resubscribe hw
  | list hm => exact .list hm
  | applied ok hm => exact .applied ok hm
  | watch hm => exact .watch hm
  | receive hm hsignal => exact .receive hm hsignal
  | rewatch hm hsignal hw => exact .rewatch hm hsignal hw
  | drain hm hsignal => exact .drain hm hsignal
  | quiet hm => exact .quiet hm
  | closed hm hsignal hw => exact .closed hm hsignal hw

/-- The process takes its own steps until the loop exits. -/
def OwnNext (s t : State) : Prop := s.main ≠ .exited ∧ Own s t

/-! ### The rank -/

/-- The steps that a place of the loop is good for. -/
def Main.rank : Main → ℕ
  | .idle | .exited => 0
  | .applying .startup => 3
  | .listing .startup => 4
  | .applying _ => 1
  | .listing _ => 2
  | .debouncing => 3
  | .starting => 2

/-- The steps that a stream is good for: each event is read, signalled and received, and leads to
a reconcile at most. -/
def streamRank (items : List Item) (live : Bool) : ℕ :=
  6 * items.length + if live then 0 else 3

/-- The steps that a place of the task is good for. -/
def Watcher.rank : Watcher → ℕ
  | .absent => 0
  | .connecting => 1
  | .sleeping | .stopped => 2
  | .listening items live => streamRank items live
  | .sending items live => streamRank items live + 5

/-- The steps that the process can still take by itself. -/
def State.rank (s : State) : ℕ :=
  s.main.rank + (if s.signal then 4 else 0) + s.watcher.rank

section Step

variable {s t : State}

/-- Every own step lowers the rank. -/
lemma rank_own (h : Own s t) : t.rank < s.rank := by
  cases h with
  | connect hw | ended hw | resubscribe hw =>
      simp only [State.rank, hw, Watcher.rank, streamRank]
      simp
  | @read item items live hw =>
      rw [State.read]
      split <;> simp only [State.rank, hw, Watcher.rank, streamRank, List.length_cons] <;> omega
  | send hw =>
      simp only [State.rank, hw, Watcher.rank, trySend, if_true]
      split <;> omega
  | @list trigger hm =>
      simp only [State.rank, hm]
      cases trigger <;> simp [Main.rank]
  | @applied trigger ok hm =>
      simp only [State.rank, hm]
      cases trigger <;> cases ok <;> simp [Main.applied, Main.rank]
  | watch hm =>
      simp only [State.rank, hm, Main.rank, Watcher.rank]
      omega
  | receive hm hsignal =>
      simp [State.rank, hm, hsignal, Main.rank]
  | rewatch hm hsignal hw =>
      simp [State.rank, hw, Watcher.rank]
  | drain hm hsignal =>
      simp [State.rank, hsignal]
  | quiet hm | closed hm hsignal hw =>
      simp [State.rank, hm, Main.rank]

lemma streamRank_append (items : List Item) (item : Item) (live : Bool) :
    streamRank (items ++ [item]) live = streamRank items live + 6 := by
  simp only [streamRank, List.length_append, List.length_singleton]
  omega

lemma streamRank_take (items : List Item) (k : ℕ) :
    streamRank (items.take k) false ≤ streamRank items true + 3 := by
  have hle := List.length_take_le' k items
  simp only [streamRank, Bool.false_eq_true, if_false, if_true]
  omega

/-- A tick is good for a list and a reconcile. -/
lemma rank_tick (hm : s.main = .idle) :
    { s with main := .listing .resync, ticked := s.occurred : State }.rank = s.rank + 2 := by
  simp only [State.rank, hm, Main.rank]
  omega

/-- Every step raises the rank by six at most. -/
lemma rank_step (h : Step s t) : t.rank ≤ s.rank + 6 := by
  have hown : Own s t → t.rank ≤ s.rank + 6 := fun hown =>
    (rank_own hown).le.trans (Nat.le_add_right _ _)
  cases h with
  | occur msg =>
      obtain ⟨hsignal, hmain, -⟩ := occur_eq s msg
      rw [State.rank, hsignal, hmain, State.rank]
      have hw : (s.occur msg).watcher.rank ≤ s.watcher.rank + 6 := by
        rw [State.occur]
        split
        · next hw => simp only [hw, Watcher.rank, streamRank_append, le_refl]
        · next hw => simp only [hw, Watcher.rank, streamRank_append]; omega
        · simp only; omega
      omega
  | refuse hw =>
      simp only [State.rank, hw, Watcher.rank]
      omega
  | @cut items k hw | @cutSending items k hw =>
      have hle := streamRank_take items k
      simp only [State.rank, hw, Watcher.rank]
      omega
  | stop hw hsend =>
      simp only [State.rank, Watcher.rank]
      omega
  | tick hm =>
      rw [rank_tick hm]
      omega
  | shutdown hm =>
      simp only [State.rank, hm, Main.rank]
      omega
  | connect hw => exact hown (.connect hw)
  | read hw => exact hown (.read hw)
  | send hw => exact hown (.send hw)
  | ended hw => exact hown (.ended hw)
  | resubscribe hw => exact hown (.resubscribe hw)
  | list hm => exact hown (.list hm)
  | applied ok hm => exact hown (.applied ok hm)
  | watch hm => exact hown (.watch hm)
  | receive hm hsignal => exact hown (.receive hm hsignal)
  | rewatch hm hsignal hw => exact hown (.rewatch hm hsignal hw)
  | drain hm hsignal => exact hown (.drain hm hsignal)
  | quiet hm => exact hown (.quiet hm)
  | closed hm hsignal hw => exact hown (.closed hm hsignal hw)

end Step

/-! ### At rest -/

/-- The loop is idle with an empty channel, and the task subscribed with nothing to read. -/
structure Settled (s : State) : Prop where
  idle : s.main = .idle
  signal : s.signal = false
  subscribed : s.watcher = .listening [] true

/-- Past the first reconcile, there is a task. -/
lemma Reachable.of_absent {s : State} (h : Reachable s) (hw : s.watcher = .absent) :
    s.main = .listing .startup ∨ s.main = .applying .startup ∨ s.main = .starting ∨
      s.main = .exited := by
  induction h with
  | refl => exact Or.inl rfl
  | @tail s t hs hnext ih =>
      -- a step out of a place of the loop behind the first reconcile
      have hbehind : s.watcher = .absent → ∀ m, s.main = m → m ≠ .listing .startup →
          m ≠ .applying .startup → m ≠ .starting → False := by
        rintro hw m rfl hlisting happlying hstarting
        simpa [hlisting, happlying, hstarting, hnext.1] using ih hw
      cases hnext.2 with
      | occur msg =>
          rw [(occur_eq s msg).2.1]
          refine ih ?_
          rw [State.occur] at hw
          split at hw
          · cases hw
          · cases hw
          · exact hw
      | read hw' =>
          rw [State.read] at hw
          split at hw <;> cases hw
      | connect | refuse | cut | cutSending | send | ended | resubscribe | stop | watch
      | rewatch => cases hw
      | @list trigger hm =>
          cases trigger with
          | startup => exact Or.inr (Or.inl rfl)
          | event | resync => exact (hbehind hw _ hm (by simp) (by simp) (by simp)).elim
      | @applied trigger ok hm =>
          cases trigger with
          | startup => cases ok <;> simp [Main.applied]
          | event | resync => exact (hbehind hw _ hm (by simp) (by simp) (by simp)).elim
      | tick hm | receive hm | drain hm | quiet hm | closed hm =>
          exact (hbehind hw _ hm (by simp) (by simp) (by simp)).elim
      | shutdown => exact Or.inr (Or.inr (Or.inr rfl))

/-- A state in which the process is at rest, and no other, is one from which it takes no step by
itself. -/
lemma Reachable.stuck_iff {s : State} (h : Reachable s) :
    Stuck OwnNext s ↔ Settled s ∨ s.main = .exited := by
  constructor
  · intro hstuck
    by_cases hmain : s.main = .exited
    · exact Or.inr hmain
    have hno : ∀ t, ¬ Own s t := fun t ht => hstuck t ⟨hmain, ht⟩
    have hidle : s.main = .idle := by
      cases hm : s.main with
      | idle => rfl
      | exited => exact absurd hm hmain
      | listing trigger => exact absurd (.list hm) (hno _)
      | applying trigger => exact absurd (.applied true hm) (hno _)
      | starting => exact absurd (.watch hm) (hno _)
      | debouncing => exact absurd (.quiet hm) (hno _)
    have hsignal : s.signal = false := by
      cases hs : s.signal with
      | false => rfl
      | true => exact absurd (.receive hidle hs) (hno _)
    refine Or.inl ⟨hidle, hsignal, ?_⟩
    cases hw : s.watcher with
    | absent => simpa [hidle] using h.of_absent hw
    | connecting => exact absurd (.connect hw) (hno _)
    | sleeping => exact absurd (.resubscribe hw) (hno _)
    | stopped => exact absurd (.rewatch hidle hsignal hw) (hno _)
    | sending items live => exact absurd (.send hw) (hno _)
    | listening items live =>
        cases items with
        | cons item items => exact absurd (.read hw) (hno _)
        | nil =>
            cases live with
            | true => rfl
            | false => exact absurd (.ended hw) (hno _)
  · rintro (⟨hidle, hsignal, hw⟩ | hexited) t ⟨hmain, hown⟩
    · cases hown with
      | connect hw' | read hw' | send hw' | ended hw' | resubscribe hw' | rewatch _ _ hw' =>
          simp [hw] at hw'
      | list hm | applied ok hm | watch hm | drain hm _ | quiet hm | closed hm _ _ =>
          simp [hidle] at hm
      | receive hm hfull => simp [hsignal] at hfull
    · exact hmain hexited

/-- Whatever the order of the steps, the process takes a bounded number of its own for each step
from outside.  Left alone it comes to rest, and a state in which it can take no step by itself is
one in which it is at rest, unless the loop has exited. -/
theorem Reachable.settles {s : State} (h : Reachable s) :
    (∀ m n t, Run OwnNext Next s m n t → t.rank + m ≤ s.rank + 6 * n) ∧
      (∃ m t, Run OwnNext Next s m 0 t ∧ Stuck OwnNext t) ∧
      ∀ m n t, Run OwnNext Next s m n t → (Stuck OwnNext t ↔ Settled t ∨ t.main = .exited) := by
  refine ⟨fun m n t hrun => ?_, ?_, fun m n t hrun => ?_⟩
  · exact hrun.rank_add_le (fun _ _ hown => rank_own hown.2) fun _ _ hnext => rank_step hnext.2
  · exact exists_stuck (fun _ _ hown => rank_own hown.2) s
  · have ht : Reachable t := hrun.invariant (fun _ _ hs hown => hs.step hown.1 hown.2.step)
      (fun _ _ hs hnext => hs.tail hnext) h
    exact ht.stuck_iff

/-- The process at rest after its first reconcile. -/
def restState : State := { main := .idle, watcher := .listening [] true }

/-- With no step from outside the process lists, applies, starts the task, which subscribes, and
is at rest. -/
theorem Reachable.settles_start : Run OwnNext Next {} 4 0 restState ∧ Stuck OwnNext restState := by
  have hlisted : Run OwnNext Next {} 1 0 { main := .applying .startup } :=
    Run.refl.own ⟨by simp, .list rfl⟩
  have happlied : Run OwnNext Next {} 2 0 { main := .starting } :=
    hlisted.own ⟨by simp, @Own.applied _ .startup true rfl⟩
  have hwatched : Run OwnNext Next {} 3 0 { main := .idle, watcher := .connecting } :=
    happlied.own ⟨by simp, .watch rfl⟩
  have hrun : Run OwnNext Next {} 4 0 restState := hwatched.own ⟨by simp, .connect rfl⟩
  exact ⟨hrun, ((Reachable.settles .refl).2.2 _ _ _ hrun).2 (Or.inl ⟨rfl, rfl, rfl⟩)⟩

end Degc.Reconcile
