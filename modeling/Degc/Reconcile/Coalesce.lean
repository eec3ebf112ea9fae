import Degc.Reconcile.Loop

/-!
# Events are coalesced

However the events fall, a relevant event leads to one reconcile at most.  Each one that
is not read yet, was missed or was lost, each signal, and the place of the loop count for
what they may still lead to; no step raises the sum but a relevant event that occurs, by
one.
-/

namespace Degc.Reconcile

/-- The reconciles for events that a place of the loop still leads to. -/
def Main.pending : Main → ℕ
  | .debouncing | .listing .event | .applying .event => 1
  | _ => 0

/-- The same for a place of the task. -/
def Watcher.pending : Watcher → ℕ
  | .listening items _ => (numbers items).length
  | .sending items _ => (numbers items).length + 1
  | _ => 0

/-- The relevant events that were missed or lost. -/
def State.lost (s : State) : ℕ := s.missed.length + s.dropped.length

/-- The reconciles for events that a state still leads to, and the events that lead to none. -/
def State.pending (s : State) : ℕ :=
  s.main.pending + s.signal.toNat + s.watcher.pending + s.lost

lemma length_numbers_take_drop (items : List Item) (k : ℕ) :
    (numbers items).length = (numbers (items.take k)).length + (numbers (items.drop k)).length := by
  rw [← List.length_append, ← numbers_append, List.take_append_drop]

lemma numbers_singleton (n : ℕ) (msg : EventMessage) :
    (numbers [(n, msg)]).length = if isRelevant msg then 1 else 0 := by
  rw [numbers]
  split <;> simp [*]

lemma numbers_cons (item : Item) (items : List Item) : (numbers (item :: items)).length =
    (if isRelevant item.2 then 1 else 0) + (numbers items).length := by
  rw [← List.singleton_append, numbers_append, List.length_append, numbers_singleton item.1 item.2]

/-- A task that is not about to signal has its unread events pending. -/
lemma Watcher.pending_eq {w : Watcher} (hsend : ∀ items live, w ≠ .sending items live) :
    w.pending = (numbers w.unread).length := by
  cases w with
  | sending items live => exact absurd rfl (hsend items live)
  | _ => rfl

section Step

variable {s t : State}

/-- A relevant event is pending when it occurs, in the stream or as one that was missed. -/
lemma pending_occur (s : State) (msg : EventMessage) :
    (s.occur msg).pending = s.pending + if isRelevant msg then 1 else 0 := by
  have hone := fun n => numbers_singleton n msg
  rw [State.occur]
  split
  · next hw =>
      simp only [State.pending, State.lost, hw, Watcher.pending, numbers_append, List.length_append,
        hone]
      omega
  · next hw =>
      simp only [State.pending, State.lost, hw, Watcher.pending, numbers_append, List.length_append,
        hone]
      omega
  · simp only [State.pending, State.lost, List.length_append, hone]
    omega

/-- No step raises what is pending but an event that occurs. -/
lemma pending_step (h : Step s t) : t.pending + s.occurred ≤ s.pending + t.occurred := by
  cases h with
  | occur msg =>
      rw [pending_occur, (occur_eq s msg).2.2.2.2.2.2]
      split <;> omega
  | connect hw | refuse hw | ended hw | resubscribe hw =>
      simp [State.pending, State.lost, hw, Watcher.pending, numbers]
  | @cut items k hw | @cutSending items k hw =>
      have hsplit := length_numbers_take_drop items k
      simp only [State.pending, State.lost, hw, Watcher.pending, List.length_append]
      omega
  | @read item items live hw =>
      have hcons := numbers_cons item items
      rw [State.read]
      split
      · next hrelevant =>
          simp only [State.pending, State.lost, hw, Watcher.pending, hcons, hrelevant, if_true]
          omega
      · simp only [State.pending, State.lost, hw, Watcher.pending, hcons]
        omega
  | send hw =>
      simp only [State.pending, State.lost, hw, Watcher.pending, trySend, Bool.toNat_true]
      omega
  | stop hw hsend =>
      have hunread := Watcher.pending_eq hsend
      simp only [State.pending, State.lost, hunread, List.length_append]
      simp only [Watcher.pending]
      omega
  | @list trigger hm =>
      simp only [State.pending, hm]
      cases trigger <;> simp [Main.pending, State.lost]
  | @applied trigger ok hm =>
      simp only [State.pending, hm]
      cases trigger <;> cases ok <;> simp [Main.pending, Main.applied, State.lost]
  | watch hm | rewatch hm =>
      simp only [State.pending, State.lost, hm, Main.pending, Watcher.pending]
      omega
  | tick hm | shutdown hm | quiet hm | closed hm =>
      simp [State.pending, State.lost, hm, Main.pending]
  | receive hm hsignal | drain hm hsignal =>
      simp [State.pending, State.lost, hm, hsignal, Main.pending]

/-- A reconcile for an event that is over is not pending any more. -/
lemma pending_applied (hm : s.main = .applying .event) (ok : Bool) :
    { s with main := .applied .event ok : State }.pending + 1 = s.pending := by
  simp only [State.pending, State.lost, hm, Main.pending, Main.applied]
  omega

end Step

end Degc.Reconcile
