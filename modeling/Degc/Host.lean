import Degc.Enforce
import Degc.Kernel.Iproute
import Degc.Kernel.NetfilterText
import Degc.Kernel.Script

/-!
# The host

The state that applying a plan changes: the tables of the packet filter and the
rules and routes.  What the state does not decide is the environment of a run: by
which device an address is reached, and which of the programs that are run fail.
A program that is let through does what it does on the state.

The main results are `apply_cases`, that applying changes nothing or loads the
script and runs the commands, and `routeApply_eq`, that running the commands is
a run in the sense of `Script`.
-/

namespace Degc

open Net Text Netfilter

/-- The state of the host. -/
structure Host where
  nft : Ruleset
  fib : Fib

/-- What a run meets: the devices of the addresses, and what becomes of the programs. -/
structure Env where
  link : IpAddr → String
  isWord_link : ∀ a, IsWord (link a)
  nft : String → Ran Unit
  ip : List String → Ran Unit

namespace Env

/-- Every program is let through, except for one command. -/
def allBut (args : List String) : Env where
  link _ := "eth0"
  isWord_link _ := by decide
  nft _ := .ok ()
  ip a := if a = args then .failed "" else .ok ()

/-- Every program is let through. -/
def allOk : Env := { allBut [] with ip := fun _ => .ok () }

variable (env : Env)

/-- Running the commands on a host. -/
def world : Enforce.World Host where
  ipShow args h := Iproute.shown args h.fib
  nft script h :=
    match env.nft script with
    | .notSpawned cause => .notSpawned cause
    | .failed stderr => .failed stderr
    | .ok () =>
        -- a script is loaded as a whole or not at all
        match loadText script h.nft with
        | some rs => .ok { h with nft := rs }
        | none => .failed "Error: syntax error"
  ip args h :=
    match env.ip args with
    | .notSpawned cause => .notSpawned cause
    | .failed stderr => .failed stderr
    | .ok () =>
        match Iproute.exec env.link args h.fib with
        | .ok f => .ok { h with fib := f }
        | .error stderr => .failed stderr

/-- The state after a command, and whether the run goes on. -/
def runIp (c : Route.IpCmd) (f : Fib) : Fib × Bool :=
  match env.ip c.args with
  | .notSpawned _ => (f, false)
  | .failed _ => (f, c.ignoreFail)
  | .ok () =>
      match Iproute.exec env.link c.args f with
      | .ok f' => (f', true)
      | .error _ => (f, c.ignoreFail)

lemma step_world (c : Route.IpCmd) (h : Host) :
    Route.step env.world.ip c h =
      ({ h with fib := (env.runIp c h.fib).1 }, (env.runIp c h.fib).2) := by
  simp only [Route.step, world, runIp]
  cases env.ip c.args with
  | notSpawned cause => rfl
  | failed stderr => rfl
  | ok u =>
      simp only
      cases Iproute.exec env.link c.args h.fib <;> rfl

/-- Running the commands changes the rules and routes, as a run that may stop. -/
theorem routeApply_eq (cs : List Route.IpCmd) (h : Host) :
    (Route.apply env.world.ip cs h).1 = { h with fib := (Script.run env.runIp cs h.fib).1 } ∧
      ((Route.apply env.world.ip cs h).2 = .ok () ↔ (Script.run env.runIp cs h.fib).2 = true) := by
  have hrun : Script.run (Route.step env.world.ip) cs h = _ :=
    Script.run_map (g := fun f => { h with fib := f }) fun c _ f =>
      env.step_world c { h with fib := f }
  obtain ⟨hfst, hsnd⟩ := Route.apply_eq_run env.world.ip cs h
  rw [hfst, hsnd]
  exact ⟨congrArg Prod.fst hrun, by rw [hrun]⟩

variable [Libraries]

/-- The check before a host is changed. -/
def preflight (h : Host) (guards : List (String × UInt32)) : Except String Unit :=
  Route.preflight (fun args => (Iproute.shown args h.fib).getD "") guards

/-- Applying a desired state leaves the host as it is and fails, or passes the check, loads the
script and runs the commands. -/
theorem apply_cases (d : Desired) (h : Host) :
    ((Enforce.apply env.world d h).1 = h ∧ (Enforce.apply env.world d h).2 ≠ .ok ()) ∨
      (preflight h d.guards = .ok () ∧ ∃ rs, loadText d.nft h.nft = some rs ∧
        Enforce.apply env.world d h = Route.apply env.world.ip d.ip { h with nft := rs }) := by
  have hcheck : Route.preflight (fun args => (env.world.ipShow args h).getD "") d.guards =
      preflight h d.guards := rfl
  rw [Enforce.apply, hcheck]
  cases hp : preflight h d.guards with
  | error e => exact Or.inl ⟨rfl, by simp⟩
  | ok u =>
      cases hn : env.world.nft d.nft h with
      | notSpawned cause => exact Or.inl (by simp [Enforce.nftApply, hn])
      | failed stderr => exact Or.inl (by simp [Enforce.nftApply, hn])
      | ok h' =>
          refine Or.inr ⟨rfl, ?_⟩
          simp only [world] at hn
          split at hn
          · simp at hn
          · simp at hn
          · split at hn
            · next rs hrs =>
                obtain rfl := Ran.ok.inj hn
                exact ⟨rs, hrs, by simp [Enforce.nftApply, world, *]⟩
            · simp at hn

/-- The host after applying a desired state: as it was, or with the script loaded and as the
commands leave it. -/
lemma apply_fst (d : Desired) (h : Host) :
    (Enforce.apply env.world d h).1 = h ∨
      (preflight h d.guards = .ok () ∧ ∃ rs, loadText d.nft h.nft = some rs ∧
        (Enforce.apply env.world d h).1 = ⟨rs, (Script.run env.runIp d.ip h.fib).1⟩) := by
  rcases env.apply_cases d h with ⟨hsame, -⟩ | ⟨hcheck, rs, hload, happly⟩
  · exact Or.inl hsame
  · exact Or.inr ⟨hcheck, rs, hload, by rw [happly, (env.routeApply_eq _ _).1]⟩

/-- Applying a desired state successfully passes the check, loads the script and runs all
commands. -/
lemma apply_eq_ok {d : Desired} {h h' : Host}
    (happly : Enforce.apply env.world d h = (h', .ok ())) :
    preflight h d.guards = .ok () ∧ ∃ rs, loadText d.nft h.nft = some rs ∧
      h' = ⟨rs, (Script.run env.runIp d.ip h.fib).1⟩ ∧
      (Script.run env.runIp d.ip h.fib).2 = true := by
  rcases env.apply_cases d h with ⟨-, hfailed⟩ | ⟨hcheck, rs, hload, hrun⟩
  · exact absurd (congrArg Prod.snd happly) hfailed
  · obtain ⟨hfst, hsnd⟩ := env.routeApply_eq d.ip { h with nft := rs }
    rw [← hrun, happly] at hfst hsnd
    exact ⟨hcheck, rs, hload, hfst, hsnd.1 rfl⟩

/-- The programs that apply a desired state are let through. -/
structure Lets (d : Desired) : Prop where
  nft : env.nft d.nft = .ok ()
  ip : ∀ c ∈ d.ip, env.ip c.args = .ok ()

omit [Libraries] in
lemma lets_allOk (d : Desired) : allOk.Lets d := ⟨rfl, fun _ _ => rfl⟩

/-- A desired state that passes the check, and whose script is let through and can be loaded, has
its commands run. -/
lemma apply_of_nft {d : Desired} {h : Host} (hcheck : preflight h d.guards = .ok ())
    (hnft : env.nft d.nft = .ok ()) {rs : Ruleset} (hload : loadText d.nft h.nft = some rs) :
    Enforce.apply env.world d h = Route.apply env.world.ip d.ip { h with nft := rs } := by
  rw [Enforce.apply, show Route.preflight (fun args => (env.world.ipShow args h).getD "") d.guards
    = .ok () from hcheck]
  simp [Enforce.nftApply, world, hnft, hload]

/-- A desired state that passes the check, and whose script can be loaded, is applied when the
programs are let through and no command fails that must not. -/
lemma apply_of_lets {d : Desired} {h : Host} (hlets : env.Lets d)
    (hcheck : preflight h d.guards = .ok ()) {rs : Ruleset}
    (hload : loadText d.nft h.nft = some rs)
    (hgoes : (Script.run env.runIp d.ip h.fib).2 = true) :
    Enforce.apply env.world d h = (⟨rs, (Script.run env.runIp d.ip h.fib).1⟩, .ok ()) := by
  obtain ⟨hfst, hsnd⟩ := env.routeApply_eq d.ip { h with nft := rs }
  rw [env.apply_of_nft hcheck hlets.nft hload]
  exact Prod.ext hfst (hsnd.2 hgoes)

end Env

/-! ### Forwarding -/

/-- The way of a packet through the chains at a hook. -/
def Host.hook (h : Host) (name : String) (p : Packet) : Option Packet :=
  match h.nft["inet degc"]? with
  | some t => t.traverse name p
  | none => some p

/-- The route by which a packet is forwarded; none when it is dropped.  The rules see the packet
before it is routed and, with the device of its route, before it leaves. -/
def Host.forward (h : Host) (p : Packet) : Option Fib.Route := do
  let marked ← h.hook "prerouting" p
  let r ← h.fib.route marked.mark marked.dst
  let dev ← r.hop.oif
  let _ ← h.hook "forward" { marked with oif := some dev }
  return r

end Degc
