import Degc.Net.SocketAddr

/-!
# The configuration

The settings of the daemon, which are read from the environment.  A variable that is not
set, or that cannot be read, leaves the default.

The main result is `fromEnv_eq_iff`: a number is taken exactly when the variable is a
numeral of it that fits in 64 bits, the resync interval is never zero, and there is a server
for the metrics exactly when the variable is a socket address.
-/

namespace Degc

open Net Text

/-- Why a variable of the environment has no value. -/
inductive VarError
  | notPresent
  | notUnicode
  deriving DecidableEq, Repr

/-- The settings. -/
structure Config where
  labelPrefix : String
  gatewaysPath : String
  /-- In seconds. -/
  resyncInterval : UInt64
  /-- In milliseconds. -/
  debounce : UInt64
  /-- Where the metrics and the probes are served; without an address they are not. -/
  metricsAddr : Option SocketAddr
  deriving DecidableEq, Repr

section Env

variable (var : String → Except VarError String)

/-- A variable, or the default. -/
def env (key fallback : String) : String := (var key).toOption.getD fallback

/-- The number in a variable, or the default. -/
def envU64 (key : String) (fallback : UInt64) : UInt64 :=
  ((var key).toOption.bind fun s => (parseU64 s).toOption).getD fallback

/-- The settings in the environment. -/
def Config.fromEnv : Config where
  labelPrefix := env var "DEGC_LABEL_PREFIX" "degc"
  gatewaysPath := env var "DEGC_GATEWAYS_PATH" "/etc/degc/gateways.yaml"
  resyncInterval := max (envU64 var "DEGC_RESYNC_INTERVAL" 30) 1
  debounce := envU64 var "DEGC_DEBOUNCE_MS" 500
  metricsAddr := (var "DEGC_METRICS_ADDR").toOption.bind parseSocketAddr

/-- A variable is set to a text. -/
def IsSet (key s : String) : Prop := var key = .ok s

/-- The value of a setting that is a number: the one of the variable if this is a numeral, and the
default if not. -/
def HasNumber (key : String) (fallback v : UInt64) : Prop :=
  (∃ s, IsSet var key s ∧ DenotesU64 s v) ∨
    v = fallback ∧ ∀ s, IsSet var key s → ∀ w, ¬ DenotesU64 s w

/-- The settings are those of the environment. -/
structure Config.ReadFrom (c : Config) : Prop where
  labelPrefix : IsSet var "DEGC_LABEL_PREFIX" c.labelPrefix ∨
    c.labelPrefix = "degc" ∧ ∀ s, ¬ IsSet var "DEGC_LABEL_PREFIX" s
  gatewaysPath : IsSet var "DEGC_GATEWAYS_PATH" c.gatewaysPath ∨
    c.gatewaysPath = "/etc/degc/gateways.yaml" ∧ ∀ s, ¬ IsSet var "DEGC_GATEWAYS_PATH" s
  resyncInterval : c.resyncInterval ≠ 0 ∧
    (HasNumber var "DEGC_RESYNC_INTERVAL" 30 c.resyncInterval ∨
      c.resyncInterval = 1 ∧ HasNumber var "DEGC_RESYNC_INTERVAL" 30 0)
  debounce : HasNumber var "DEGC_DEBOUNCE_MS" 500 c.debounce
  metricsAddr : ∀ a, c.metricsAddr = some a ↔
    ∃ s, IsSet var "DEGC_METRICS_ADDR" s ∧ DenotesSocketAddr s a

variable {var}

lemma env_eq_iff {key fallback s : String} : env var key fallback = s ↔
    IsSet var key s ∨ s = fallback ∧ ∀ t, ¬ IsSet var key t := by
  rw [env, IsSet]
  cases hvar : var key with
  | error e => simp [IsSet, hvar, Except.toOption, eq_comm]
  | ok t =>
      have hset : ¬ ∀ t', ¬ IsSet var key t' := fun h => h t hvar
      simp [hset, Except.toOption]

lemma envU64_eq_iff {key : String} {fallback v : UInt64} :
    envU64 var key fallback = v ↔ HasNumber var key fallback v := by
  rw [envU64, HasNumber]
  cases hvar : var key with
  | error e => simp [IsSet, hvar, Except.toOption, eq_comm]
  | ok s =>
      have hset : ∀ t, IsSet var key t ↔ t = s := by simp [IsSet, hvar, eq_comm]
      simp only [hset, ← parseU64_eq_ok, exists_eq_left, forall_eq, Except.toOption,
        Option.bind_some]
      cases parseU64 s with
      | error e => simp [eq_comm]
      | ok w => simp

lemma bind_parseSocketAddr_eq_some {key : String} {a : SocketAddr} :
    (var key).toOption.bind parseSocketAddr = some a ↔
      ∃ s, IsSet var key s ∧ DenotesSocketAddr s a := by
  simp only [Option.bind_eq_some_iff, parseSocketAddr_eq_some, IsSet]
  cases var key <;> simp [Except.toOption]

/-- At least one is one for zero, and the number itself for every other. -/
lemma max_one_eq_iff {v r : UInt64} : max v 1 = r ↔ r ≠ 0 ∧ (v = r ∨ r = 1 ∧ v = 0) := by
  have hmax : max v 1 = if v ≤ 1 then 1 else v := rfl
  rw [hmax]
  simp only [ne_eq, ← UInt64.toNat_inj, UInt64.le_iff_toNat_le, apply_ite UInt64.toNat,
    UInt64.toNat_one, UInt64.toNat_zero]
  split_ifs <;> omega

/-- The settings are what the environment says, in every environment. -/
theorem Config.fromEnv_eq_iff {c : Config} : Config.fromEnv var = c ↔ c.ReadFrom var := by
  constructor
  · rintro rfl
    exact {
      labelPrefix := env_eq_iff.1 rfl
      gatewaysPath := env_eq_iff.1 rfl
      resyncInterval := by
        simp only [← envU64_eq_iff]
        exact max_one_eq_iff.1 rfl
      debounce := envU64_eq_iff.1 rfl
      metricsAddr := fun _ => bind_parseSocketAddr_eq_some }
  · intro h
    have hresync := h.resyncInterval
    simp only [← envU64_eq_iff] at hresync
    have haddr : (var "DEGC_METRICS_ADDR").toOption.bind parseSocketAddr = c.metricsAddr :=
      Option.ext fun a => bind_parseSocketAddr_eq_some.trans (h.metricsAddr a).symm
    cases c
    rw [Config.fromEnv, env_eq_iff.2 h.labelPrefix, env_eq_iff.2 h.gatewaysPath,
      max_one_eq_iff.2 hresync, envU64_eq_iff.2 h.debounce, haddr]

end Env

end Degc
