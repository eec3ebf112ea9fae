import Degc.Enforce.Reachable

/-!
# No duplicates

On a host that is reached from a clean one, no rule is there twice, and no two routes
with the protocol tag have one key.
-/

namespace Degc

open Net Text Fib

/-- No rule is there twice, and no two tagged routes have one key. -/
structure Tidy (f : Fib) : Prop where
  rules : f.rules.Nodup
  tagged : Keyed (f.routes.filter (·.proto == 194))

lemma Clean.tidy {h : Host} (hclean : Clean h) : Tidy h.fib where
  rules := by
    rw [hclean.rules]
    decide
  tagged := by
    rw [List.filter_eq_nil_iff.2 fun r hr => by simpa using hclean.proto r hr]
    exact List.Pairwise.nil

/-- Putting a tagged route in place keeps the keys of the tagged routes apart. -/
lemma keyed_filter_replaceRoute {r : Route} (hr : r.proto = 194) {routes : List Route}
    (h : Keyed (routes.filter (·.proto == 194))) :
    Keyed ((replaceRoute r routes).filter (·.proto == 194)) := by
  have hcomm : (replaceRoute r routes).filter (·.proto == 194) =
      replaceRoute r (routes.filter (·.proto == 194)) := by
    rw [replaceRoute, replaceRoute, List.filter_append, List.filter_filter, List.filter_filter,
      List.filter_cons_of_pos (by simp [hr]), List.filter_nil]
    simp only [Bool.and_comm]
  rw [hcomm]
  exact h.replaceRoute r

variable [Libraries]

/-- What a command does leaves no duplicates. -/
lemma Tidy.effect {f f' : Fib} (h : Tidy f) {gp : GatewayPlan} {link : IpAddr → String}
    (he : Route.Effect gp f link f') : Tidy f' where
  rules := by
    cases he with
    | rule hnew =>
        exact (insertRule_perm _ _).nodup_iff.2 (List.nodup_cons.2 ⟨hnew, h.rules⟩)
    | _ => exact h.rules
  tagged := by
    rcases he.routes_cases with heq | ⟨r, hr, heq⟩ | ⟨-, heq⟩ <;> rw [heq]
    · exact h.tagged
    · exact keyed_filter_replaceRoute (Route.tagged_of_put hr).2 h.tagged
    · exact h.tagged.sublist (List.eraseP_sublist.filter _)

/-- There are no duplicates on a reached host. -/
theorem Reachable.tidy {h₀ h : Host} (hclean : Clean h₀) (hr : Reachable h₀ h) : Tidy h.fib := by
  induction hr with
  | start => exact hclean.tidy
  | @apply h p d _ hc env k ih =>
      rcases env.apply_fst (d.upTo k) h with hsame | ⟨-, rs, -, happly⟩
      · rwa [hsame]
      · rw [happly]
        refine Script.run_invariant (fun c hmem f hf => ?_) ih
        have hmem' : c ∈ p.gateways.flatMap Route.cmdsOf := hc.ip ▸ List.mem_of_mem_take hmem
        obtain ⟨gp, -, hcmd⟩ := List.mem_flatMap.1 hmem'
        exact hf.effect (Route.effect_of_mem env gp f hcmd)

end Degc
