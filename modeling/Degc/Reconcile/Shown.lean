import Degc.Enforce.Templates
import Degc.Reconcile.Count
import Degc.Text.Blocks

/-!
# What a summary shows

A summary is a line about some of the things that a plan is made of: of each gateway its
name, its egress without the reason why it is down, the number of the addresses of its
members and the names of its containers; of the problems their numbers.  `shown` takes
these things from the containers and the configuration, and `planSummary_compile` says
that the summary of the plan is their text.

The main result is `Shown.text_injective`: where the names keep to themselves, what is
shown can be read off its text.
-/

namespace Degc

open Net Text
open Std (TreeSet)

namespace Reconcile

/-- What is shown of an egress. -/
inductive ShownEgress
  | dev (iface : String)
  | via (ip : IpAddr)
  | down
  deriving DecidableEq

/-- What is shown of a gateway: its name, its egress, the number of the addresses of its members and
the names of its containers. -/
structure ShownGateway where
  name : String
  egress : ShownEgress
  members : ℕ
  memberNames : List String
  deriving DecidableEq

/-- What is shown of a plan: its gateways, and the numbers of its problems. -/
structure Shown where
  gateways : List ShownGateway
  unresolved : ℕ
  conflicts : ℕ
  errors : ℕ
  deriving DecidableEq

/-! ### The text -/

def ShownEgress.text : ShownEgress → String
  | .dev iface => s!"dev {iface}"
  | .via ip => s!"via {showIp ip}"
  | .down => "DOWN"

def ShownGateway.text (g : ShownGateway) : String :=
  let names := ",".intercalate g.memberNames
  s!"{g.name}={g.egress.text} members={g.members}[{names}]"

/-- The words for the problems. -/
def Shown.problems (x : Shown) : List String :=
  countSummary "unresolved" x.unresolved ++ countSummary "conflicts" x.conflicts ++
    countSummary "gatewayErrors" x.errors

/-- The text of what is shown. -/
def Shown.text (x : Shown) : String :=
  let parts := x.gateways.map (·.text) ++ x.problems
  if parts.isEmpty then "no gateways" else "  ".intercalate parts

/-! ### Reading the text -/

/-- A name of a gateway that can be told from the sign behind it. -/
def PlainGateway (s : String) : Prop := ∀ c ∈ s.toList, isWhitespace c = false ∧ c ≠ '='

/-- A name of a container that can be told from the commas around it. -/
def PlainContainer (s : String) : Prop := IsWord s ∧ ',' ∉ s.toList

/-- The names and the devices that are shown keep to themselves. -/
structure ShownGateway.Legible (g : ShownGateway) : Prop where
  name : PlainGateway g.name
  egress : ∀ iface, g.egress = .dev iface → IsWord iface ∧ '=' ∉ iface.toList
  memberNames : ∀ n ∈ g.memberNames, PlainContainer n

def Shown.Legible (x : Shown) : Prop := ∀ g ∈ x.gateways, g.Legible

/-- The word that an egress is shown by, and the words behind it. -/
def ShownEgress.kind : ShownEgress → String
  | .dev _ => "dev"
  | .via _ => "via"
  | .down => "DOWN"

def ShownEgress.args : ShownEgress → List String
  | .dev iface => [iface]
  | .via ip => [showIp ip]
  | .down => []

/-- The word for the members of a gateway. -/
def ShownGateway.membersWord (g : ShownGateway) : String :=
  "members=" ++ g.members.repr ++ "[" ++ (",".intercalate g.memberNames ++ "]")

/-- The words of a gateway. -/
def ShownGateway.words (g : ShownGateway) : List String :=
  (g.name ++ "=" ++ g.egress.kind) :: (g.egress.args ++ [g.membersWord])

/-- The words of the gateways and of the problems, one block for each. -/
def Shown.blocks (x : Shown) : List (List String) :=
  x.gateways.map (·.words) ++ x.problems.map fun w => [w]

/-- A word that begins a block has a sign in it and does not end with a bracket. -/
def Begins (w : String) : Prop := '=' ∈ w.toList ∧ w.toList.getLast? ≠ some ']'

/-! #### The words of a gateway -/

lemma ShownGateway.text_eq (g : ShownGateway) : g.text = unwords g.words := by
  rw [text, words, ← String.toList_inj]
  cases g.egress <;>
    simp [ShownEgress.text, ShownEgress.kind, ShownEgress.args, membersWord, unwords,
      String.intercalate_cons_cons]

lemma ShownEgress.kind_cases (e : ShownEgress) : e.kind ∈ ["dev", "via", "DOWN"] := by
  cases e <;> simp [kind]

lemma isWord_append_kind {s : String} (hs : ∀ c ∈ s.toList, isWhitespace c = false)
    (e : ShownEgress) : IsWord (s ++ "=" ++ e.kind) := by
  have hkind : ∀ k ∈ ["dev", "via", "DOWN"], IsWord ("=" ++ k) := by decide
  have hword := hkind _ e.kind_cases
  rw [String.append_assoc]
  refine ⟨by simp, fun c hc => ?_⟩
  rw [String.toList_append, List.mem_append] at hc
  exact hc.elim (hs c) (hword.2 c)

lemma begins_append_kind (s : String) (e : ShownEgress) : Begins (s ++ "=" ++ e.kind) := by
  have hkind : ∀ k ∈ ["dev", "via", "DOWN"], k.toList ≠ [] ∧ k.toList.getLast? ≠ some ']' := by
    decide
  obtain ⟨hne, hlast⟩ := hkind _ e.kind_cases
  refine ⟨by simp, ?_⟩
  rwa [String.toList_append, List.getLast?_append_of_ne_nil _ hne]

namespace ShownGateway

variable {g : ShownGateway}

lemma not_begins_membersWord : ¬ Begins g.membersWord := by
  rintro ⟨-, h⟩
  refine h ?_
  rw [membersWord, ← String.append_assoc, String.toList_append]
  exact List.getLast?_concat

lemma isWord_membersWord (h : ∀ n ∈ g.memberNames, PlainContainer n) : IsWord g.membersWord := by
  have hnames : ∀ c ∈ (",".intercalate g.memberNames).toList, isWhitespace c = false :=
    forall_mem_intercalate (by decide : IsWord ",").2 fun n hn => (h n hn).1.2
  have hcount : IsWord ("members=" ++ g.members.repr ++ "[") :=
    (IsWord.append (by decide) (isWord_repr _)).append (by decide)
  refine hcount.append ⟨by simp, fun c hc => ?_⟩
  rw [String.toList_append, List.mem_append] at hc
  exact hc.elim (hnames c) ((by decide : IsWord "]").2 c)

lemma Legible.args (h : g.Legible) : ∀ w ∈ g.egress.args, IsWord w ∧ '=' ∉ w.toList := by
  intro w hw
  cases he : g.egress with
  | dev iface =>
      rw [he] at hw
      obtain rfl := List.mem_singleton.1 hw
      exact h.egress _ he
  | via ip =>
      rw [he] at hw
      obtain rfl := List.mem_singleton.1 hw
      refine ⟨isWord_showIp ip, fun hc => ?_⟩
      exact absurd (isIpChar_showIp ip _ hc) (by decide)
  | down => simp [he, ShownEgress.args] at hw

lemma Legible.isWord (h : g.Legible) : ∀ w ∈ g.words, IsWord w := by
  intro w hw
  rcases List.mem_cons.1 hw with rfl | hw
  · exact isWord_append_kind (fun c hc => (h.name c hc).1) g.egress
  · rcases List.mem_append.1 hw with hw | hw
    · exact (h.args w hw).1
    · obtain rfl := List.mem_singleton.1 hw
      exact isWord_membersWord h.memberNames

lemma Legible.marked (h : g.Legible) : Blocks.Marked Begins g.words := by
  refine ⟨_, _, rfl, begins_append_kind g.name g.egress, fun w hw => ?_⟩
  rcases List.mem_append.1 hw with hw | hw
  · exact fun hb => (h.args w hw).2 hb.1
  · obtain rfl := List.mem_singleton.1 hw
    exact not_begins_membersWord

lemma membersWord_inj {g' : ShownGateway} (h : ∀ n ∈ g.memberNames, PlainContainer n)
    (h' : ∀ n ∈ g'.memberNames, PlainContainer n) (he : g.membersWord = g'.membersWord) :
    g.members = g'.members ∧ g.memberNames = g'.memberNames := by
  have hdigits : ∀ n : ℕ, '[' ∉ ("members=" ++ n.repr).toList := by
    intro n hc
    rw [String.toList_append, List.mem_append, Nat.toList_repr] at hc
    refine hc.elim (by decide) fun hc => ?_
    exact absurd (Nat.isDigit_of_mem_toDigits (by decide) (by decide) hc) (by decide)
  obtain ⟨hcount, hnames⟩ := append_inj_of_notMem rfl (hdigits _) (hdigits _) he
  refine ⟨repr_injective (String.append_right_inj _ |>.1 hcount), ?_⟩
  exact intercalate_inj rfl (fun n hn => ⟨(h n hn).1.1, (h n hn).2⟩)
    (fun n hn => ⟨(h' n hn).1.1, (h' n hn).2⟩) (String.append_left_inj _ |>.1 hnames)

/-- What is shown of a gateway is read off its words. -/
lemma words_inj {g' : ShownGateway} (h : g.Legible) (h' : g'.Legible) (he : g.words = g'.words) :
    g = g' := by
  rw [words, words, List.cons.injEq] at he
  obtain ⟨hname, hkind⟩ := append_inj_of_notMem rfl (fun hc => (h.name _ hc).2 rfl)
    (fun hc => (h'.name _ hc).2 rfl) he.1
  obtain ⟨hargs, hmembers⟩ := List.append_inj' he.2 rfl
  have hegress : g.egress = g'.egress := by
    cases hx : g.egress <;> cases hy : g'.egress <;>
      simp_all [ShownEgress.kind, ShownEgress.args, showIp_injective.eq_iff]
  obtain ⟨hcount, hnames⟩ := membersWord_inj h.memberNames h'.memberNames
    (List.singleton_inj.1 hmembers)
  cases g
  cases g'
  simp_all

end ShownGateway

/-! #### The words of the problems -/

lemma countSummary_append_inj {label : String} {m n : ℕ} {s t : List String}
    (hs : ∀ k : ℕ, s!"{label}={k}" ∉ s) (ht : ∀ k : ℕ, s!"{label}={k}" ∉ t)
    (h : countSummary label m ++ s = countSummary label n ++ t) : m = n ∧ s = t := by
  by_cases hm : m = 0 <;> by_cases hn : n = 0
  · subst hm hn
    exact ⟨rfl, h⟩
  · simp only [countSummary, hm, if_true, hn, if_false, List.nil_append] at h
    exact absurd (by simp [h]) (hs n)
  · simp only [countSummary, hm, if_true, hn, if_false, List.nil_append] at h
    exact absurd (by simp [← h]) (ht m)
  · simp only [countSummary, hm, hn, if_false, List.singleton_append, List.cons.injEq] at h
    refine ⟨repr_injective ?_, h.2⟩
    simpa using h.1

lemma eq_of_mem_countSummary {label w : String} {n : ℕ} (h : w ∈ countSummary label n) :
    w = s!"{label}={n}" := by
  rw [countSummary] at h
  split_ifs at h
  · cases h
  · exact List.mem_singleton.1 h

/-- A problem is not counted under the label of another one. -/
lemma notMem_countSummary {label label' : String} (h : '=' ∉ label.toList)
    (h' : '=' ∉ label'.toList) (hne : label ≠ label') (k n : ℕ) :
    s!"{label}={k}" ∉ countSummary label' n :=
  fun hk => hne (append_inj_of_notMem rfl h h' (eq_of_mem_countSummary hk)).1

namespace Shown

variable {x y : Shown}

lemma eq_of_mem_problems {w : String} (h : w ∈ x.problems) :
    ∃ label ∈ ["unresolved", "conflicts", "gatewayErrors"], ∃ n : ℕ, w = s!"{label}={n}" := by
  simp only [problems, List.mem_append] at h
  rcases h with (h | h) | h
  · exact ⟨_, by simp, _, eq_of_mem_countSummary h⟩
  · exact ⟨_, by simp, _, eq_of_mem_countSummary h⟩
  · exact ⟨_, by simp, _, eq_of_mem_countSummary h⟩

lemma isWord_problems {w : String} (h : w ∈ x.problems) : IsWord w := by
  have hlabels : ∀ label ∈ ["unresolved", "conflicts", "gatewayErrors"], IsWord (label ++ "=") := by
    decide
  obtain ⟨label, hlabel, n, rfl⟩ := eq_of_mem_problems h
  exact (hlabels label hlabel).append (isWord_repr n)

lemma begins_problems {w : String} (h : w ∈ x.problems) : Begins w := by
  obtain ⟨label, -, n, rfl⟩ := eq_of_mem_problems h
  have htext : (s!"{label}={n}" : String).toList =
      (label.toList ++ ['=']) ++ Nat.toDigits 10 n := by
    simp
  rw [Begins, htext]
  refine ⟨by simp, fun hlast => ?_⟩
  rw [List.getLast?_append_of_ne_nil _ Nat.toDigits_ne_nil] at hlast
  exact absurd (Nat.isDigit_of_mem_toDigits (by decide) (by decide) (List.mem_of_getLast? hlast))
    (by decide)

/-- The numbers of the problems are read off their words. -/
lemma problems_inj (h : x.problems = y.problems) :
    x.unresolved = y.unresolved ∧ x.conflicts = y.conflicts ∧ x.errors = y.errors := by
  have hothers (z : Shown) (k : ℕ) : "unresolved" ++ "=" ++ toString k ∉
      countSummary "conflicts" z.conflicts ++ countSummary "gatewayErrors" z.errors := by
    rw [List.mem_append, not_or]
    exact ⟨notMem_countSummary (by decide) (by decide) (by decide) k _,
      notMem_countSummary (by decide) (by decide) (by decide) k _⟩
  have herrors (z : Shown) (k : ℕ) : "conflicts" ++ "=" ++ toString k ∉
      countSummary "gatewayErrors" z.errors ++ [] := by
    rw [List.append_nil]
    exact notMem_countSummary (by decide) (by decide) (by decide) k _
  rw [problems, problems, List.append_assoc, List.append_assoc] at h
  obtain ⟨hunresolved, h⟩ := countSummary_append_inj (hothers x) (hothers y) h
  rw [← List.append_nil (countSummary "gatewayErrors" x.errors),
    ← List.append_nil (countSummary "gatewayErrors" y.errors)] at h
  obtain ⟨hconflicts, h⟩ := countSummary_append_inj (herrors x) (herrors y) h
  exact ⟨hunresolved, hconflicts, (countSummary_append_inj (by simp) (by simp) h).1⟩

/-- What is shown is read off its blocks. -/
lemma blocks_inj (hx : x.Legible) (hy : y.Legible) (h : x.blocks = y.blocks) : x = y := by
  -- only the problems are written in one word
  obtain ⟨hgateways, hproblems⟩ := Blocks.append_inj_of_marked (P := fun b => b.length = 1)
    (by simp [ShownGateway.words]) (by simp [ShownGateway.words])
    (by cases x.problems <;> simp) (by cases y.problems <;> simp) h
  obtain ⟨hunresolved, hconflicts, herrors⟩ :=
    problems_inj ((List.map_inj_right (by simp)).1 hproblems)
  have hall : x.gateways = y.gateways :=
    Blocks.map_inj_of_mem
      (fun g hg g' hg' => ShownGateway.words_inj (hx g hg) (hy g' hg')) hgateways
  cases x
  cases y
  simp_all

lemma marked_blocks (hx : x.Legible) : ∀ b ∈ x.blocks, Blocks.Marked Begins b := by
  intro b hb
  rcases List.mem_append.1 hb with hb | hb
  · obtain ⟨g, hg, rfl⟩ := List.mem_map.1 hb
    exact (hx g hg).marked
  · obtain ⟨w, hw, rfl⟩ := List.mem_map.1 hb
    exact ⟨w, [], rfl, begins_problems hw, by simp⟩

/-- The words of the text are those of the blocks, if there are any. -/
lemma words_text (hx : x.Legible) :
    words x.text = if x.blocks = [] then ["no", "gateways"] else x.blocks.flatten := by
  have hgateways :
      (x.gateways.map (·.text)).flatMap words = (x.gateways.map (·.words)).flatten := by
    rw [List.flatMap_map, ← List.flatMap_def]
    exact List.flatMap_congr fun g hg => by
      rw [ShownGateway.text_eq, words_unwords (hx g hg).isWord]
  have hproblems : x.problems.flatMap words = (x.problems.map fun w => [w]).flatten := by
    rw [← List.flatMap_def]
    exact List.flatMap_congr fun w hw => words_of_isWord (isWord_problems hw)
  have hempty : (x.gateways.map (·.text) ++ x.problems).isEmpty = decide (x.blocks = []) := by
    rw [Bool.eq_iff_iff, List.isEmpty_iff, decide_eq_true_iff]
    simp [blocks]
  rw [text, hempty]
  by_cases h : x.blocks = []
  · simp only [h, decide_true, if_true]
    decide
  · simp only [h, decide_false, Bool.false_eq_true, if_false]
    rw [words_intercalate, List.flatMap_append, hgateways, hproblems, blocks, List.flatten_append]

/-- Where the names keep to themselves, what is shown is read off its text. -/
theorem text_injective (hx : x.Legible) (hy : y.Legible) (h : x.text = y.text) : x = y := by
  have hno : ∀ z : Shown, z.Legible → z.blocks ≠ [] → ["no", "gateways"] ≠ z.blocks.flatten := by
    intro z hz hne heq
    have hbegins : Begins "no" :=
      Blocks.head?_flatten_of_marked (marked_blocks hz) _ (heq ▸ rfl)
    exact absurd hbegins.1 (by decide)
  have hwords := words_text hx
  rw [h, words_text hy] at hwords
  refine blocks_inj hx hy ?_
  split_ifs at hwords with hy0 hx0 hx0
  · rw [hx0, hy0]
  · exact absurd hwords (hno x hx hx0)
  · exact absurd hwords.symm (hno y hy hy0)
  · exact (Blocks.flatten_inj_of_marked (marked_blocks hy) (marked_blocks hx) hwords).symm

end Shown

/-! ### What is shown of a plan -/

/-- What is shown of a resolved egress: the reason why there is none is left out. -/
def shownEgress : Egress → ShownEgress
  | .interface iface => .dev iface
  | .nextHop ip => .via ip
  | .unavailable _ => .down

variable [Libraries] (pfx : String) (gws : Gateways) (targets : List Target)

/-- What is shown of a gateway. -/
def shownGateway (g : Gateway) : ShownGateway where
  name := g.name
  egress := shownEgress (Plan.resolveEgress g targets)
  members := ((containersOf pfx gws targets g.name).flatMap Target.addrs).toFinset.card
  memberNames := (TreeSet.ofList ((containersOf pfx gws targets g.name).map (·.name))).toList

/-- The containers that opt in but name no known gateway. -/
def unresolvedEntries : List (String × String) :=
  targets.filterMap (Plan.unresolvedEntry pfx (Plan.merge pfx gws targets).1)

/-- The containers that several selectors match. -/
def conflictEntries : List (String × List String) :=
  targets.filterMap (Plan.conflictEntry pfx (Plan.merge pfx gws targets).1)

/-- What is shown of the plan for some containers. -/
def shown : Shown where
  gateways := (Plan.merge pfx gws targets).1.map (shownGateway pfx gws targets)
  unresolved := (unresolvedEntries pfx gws targets).length
  conflicts := (conflictEntries pfx gws targets).length
  errors := (Plan.merge pfx gws targets).2.length

variable {pfx : String} {gws : Gateways} {targets : List Target}

/-- The problems of a plan, from the containers. -/
lemma problems_compile :
    (Plan.compile targets pfx gws).unresolved = unresolvedEntries pfx gws targets ∧
      (Plan.compile targets pfx gws).conflicts = conflictEntries pfx gws targets ∧
      (Plan.compile targets pfx gws).discoveryErrors = (Plan.merge pfx gws targets).2 :=
  ⟨Plan.unresolved_foldl, Plan.conflicts_foldl, rfl⟩

/-- A gateway of a plan is written as what is shown of it. -/
lemma gatewaySummary_compile (h : (gws.map (·.name)).Nodup) {gp : GatewayPlan}
    (hgp : gp ∈ (Plan.compile targets pfx gws).gateways) :
    gatewaySummary gp = (shownGateway pfx gws targets gp.gateway).text := by
  have hegress : egressSummary gp.egress =
      (shownEgress (Plan.resolveEgress gp.gateway targets)).text := by
    rw [← Plan.egress_eq hgp]
    cases gp.egress <;> rfl
  have hnames : gp.memberNames.toList =
      (TreeSet.ofList ((containersOf pfx gws targets gp.gateway.name).map (·.name))).toList := by
    refine (TreeSet.Equiv.of_forall_mem_iff fun n => ?_).toList_eq
    simp only [Plan.mem_memberNames_compile h hgp, TreeSet.mem_ofList, List.contains_iff_mem,
      List.mem_map, mem_containersOf h hgp, and_assoc, eq_comm (a := n)]
  rw [gatewaySummary, hegress, hnames, size_members h hgp]
  rfl

/-- The names of the gateways and of the containers keep to themselves. -/
structure LegibleNames (pfx : String) (gws : Gateways) (targets : List Target) : Prop where
  gateways : ∀ g ∈ (Plan.merge pfx gws targets).1, PlainGateway g.name
  containers : ∀ t ∈ targets, PlainContainer t.name

omit [Libraries] in
lemma legible_dev {iface : String} (h : validIfname iface = true) :
    IsWord iface ∧ '=' ∉ iface.toList := by
  refine ⟨(Nft.isToken_of_validIfname h).1, fun hc => ?_⟩
  simp only [validIfname, Bool.and_eq_true, List.all_eq_true] at h
  exact absurd (h.2 _ hc) (by decide)

lemma LegibleNames.legible (h : LegibleNames pfx gws targets) (hvalid : gws.validate = .ok ()) :
    (shown pfx gws targets).Legible := by
  intro x hx
  obtain ⟨g, hg, rfl⟩ := List.mem_map.1 hx
  refine ⟨h.gateways g hg, fun iface he => legible_dev ?_, fun n hn => ?_⟩
  · have hv := Gateways.validate_eq_ok.1 hvalid
    cases hr : Plan.resolveEgress g targets with
    | interface dev =>
        obtain rfl : dev = iface := by simpa [shownGateway, shownEgress, hr] using he
        exact (Plan.valid_of_mem_merge hv.gateways hg).interface _
          (Nft.interface_of_resolveEgress hr)
    | _ => simp [shownGateway, shownEgress, hr] at he
  · rw [shownGateway, TreeSet.mem_toList, TreeSet.mem_ofList, List.contains_iff_mem] at hn
    obtain ⟨t, ht, rfl⟩ := List.mem_map.1 hn
    exact h.containers t (List.mem_of_mem_filter ht)

/-- The summary of a plan is the text of what is shown of it. -/
theorem planSummary_compile (h : (gws.map (·.name)).Nodup) :
    planSummary (Plan.compile targets pfx gws) = (shown pfx gws targets).text := by
  have hgateways : (Plan.compile targets pfx gws).gateways.map gatewaySummary =
      (shown pfx gws targets).gateways.map (·.text) := by
    rw [List.map_congr_left fun gp hgp => gatewaySummary_compile h hgp, shown, List.map_map,
      ← Plan.mergedGateways_compile, Plan.mergedGateways, List.map_map]
    rfl
  obtain ⟨hunresolved, hconflicts, herrors⟩ := @problems_compile _ pfx gws targets
  rw [planSummary, hgateways, hunresolved, hconflicts, herrors, List.append_assoc,
    List.append_assoc, ← List.append_assoc (countSummary "unresolved" _)]
  rfl

end Reconcile

end Degc
