import Degc.Kernel.Fib
import Degc.Net.AddrText

/-!
# The `ip` program

The commands that change routes and policy rules, by their arguments, and the
lines in which routes and rules are shown.  A command fails with a message and
then changes nothing.  A next hop is reached by the device its address is on,
which is a parameter.

The main results are what the commands do (`exec_blackhole`, `exec_dev`, `exec_via`,
`exec_ruleAdd`) and what the lines say: `contains_proto_iff`, that the line of a route
has the tag of a protocol exactly when it is the one of the route.
-/

namespace Iproute

open Net Text Fib

/-! ### Arguments -/

/-- The options of a route. -/
structure RouteOpts where
  via : Option IpAddr := none
  dev : Option String := none
  table : ℕ := 254
  proto : UInt8 := 3
  metric : ℕ := 0

/-- A table, by its name or number. -/
def readTable : String → Option ℕ
  | "local" => some 255
  | "main" => some 254
  | "default" => some 253
  | s => readNumber s

/-- Reading the options of a route. -/
def readRouteOpts : RouteOpts → List String → Option RouteOpts
  | o, [] => some o
  | o, "via" :: a :: ws => do readRouteOpts { o with via := some (← parseIp a) } ws
  | o, "dev" :: d :: ws => readRouteOpts { o with dev := some d } ws
  | o, "table" :: t :: ws => do readRouteOpts { o with table := ← readTable t } ws
  | o, "proto" :: p :: ws => do readRouteOpts { o with proto := UInt8.ofNat (← readNumber p) } ws
  | o, "metric" :: m :: ws => do readRouteOpts { o with metric := ← readNumber m } ws
  | _, _ => none

/-- The destination of a route; the default one is of the family of the next hop. -/
def readDst (o : RouteOpts) (dst : String) : Option Cidr :=
  if dst = "default" then some (if o.via.any (·.isIpv6) then .default6 else .default4)
  else (parseCidr dst).or ((parseIp dst).map .single)

/-- The options of a rule. -/
structure RuleOpts where
  mark : Option (ℕ × ℕ) := none
  table : ℕ := 254
  prio : Option ℕ := none

/-- A mark, with or without a mask. -/
def readMark (s : String) : Option (ℕ × ℕ) :=
  match split '/' s with
  | [v] => (readNumber v).map (·, fullMask)
  | [v, m] => do return (← readNumber v, ← readNumber m)
  | _ => none

/-- Reading the options of a rule. -/
def readRuleOpts : RuleOpts → List String → Option RuleOpts
  | o, [] => some o
  | o, "fwmark" :: m :: ws => do readRuleOpts { o with mark := some (← readMark m) } ws
  | o, "table" :: t :: ws => do readRuleOpts { o with table := ← readTable t } ws
  | o, "priority" :: p :: ws => do readRuleOpts { o with prio := some (← readNumber p) } ws
  | _, _ => none

/-! ### Commands -/

/-- A command. -/
inductive Cmd
  | routeReplace (r : Route)
  | routeDel (table : ℕ) (dst : Cidr) (proto : UInt8) (metric : ℕ)
  | routeFlush (table : ℕ) (proto : UInt8)
  | ruleAdd (r : Rule)
  | ruleDel (mark : Option (ℕ × ℕ)) (table : ℕ)
  deriving DecidableEq

/-- What a route does, by its options, given the device a next hop is on. -/
def hopOf (link : IpAddr → String) (o : RouteOpts) : Option Hop :=
  match o.via, o.dev with
  | some a, some d => some (.via a d)
  | some a, none => some (.via a (link a))
  | none, some d => some (.dev d)
  | none, none => none

/-- Reading the arguments of a command. -/
def readCmd (link : IpAddr → String) : List String → Option Cmd
  | "route" :: "replace" :: "blackhole" :: dst :: ws => do
      let o ← readRouteOpts {} ws
      return .routeReplace ⟨o.table, ← readDst o dst, .blackhole, o.proto, o.metric⟩
  | "route" :: "replace" :: dst :: ws => do
      let o ← readRouteOpts {} ws
      -- the family of the default is that of the next hop
      return .routeReplace ⟨o.table, ← readDst o dst, ← hopOf link o, o.proto, o.metric⟩
  | "route" :: "del" :: dst :: ws => do
      let o ← readRouteOpts {} ws
      return .routeDel o.table (← readDst o dst) o.proto o.metric
  | "route" :: "flush" :: ws => do
      let o ← readRouteOpts {} ws
      return .routeFlush o.table o.proto
  | "rule" :: "add" :: ws => do
      let o ← readRuleOpts {} ws
      return .ruleAdd ⟨← o.prio, o.mark, o.table⟩
  | "rule" :: "del" :: ws => do
      let o ← readRuleOpts {} ws
      return .ruleDel o.mark o.table
  | _ => none

/-- Carrying out a command: the state after it, or a message. -/
def Cmd.exec (f : Fib) : Cmd → Except String Fib
  | .routeReplace r => .ok { f with routes := replaceRoute r f.routes }
  | .routeDel table dst proto metric =>
      let p (r : Route) :=
        r.table == table && r.dst == dst && r.proto == proto && r.metric == metric
      -- the first one that matches, if there are several
      if f.routes.any p then .ok { f with routes := f.routes.eraseP p }
      else .error "RTNETLINK answers: No such process"
  | .routeFlush table proto =>
      -- without an option for the family, the routes of IPv4
      .ok { f with
        routes := f.routes.filter fun r =>
          !(r.table == table && r.proto == proto && r.dst.addr.isIpv4) }
  | .ruleAdd r =>
      if r ∈ f.rules then .error "RTNETLINK answers: File exists"
      else .ok { f with rules := insertRule r f.rules }
  | .ruleDel mark table =>
      let p (r : Rule) := r.mark == mark && r.table == table
      if f.rules.any p then .ok { f with rules := f.rules.eraseP p }
      else .error "RTNETLINK answers: No such file or directory"

/-- Running the program with arguments. -/
def exec (link : IpAddr → String) (args : List String) (f : Fib) : Except String Fib :=
  match readCmd link args with
  | some c => c.exec f
  | none => .error "Error: invalid arguments."

/-! ### Showing rules and routes -/

/-- A table as it is shown. -/
def tableName (t : ℕ) : String :=
  if t = 255 then "local" else if t = 254 then "main" else if t = 253 then "default" else t.repr

/-- The names of protocols. -/
def protoNames : List (UInt8 × String) :=
  [(0, "unspec"), (1, "redirect"), (2, "kernel"), (3, "boot"), (4, "static"), (8, "gated"),
    (9, "ra"), (10, "mrt"), (11, "zebra"), (12, "bird"), (13, "dnrouted"), (14, "xorp"),
    (15, "ntk"), (16, "dhcp"), (18, "keepalived"), (42, "babel"), (99, "openr"), (186, "bgp"),
    (187, "isis"), (188, "ospf"), (189, "rip"), (192, "eigrp")]

/-- A protocol as it is shown. -/
def protoName (p : UInt8) : String := (protoNames.lookup p).getD p.toNat.repr

/-- A mark as it is shown, with its mask unless that compares all of it. -/
def showMark (v m : ℕ) : String := "0x" ++ hex v ++ if m = fullMask then "" else "/0x" ++ hex m

/-- The words of a rule. -/
def ruleWords (r : Rule) : List String :=
  ["from", "all"] ++
    (match r.mark with
      | none => []
      | some (v, m) => ["fwmark", showMark v m]) ++
    ["lookup", tableName r.table]

/-- The line of a rule. -/
def showRule (r : Rule) : String := s!"{r.prio.repr}:\t{unwords (ruleWords r)}"

/-- A destination as it is shown. -/
def showDst (c : Cidr) : String :=
  if c.len = 0 then "default" else if c.len = c.addr.width then showIp c.addr else showCidr c

/-- The words of a route. -/
def routeWords (r : Route) : List String :=
  (match r.hop with
    | .blackhole => ["blackhole", showDst r.dst, "proto", protoName r.proto]
    | .host d => ["local", showDst r.dst, "dev", d, "proto", protoName r.proto, "scope", "host"]
    | .dev d => [showDst r.dst, "dev", d, "proto", protoName r.proto, "scope", "link"]
    | .via a d => [showDst r.dst, "via", showIp a, "dev", d, "proto", protoName r.proto]) ++
    (if r.metric = 0 then [] else ["metric", r.metric.repr])

/-- The line of a route. -/
def showRoute (r : Route) : String := unwords (routeWords r)

/-- What the program prints, when it succeeds; routes are those of IPv4. -/
def shown (args : List String) (f : Fib) : Option String :=
  match args with
  | ["-o", "rule", "show"] => some (unlines (f.rules.map showRule))
  | ["-o", "route", "show", "table", t] => do
      let t ← readTable t
      return unlines ((f.routes.filter fun r => r.table == t && r.dst.addr.isIpv4).map showRoute)
  | _ => none

/-! ### What the commands do -/

/-- The decimal numeral of a table is read as the table. -/
@[simp] lemma readTable_repr (n : ℕ) : readTable n.repr = some n := by
  have hne : ∀ s, readDigits 10 s = none → n.repr ≠ s := by
    rintro s hs rfl
    simp at hs
  rw [readTable, readNumber_repr]
  · exact hne _ (by decide)
  · exact hne _ (by decide)
  · exact hne _ (by decide)

lemma slash_not_mem_mark (n : ℕ) : '/' ∉ ("0x" ++ hex n).toList := by
  rw [String.toList_append, toList_hex, List.mem_append]
  rintro (h | h)
  · exact absurd h (by decide)
  · exact forall_mem_toDigits (P := (· ≠ '/')) (by decide) (by decide) (by decide) n _ h rfl

/-- A mark is read with the mask that compares all of it. -/
@[simp] lemma readMark_hex (n : ℕ) : readMark ("0x" ++ hex n) = some (n, fullMask) := by
  have hsplit : split '/' ("0x" ++ hex n) = ["0x" ++ hex n] := by
    rw [split, List.splitOn_eq_singleton (slash_not_mem_mark n), List.map_singleton,
      String.ofList_toList]
  rw [readMark, hsplit]
  simp

variable (link : IpAddr → String) (f : Fib) (t p m : ℕ)

lemma exec_blackhole :
    exec link ["route", "replace", "blackhole", "default", "table", t.repr, "proto", p.repr,
      "metric", m.repr] f =
      .ok { f with
        routes := replaceRoute ⟨t, .default4, .blackhole, UInt8.ofNat p, m⟩ f.routes } := by
  simp [exec, readCmd, readRouteOpts, readDst, Cmd.exec]

lemma exec_dev (dev : String) :
    exec link ["route", "replace", "default", "dev", dev, "table", t.repr, "proto", p.repr,
      "metric", m.repr] f =
      .ok { f with
        routes := replaceRoute ⟨t, .default4, .dev dev, UInt8.ofNat p, m⟩ f.routes } := by
  simp [exec, readCmd, readRouteOpts, readDst, hopOf, Cmd.exec]

/-- A default by way of an address is of the family of the address. -/
lemma exec_via (a : IpAddr) :
    exec link ["route", "replace", "default", "via", showIp a, "table", t.repr, "proto", p.repr,
      "metric", m.repr] f =
      .ok { f with
        routes := replaceRoute ⟨t, if a.isIpv6 then .default6 else .default4, .via a (link a),
          UInt8.ofNat p, m⟩ f.routes } := by
  simp [exec, readCmd, readRouteOpts, readDst, hopOf, Cmd.exec]

lemma exec_routeDel :
    exec link ["route", "del", "default", "table", t.repr, "proto", p.repr, "metric", m.repr] f =
      Cmd.exec f (.routeDel t .default4 (UInt8.ofNat p) m) := by
  simp [exec, readCmd, readRouteOpts, readDst]

lemma exec_ruleAdd (mark prio : ℕ) :
    exec link
        ["rule", "add", "fwmark", "0x" ++ hex mark, "table", t.repr, "priority", prio.repr] f =
      Cmd.exec f (.ruleAdd ⟨prio, some (mark, fullMask), t⟩) := by
  simp [exec, readCmd, readRuleOpts]

lemma exec_ruleDel (mark : ℕ) :
    exec link ["rule", "del", "fwmark", "0x" ++ hex mark, "table", t.repr] f =
      Cmd.exec f (.ruleDel (some (mark, fullMask)) t) := by
  simp [exec, readCmd, readRuleOpts]

lemma exec_routeFlush :
    exec link ["route", "flush", "table", t.repr, "proto", p.repr] f =
      .ok { f with routes := f.routes.filter fun r =>
        !(r.table == t && r.proto == UInt8.ofNat p && r.dst.addr.isIpv4) } := by
  simp [exec, readCmd, readRouteOpts, Cmd.exec]

/-! ### What the lines say -/

lemma isWord_tableName (t : ℕ) : IsWord (tableName t) := by
  simp only [tableName]
  split_ifs
  · decide
  · decide
  · decide
  · exact isWord_repr t

lemma isWord_showDst (c : Cidr) : IsWord (showDst c) := by
  simp only [showDst]
  split_ifs
  · decide
  · exact isWord_showIp _
  · exact isWord_showCidr c

/-- A protocol is shown by a name of the list or by its number. -/
lemma protoName_cases (p : UInt8) :
    protoName p ∈ protoNames.map (·.2) ∨ protoName p = p.toNat.repr := by
  rw [protoName]
  cases h : protoNames.lookup p with
  | none => exact Or.inr rfl
  | some name =>
      obtain ⟨as, bs, hsplit, -⟩ := List.lookup_eq_some_iff.1 h
      exact Or.inl (List.mem_map.2 ⟨(p, name), by rw [hsplit]; simp, rfl⟩)

lemma isWord_protoName (p : UInt8) : IsWord (protoName p) := by
  have hnames : ∀ n ∈ protoNames.map (·.2), IsWord n := by decide
  rcases protoName_cases p with h | h
  · exact hnames _ h
  · exact h ▸ isWord_repr _

lemma isWord_showMark (v m : ℕ) : IsWord (showMark v m) := by
  have hword (n : ℕ) : IsWord ("0x" ++ hex n) := IsWord.append (by decide) (isWord_hex n)
  rw [showMark]
  split_ifs
  · simpa using hword v
  · exact (hword v).append (IsWord.append (by decide) (isWord_hex m))

lemma isWord_ruleWords (r : Rule) : ∀ w ∈ ruleWords r, IsWord w := by
  have hends : ∀ w ∈ ["from", "all"], IsWord w := by decide
  simp only [ruleWords, List.forall_mem_append]
  refine ⟨⟨hends, ?_⟩, ?_⟩
  · rcases r.mark with _ | ⟨v, m⟩
    · simp
    · simp only [List.forall_mem_cons]
      exact ⟨by decide, isWord_showMark v m, by simp⟩
  · simp only [List.forall_mem_cons]
    exact ⟨by decide, isWord_tableName _, by simp⟩

/-- The words of the line of a rule: the priority, then the rule. -/
lemma words_showRule (r : Rule) : words (showRule r) = (r.prio.repr ++ ":") :: ruleWords r := by
  have hprio : IsWord (r.prio.repr ++ ":") := (isWord_repr _).append (by decide)
  have hcut : showRule r = r.prio.repr ++ ":" ++ "\t" ++ unwords (ruleWords r) := by
    simp [showRule, ← String.toList_inj]
  rw [hcut, words_append_blank _ _ (b := "\t") (c := '\t') (by decide) (by decide),
    words_of_isWord hprio, words_unwords (isWord_ruleWords r), List.singleton_append]

/-- The part of a shown mark before its mask. -/
lemma split_showMark (v m : ℕ) : (split '/' (showMark v m)).head? = some ("0x" ++ hex v) := by
  have hmark := slash_not_mem_mark v
  rw [showMark]
  split_ifs
  · have hsplit : split '/' ("0x" ++ hex v) = ["0x" ++ hex v] := by
      rw [split, List.splitOn_eq_singleton hmark, List.map_singleton, String.ofList_toList]
    simpa using congrArg List.head? hsplit
  · have hcut : ("0x" ++ hex v ++ ("/0x" ++ hex m)).toList
        = ("0x" ++ hex v).toList ++ '/' :: ("0x" ++ hex m).toList := by
      simp
    rw [split, hcut, List.splitOn_append_cons_self_of_not_mem hmark, List.map_cons, List.head?_cons,
      String.ofList_toList]

lemma isLine_showRule (r : Rule) : IsLine (showRule r) := by
  refine isLine_of_forall fun c hc => ?_
  simp only [showRule, toString_string, String.toList_append, List.mem_append] at hc
  rcases hc with (hc | hc) | hc
  · exact not_isWhitespace_nl ((isWord_repr _).2 c hc)
  · have hsep : c = ':' ∨ c = '\t' := by simpa using hc
    rcases hsep with rfl | rfl <;> decide
  · exact forall_mem_unwords (by decide) (fun w hw _ hc =>
      not_isWhitespace_nl ((isWord_ruleWords r w hw).2 _ hc)) c hc

/-- The words of a route, when its device is one. -/
lemma isWord_routeWords {r : Route} (h : ∀ d ∈ r.hop.oif, IsWord d) :
    ∀ w ∈ routeWords r, IsWord w := by
  have hdst := isWord_showDst r.dst
  have hproto := isWord_protoName r.proto
  have hmetric := isWord_repr r.metric
  have hkeys : ∀ w ∈
      ["blackhole", "proto", "local", "dev", "scope", "host", "link", "via", "metric"],
      IsWord w := by decide
  simp only [List.forall_mem_cons] at hkeys
  obtain ⟨hblackhole, hproto', hlocal, hdev, hscope, hhost, hlink, hvia, hmetric', -⟩ := hkeys
  rw [routeWords, List.forall_mem_append]
  constructor
  · cases hhop : r.hop with
    | blackhole =>
        simp only [List.forall_mem_cons]
        exact ⟨hblackhole, hdst, hproto', hproto, by simp⟩
    | host d =>
        have hd := h d (by simp [hhop, Hop.oif])
        simp only [List.forall_mem_cons]
        exact ⟨hlocal, hdst, hdev, hd, hproto', hproto, hscope, hhost, by simp⟩
    | dev d =>
        have hd := h d (by simp [hhop, Hop.oif])
        simp only [List.forall_mem_cons]
        exact ⟨hdst, hdev, hd, hproto', hproto, hscope, hlink, by simp⟩
    | via a d =>
        have hd := h d (by simp [hhop, Hop.oif])
        simp only [List.forall_mem_cons]
        exact ⟨hdst, hvia, isWord_showIp a, hdev, hd, hproto', hproto, by simp⟩
  · split_ifs
    · simp
    · simp only [List.forall_mem_cons]
      exact ⟨hmetric', hmetric, by simp⟩

lemma routeWords_ne_nil (r : Route) : routeWords r ≠ [] := by
  rw [routeWords]
  cases r.hop <;> simp

/-- A number below 256 whose numeral starts with the digits of 194 is 194. -/
lemma eq_of_isPrefix_repr : ∀ n < 256, "194".toList <+: n.repr.toList → n = 194 := by
  decide +kernel

/-- The name of a protocol that starts with 194 is the one of protocol 194. -/
lemma protoName_isPrefix {p : UInt8} : "194".toList <+: (protoName p).toList ↔ p = 194 := by
  constructor
  · intro h
    rcases protoName_cases p with hname | hname
    · have hnames : ∀ n ∈ protoNames.map (·.2), ¬ "194".toList <+: n.toList := by decide
      exact absurd h (hnames _ hname)
    · rw [hname] at h
      exact UInt8.toNat_inj.1 (eq_of_isPrefix_repr _ p.toNat_lt h)
  · rintro rfl
    decide

/-- Which words of a route stand next to each other: the second one is a key word, or the first
one is a key word other than `proto`, or they are `proto` and the protocol. -/
def Neighbours (r : Route) (u v : String) : Prop :=
  v ∈ ["proto", "dev", "via", "scope", "host", "link", "metric"] ∨
    u ∈ ["blackhole", "local", "dev", "via", "metric"] ∨ v = protoName r.proto

lemma isChain_routeWords (r : Route) : (routeWords r).IsChain (Neighbours r) := by
  rw [routeWords]
  cases r.hop <;> split_ifs <;> simp [Neighbours]

/-- The line of a route has the tag of protocol 194 exactly when that is its protocol. -/
theorem contains_proto_iff {r : Route} (h : ∀ d ∈ r.hop.oif, IsWord d) :
    contains (showRoute r) "proto 194" = true ↔ r.proto = 194 := by
  have hwords := isWord_routeWords h
  constructor
  · intro hin
    have hpiece : "proto 194".toList = "proto".toList ++ ' ' :: "194".toList := by decide
    -- the tag lies across two words of the line, of which only `proto` can be the first
    obtain ⟨xs, u, v, ys, hsplit, hu, hv⟩ := exists_neighbours
      (fun w hw hb => absurd ((hwords w hw).2 _ hb) (by decide)) (by decide) (by decide)
      (hpiece ▸ of_decide_eq_true hin)
    have hchain := isChain_routeWords r
    rw [hsplit, List.isChain_append_cons_cons] at hchain
    rcases hchain.2.1 with hkey | hkey | rfl
    · have hnot : ∀ w ∈ ["proto", "dev", "via", "scope", "host", "link", "metric"],
          ¬ "194".toList <+: w.toList := by decide
      exact absurd hv (hnot v hkey)
    · have hnot : ∀ w ∈ ["blackhole", "local", "dev", "via", "metric"],
          ¬ "proto".toList <:+ w.toList := by decide
      exact absurd hu (hnot u hkey)
    · exact protoName_isPrefix.1 hv
  · intro hp
    have hname : protoName r.proto = "194" := by rw [hp]; decide
    obtain ⟨xs, ys, hsplit⟩ : ∃ xs ys, routeWords r = xs ++ "proto" :: "194" :: ys := by
      rw [routeWords, hname]
      cases r.hop with
      | blackhole => exact ⟨["blackhole", showDst r.dst], _, rfl⟩
      | host d => exact ⟨["local", showDst r.dst, "dev", d], _, rfl⟩
      | dev d => exact ⟨[showDst r.dst, "dev", d], _, rfl⟩
      | via a d => exact ⟨[showDst r.dst, "via", showIp a, "dev", d], _, rfl⟩
    rw [showRoute, hsplit]
    simpa using contains_neighbours xs "proto" "194" ys

end Iproute
