import Degc.Enforce.Reachable
import Degc.Enforce.Templates

/-!
# The text of a desired state

What a dry run shows: the warnings, the script and the commands, with a header in
front of the script and of the commands.  The warnings quote names of containers and
of gateways, and a command is shown with blanks between its arguments.

The main result `display_determines` says that the script and the commands can be
read back from the text, and that nothing else in it looks like a header or like a
command.
-/

namespace Degc

open Net Text Nft

/-! ### Reading it back -/

/-- A command that is read back: the arguments stand between the name of the program and the
note. -/
def readCommand (line : String) : Route.IpCmd :=
  let ws := (words line).tail
  ⟨ws.takeWhile (· ≠ "#"), ws.contains "#"⟩

/-- The script and the commands in a text. -/
def readDisplay (text : String) : String × List Route.IpCmd :=
  let body := ((lines text).dropWhile (· ≠ nftHeader)).tail
  (unlines (body.takeWhile (· ≠ ipHeader)),
    ((body.dropWhile (· ≠ ipHeader)).tail).map readCommand)

/-- Whether a line looks like a command. -/
def isCommandLine (l : String) : Bool := "ip ".toList.isPrefixOf l.toList

/-- The script and the commands of a state can be read back from its text, where nothing but the
headers looks like one, and nothing but the commands like one. -/
structure Desired.Shown (d : Desired) : Prop where
  reads : readDisplay d.display = (d.nft, d.ip)
  nftHeader : (lines d.display).count nftHeader = 1
  ipHeader : (lines d.display).count ipHeader = 1
  commands : (lines d.display).filter isCommandLine = d.ip.map (·.display)

/-! ### The commands -/

lemma words_display {c : Route.IpCmd} (h : ∀ w ∈ c.args, IsWord w) :
    words c.display =
      "ip" :: (c.args ++ if c.ignoreFail then ["#", "ok", "if", "absent"] else []) := by
  have hwords : ∀ w ∈ "ip" :: c.args, IsWord w := List.forall_mem_cons.2 ⟨by decide, h⟩
  have hip : words ("ip " ++ unwords c.args) = "ip" :: c.args := by
    have hcut := words_append_space "ip" (unwords c.args)
    rw [words_unwords h, words_of_isWord (by decide : IsWord "ip")] at hcut
    exact hcut
  cases hi : c.ignoreFail with
  | false => simpa [Route.IpCmd.display, hi] using hip
  | true =>
      have hnote := words_append_space ("ip " ++ unwords c.args) "   # ok if absent"
      rw [hip, show words "   # ok if absent" = ["#", "ok", "if", "absent"] by decide] at hnote
      have htext : c.display = "ip " ++ unwords c.args ++ " " ++ "   # ok if absent" := by
        simp [Route.IpCmd.display, hi, ← String.toList_inj]
      rw [htext, hnote]
      rfl

/-- A command whose arguments are plain is read back. -/
lemma readCommand_display {c : Route.IpCmd} (h : ∀ w ∈ c.args, Netfilter.IsToken w) :
    readCommand c.display = c := by
  have hhash : "#" ∉ c.args := fun hin => (h _ hin).2 (by decide)
  have htake : ∀ w ∈ c.args, decide (w ≠ "#") = true := by
    intro w hw
    simpa using fun he : w = "#" => hhash (he ▸ hw)
  rw [readCommand, words_display fun w hw => (h w hw).1, List.tail_cons,
    List.takeWhile_append_of_pos htake]
  obtain ⟨args, ignoreFail⟩ := c
  cases ignoreFail
  · simpa using hhash
  · simp

lemma isLine_display {c : Route.IpCmd} (h : ∀ w ∈ c.args, Netfilter.IsToken w) :
    IsLine c.display := by
  refine isLine_of_isLineChar fun x hx => ?_
  rw [Route.IpCmd.display] at hx
  simp only [toString_string, String.toList_append, List.mem_append] at hx
  rcases hx with (hx | hx) | hx
  · exact List.all_eq_true.1 (by decide : "ip ".toList.all isLineChar = true) x hx
  · simpa [isLineChar] using Netfilter.not_newline_unwords h x hx
  · split at hx
    · exact List.all_eq_true.1 (by decide : "    # ok if absent".toList.all isLineChar = true) x hx
    · simp at hx

lemma isCommandLine_display (c : Route.IpCmd) : isCommandLine c.display = true := by
  rw [isCommandLine, List.isPrefixOf_iff_prefix, Route.IpCmd.display]
  simp only [toString_string, String.toList_append, List.append_assoc]
  exact List.prefix_append _ _

/-! ### The lines -/

/-- The parts of the text of a compiled state: what stands in front of the script are comments,
the script is made of templates, and the commands have plain arguments. -/
structure Parts (d : Desired) (notes script : List String) : Prop where
  text : d.display = unlines (notes ++ Degc.nftHeader :: script ++ Degc.ipHeader ::
    d.ip.map (·.display))
  nft : d.nft = unlines script
  notes : ∀ l ∈ notes, IsLine l ∧ l.toList.head? = some '#' ∧ l ≠ Degc.nftHeader ∧
    l ≠ Degc.ipHeader
  script : ∀ l ∈ script, IsLine l ∧ ∃ c ∈ [' ', 'a', 'd', 't', '\x7d'], l.toList.head? = some c
  ip : ∀ c ∈ d.ip, ∀ w ∈ c.args, Netfilter.IsToken w

section Parts

variable {d : Desired} {notes script : List String}

lemma Parts.lines_display (h : Parts d notes script) :
    lines d.display =
      notes ++ Degc.nftHeader :: (script ++ Degc.ipHeader :: d.ip.map (·.display)) := by
  rw [h.text, lines_unlines]
  · rw [List.append_assoc, List.cons_append]
  · simp only [List.forall_mem_append, List.forall_mem_cons, List.forall_mem_map]
    exact ⟨⟨fun l hl => (h.notes l hl).1, by decide, fun l hl => (h.script l hl).1⟩, by decide,
      fun c hc => isLine_display (h.ip c hc)⟩

lemma head?_of_isCommandLine {l : String} (h : isCommandLine l = true) :
    l.toList.head? = some 'i' := by
  obtain ⟨t, ht⟩ := List.isPrefixOf_iff_prefix.1 h
  rw [← ht]
  rfl

/-- A line of the script is neither a header nor like a command. -/
lemma Parts.script_line (h : Parts d notes script) {l : String} (hl : l ∈ script) :
    l ≠ Degc.nftHeader ∧ l ≠ Degc.ipHeader ∧ isCommandLine l = false := by
  obtain ⟨-, c, hc, hhead⟩ := h.script l hl
  have hfirst : ∀ x, x ∉ [' ', 'a', 'd', 't', '\x7d'] → l.toList.head? ≠ some x := by
    rintro x hx hxl
    obtain rfl : c = x := Option.some.inj (hhead.symm.trans hxl)
    exact hx hc
  refine ⟨?_, ?_, ?_⟩
  · rintro rfl
    exact hfirst '#' (by decide) (by decide)
  · rintro rfl
    exact hfirst '#' (by decide) (by decide)
  · by_contra hcommand
    rw [Bool.not_eq_false] at hcommand
    exact hfirst 'i' (by decide) (head?_of_isCommandLine hcommand)

/-- A comment is not like a command. -/
lemma Parts.notes_line (h : Parts d notes script) {l : String} (hl : l ∈ notes) :
    isCommandLine l = false := by
  by_contra hcommand
  rw [Bool.not_eq_false] at hcommand
  have hhead := (h.notes l hl).2.1
  rw [head?_of_isCommandLine hcommand] at hhead
  exact absurd hhead (by decide)

/-- A line that does not look like a command is not the text of one. -/
lemma not_mem_displays (cs : List Route.IpCmd) {l : String} (hl : isCommandLine l = false) :
    l ∉ cs.map (·.display) := by
  intro hin
  obtain ⟨c, -, rfl⟩ := List.mem_map.1 hin
  rw [isCommandLine_display] at hl
  exact absurd hl (by simp)

lemma dropWhile_takeWhile_ne {x : String} {as bs : List String} (h : x ∉ as) :
    (as ++ x :: bs).dropWhile (fun y => decide (y ≠ x)) = x :: bs ∧
      (as ++ x :: bs).takeWhile (fun y => decide (y ≠ x)) = as := by
  have hne : ∀ y ∈ as, decide (y ≠ x) = true := by
    intro y hy
    simpa using fun he : y = x => h (he ▸ hy)
  rw [List.dropWhile_append_of_pos hne, List.takeWhile_append_of_pos hne]
  simp

/-- The script and the commands of a compiled state can be read back from its text. -/
lemma Parts.shown (h : Parts d notes script) : d.Shown := by
  have hnotes : Degc.nftHeader ∉ notes ∧ Degc.ipHeader ∉ notes :=
    ⟨fun hin => (h.notes _ hin).2.2.1 rfl, fun hin => (h.notes _ hin).2.2.2 rfl⟩
  have hscript : Degc.nftHeader ∉ script ∧ Degc.ipHeader ∉ script :=
    ⟨fun hin => (h.script_line hin).1 rfl, fun hin => (h.script_line hin).2.1 rfl⟩
  have hcommands : Degc.nftHeader ∉ d.ip.map (·.display) ∧ Degc.ipHeader ∉ d.ip.map (·.display) :=
    ⟨not_mem_displays _ (by decide), not_mem_displays _ (by decide)⟩
  have hne : Degc.nftHeader ≠ Degc.ipHeader := by decide
  refine ⟨?_, ?_, ?_, ?_⟩
  · have hback : (d.ip.map (·.display)).map readCommand = d.ip := by
      rw [List.map_map]
      exact (List.map_congr_left fun c hc => readCommand_display (h.ip c hc)).trans (List.map_id _)
    rw [readDisplay, h.lines_display, (dropWhile_takeWhile_ne hnotes.1).1, List.tail_cons,
      (dropWhile_takeWhile_ne hscript.2).1, (dropWhile_takeWhile_ne hscript.2).2, List.tail_cons,
      hback, h.nft]
  · rw [h.lines_display]
    simp [List.count_append, List.count_eq_zero_of_not_mem, hnotes, hscript, hcommands, hne.symm]
  · rw [h.lines_display]
    simp [List.count_append, List.count_eq_zero_of_not_mem, hnotes, hscript, hcommands, hne]
  · have hno : ∀ ls : List String, (∀ l ∈ ls, isCommandLine l = false) →
        ls.filter isCommandLine = [] :=
      fun ls hls => List.filter_eq_nil_iff.2 fun l hl => by simp [hls l hl]
    rw [h.lines_display, List.filter_append, hno notes fun l hl => h.notes_line hl,
      List.nil_append, List.filter_cons_of_neg (by decide), List.filter_append,
      hno script fun l hl => (h.script_line hl).2.2, List.nil_append,
      List.filter_cons_of_neg (by decide), List.filter_eq_self]
    simp [isCommandLine_display]

end Parts

variable [Libraries]

/-- The arguments of the commands of a gateway are plain. -/
lemma isToken_args {gp : GatewayPlan} (hegress : PlainEgress gp.egress) :
    ∀ c ∈ Route.cmdsOf gp, ∀ w ∈ c.args, Netfilter.IsToken w := by
  have htable : Netfilter.IsToken (Route.tableText gp) := Netfilter.isToken_repr _
  have hmark : Netfilter.IsToken (Route.markText gp) :=
    Netfilter.IsToken.append (by decide) (Netfilter.isToken_hex _)
  simp only [Route.cmdsOf, List.forall_mem_cons]
  refine ⟨?_, ?_, ?_, by simp⟩
  · simp only [Route.floorCmd, List.forall_mem_cons]
    exact ⟨by decide, by decide, by decide, by decide, by decide, htable, by decide, by decide,
      by decide, by decide, by simp⟩
  · simp only [Route.ruleCmd, List.forall_mem_cons]
    exact ⟨by decide, by decide, by decide, hmark, by decide, htable, by decide, by decide,
      by simp⟩
  · cases he : gp.egress with
    | interface iface =>
        rw [he] at hegress
        simp only [Route.liveCmd, List.forall_mem_cons]
        exact ⟨by decide, by decide, by decide, by decide, hegress, by decide, htable, by decide,
          by decide, by decide, by decide, by simp⟩
    | nextHop ip =>
        simp only [Route.liveCmd, List.forall_mem_cons]
        exact ⟨by decide, by decide, by decide, by decide, Netfilter.isToken_showIp ip, by decide,
          htable, by decide, by decide, by decide, by decide, by simp⟩
    | unavailable why =>
        simp only [Route.liveCmd, List.forall_mem_cons]
        exact ⟨by decide, by decide, by decide, by decide, htable, by decide, by decide,
          by decide, by decide, by simp⟩

omit [Libraries] in
/-- A warning that stays on its line is not a header. -/
lemma warning_line {w : String} (h : ∀ c ∈ w.toList, isLineChar c = true) :
    IsLine s!"# WARNING: {w}" ∧ (s!"# WARNING: {w}").toList.head? = some '#' ∧
      s!"# WARNING: {w}" ≠ Degc.nftHeader ∧ s!"# WARNING: {w}" ≠ Degc.ipHeader := by
  have hthird : (s!"# WARNING: {w}").toList[2]? = some 'W' := by simp
  refine ⟨isLine_of_isLineChar fun c hc => ?_, by simp, ?_, ?_⟩
  · simp only [toString_string, String.toList_append, List.mem_append] at hc
    rcases hc with hc | hc
    · exact List.all_eq_true.1 (by decide : "# WARNING: ".toList.all isLineChar = true) c hc
    · exact h c hc
  all_goals
    intro he
    rw [he] at hthird
    exact absurd hthird (by decide)

/-- What is quoted in a warning stays on its line. -/
lemma isLineChar_warnings {p : Plan} {d : Desired} (h : Enforce.compile p = .ok d) :
    ∀ w ∈ d.warnings, ∀ c ∈ w.toList, isLineChar c = true := by
  simp only [Enforce.compile, bind_eq_ok, pure_eq_ok] at h
  obtain ⟨-, -, guards, -, nft, -, ip, -, rfl⟩ := h
  simp only [List.forall_mem_map]
  rintro ⟨container, via⟩ - c hc
  simp only [toString_string, String.toList_append, List.mem_append] at hc
  rcases hc with (((hc | hc) | hc) | hc) | hc
  · exact List.all_eq_true.1 (by decide : "container ".toList.all isLineChar = true) c hc
  · exact isLineChar_debug _ _ c hc
  · exact List.all_eq_true.1
      (by decide : " opted into gateway ".toList.all isLineChar = true) c hc
  · exact isLineChar_debug _ _ c hc
  · exact List.all_eq_true.1
      (by decide : " — no such gateway (not routed)".toList.all isLineChar = true) c hc

lemma exists_parts {p : Plan} {d : Desired} (h : Compiled p d) :
    ∃ notes script, Parts d notes script := by
  obtain ⟨pfx, gws, targets, hvalid, rfl, hd⟩ := h
  obtain ⟨ls, hls, ts, rfl, -⟩ :=
    buildScript_renders (fitEgress_compile hvalid) (compile_eq_ok hd).2.1
  refine ⟨"# degc desired host state" :: d.warnings.map (fun w => s!"# WARNING: {w}"),
    ts.map Template.render, ?_, hls, ?_, ?_, ?_⟩
  · rw [Desired.display, hls, ← unlines_append, ← unlines_append]
    simp only [List.append_assoc, List.cons_append, List.nil_append]
  · simp only [List.forall_mem_cons, List.forall_mem_map]
    exact ⟨by decide, fun w hw => warning_line (isLineChar_warnings hd w hw)⟩
  · intro l hl
    obtain ⟨t, -, rfl⟩ := List.mem_map.1 hl
    exact ⟨t.isLine_render, t.head?_render⟩
  · intro c hc
    rw [(Route.compile_ip hd).1] at hc
    obtain ⟨gp, hgp, hc⟩ := List.mem_flatMap.1 hc
    exact isToken_args (plainEgress_compile hvalid gp hgp) c hc

/-- The text of a desired state determines its script and its commands, with their arguments and
their flags, and nothing that is quoted in it looks like a header or like a command. -/
theorem display_determines {p q : Plan} {d e : Desired} (h : Compiled p d) (h' : Compiled q e) :
    d.Shown ∧ (d.display = e.display → d.nft = e.nft ∧ d.ip = e.ip) := by
  obtain ⟨notes, script, hparts⟩ := exists_parts h
  obtain ⟨notes', script', hparts'⟩ := exists_parts h'
  have hd : readDisplay d.display = (d.nft, d.ip) := hparts.shown.reads
  have he : readDisplay e.display = (e.nft, e.ip) := hparts'.shown.reads
  refine ⟨hparts.shown, fun hdisplay => ?_⟩
  rw [hdisplay, he] at hd
  exact ⟨(congrArg Prod.fst hd).symm, (congrArg Prod.snd hd).symm⟩

omit [Libraries] in
/-- The text of the state for a gateway with a member and of the one for it without. -/
theorem display_determines_home : ∃ d e, @Compiled .plain (homePlan 100 appTargets) d ∧
    @Compiled .plain (homePlan 100 []) e ∧ d.Shown ∧
    (d.display = e.display → d.nft = e.nft ∧ d.ip = e.ip) := by
  obtain ⟨d, hd⟩ := exists_compiled appTargets "degc" (vpnGateways 100) (by decide) (by decide)
  obtain ⟨e, he⟩ := exists_compiled [] "degc" (vpnGateways 100) (by decide) (by decide)
  exact ⟨d, e, hd, he, @display_determines .plain _ _ _ _ hd he⟩

end Degc
