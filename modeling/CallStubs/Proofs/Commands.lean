import CallStubs.Proofs.Callees
import CallStubs.Proofs.ReadBack
import CallStubs.Proofs.RoundTrip
import CallStubs.Report

/-! Commands on one line of a file, beside each other: what is shown without a change to the file, and what is
written. -/

namespace CallStubs

namespace Stub

lemma text_ne_nil (h : Head) : h.text ≠ [] := by simp [Head.text]

lemma feedless_text {h : Head} (hf : h.Feedless) : '\n' ∉ h.text := by
  have hline := feedless_lines .standard hf (headLine h) (by simp [lines_eq])
  exact fun hm => hline (List.mem_append_left _ hm)

lemma head?_splitOn_render (style : Style) {h : Head} (hf : h.Feedless) :
    ((render style h).splitOn '\n').head? = some (h.text ++ " \x7b".toList) := by
  rw [render_eq, ← List.append_nil (block _), splitOn_block (feedless_lines style hf), lines_eq]
  rfl

end Stub

lemma takeWhile_splitOn_unlines {A R : List Text} (hA : ∀ l ∈ A, '\n' ∉ l) (hn : ∀ l ∈ A, l ≠ [])
    (hR : R.headD [] = []) : ((Report.unlines (A ++ R)).splitOn '\n').takeWhile (· ≠ []) = A := by
  have hsplit : (Report.unlines (A ++ R)).splitOn '\n' = A ++ (block R).splitOn '\n' := by
    rw [← splitOn_block hA]
    simp [Report.unlines, block]
  -- behind the lines an empty one, or else the end of the text
  have hrest : ((block R).splitOn '\n').takeWhile (· ≠ []) = [] := by
    cases R with
    | nil => simp
    | cons l R =>
      obtain rfl : l = [] := hR
      rw [block_cons, List.splitOn_append_cons_self]
      simp
  rw [hsplit, List.takeWhile_append_of_pos (by simpa using hn), hrest, List.append_nil]

lemma Command.Findings.takeWhile_lines {s : Findings} (hs : ∀ h ∈ s.heads, h.Feedless) :
    ((Report.unlines s.lines).splitOn '\n').takeWhile (· ≠ []) = s.heads.map Stub.Head.text := by
  apply takeWhile_splitOn_unlines
  · rintro _ hl
    obtain ⟨h, hh, rfl⟩ := List.mem_map.1 hl
    exact Stub.feedless_text (hs h hh)
  · rintro _ hl
    obtain ⟨h, -, rfl⟩ := List.mem_map.1 hl
    exact Stub.text_ne_nil h
  · split_ifs <;> rfl

namespace Action

lemma summary_eq_cons (a : Action) : ∃ c cs, a.summary = c :: cs ∧ c ≠ 'N' := by
  cases a with
  | inserted f i => exact ⟨'i', _, rfl, by decide⟩
  | replaced f r => exact ⟨'r', _, rfl, by decide⟩

lemma unlines_summary_ne {as : List Action} (h : as ≠ []) (t : Text) :
    Report.unlines (as.map summary) ≠ "No new calls on line ".toList ++ t := by
  obtain ⟨a, as, rfl⟩ := List.exists_cons_of_ne_nil h
  obtain ⟨c, cs, hc, hne⟩ := summary_eq_cons a
  intro he
  simp only [Report.unlines, List.map_cons, List.flatMap_cons, hc, List.cons_append] at he
  exact hne (List.head_eq_of_cons_eq he)

end Action

lemma Session.head?_stubs {b : Buffer} (hb : b.WellFormed) (style : Stub.Style) (i : Nat) :
    let calls := callsAt b i
    let shown := calls.map fun c => (c.head (scopeAbove b i)).text
    let stubs := (Call.firsts calls).map fun c => Stub.render style (c.head (scopeAbove b i))
    stubs.map (fun s => (s.splitOn '\n').head?) = ((process .free (start style b) i).actions.map Action.function).map
      fun g => (shown[calls.findIdx (·.name == g)]?).map (· ++ " \x7b".toList) := by
  intro calls shown stubs
  rw [function_start hb, ← Call.map_name_firsts, List.map_map, List.map_map]
  apply List.map_congr_left
  intro c hc
  have hfirst : shown[calls.findIdx (·.name == c.name)]? = some (c.head (scopeAbove b i)).text := by
    rw [List.getElem?_map, ← List.find?_eq_getElem?_findIdx, Call.find?_of_mem_firsts hc]
    rfl
  simp only [Function.comp_apply, hfirst]
  exact Stub.head?_splitOn_render style (head_feedless hb (Call.firsts_subset _ hc))

namespace Invocation

lemma runIn_inspect (f : Folder) (config : Option Text) (path : Text) (line : Nat) (json : Bool) :
    runIn ⟨.inspect path line json, config⟩ f = (Command.runInspect f.file path line json, f) := by
  have hwritten : (Command.runInspect f.file path line json).written = none := by
    unfold Command.runInspect
    split
    · rfl
    · simp only
      split_ifs <;> rfl
  simp [runIn, Command.run, Command.source?, hwritten]

section OneLine

variable (f : Folder) (config : Option Text) (path t : Text) (line : Nat)

def work : Session.Progress :=
  Session.process .free (.start (Command.settingsFor f.file config path).1.style (.ofText t)) (line - 1)

def workLog : List Log.Entry :=
  (Command.settingsFor f.file config path).2 ++ (work f config path t line).actions.map Action.entry

variable {f path t line} (ht : f.file path = .text t)

include ht

lemma openLine_of_range (hl : 0 < line ∧ line ≤ (Buffer.ofText t).lineCount) :
    openLine path (f.file path) line = .ok (.ofText t, line - 1) := by
  rw [ht]
  exact if_neg (by omega)

lemma openLine_out_of_range (hl : line = 0 ∨ (Buffer.ofText t).lineCount < line) :
    openLine path (f.file path) line = .error (.lineOutOfRange path line (Buffer.ofText t).lineCount) := by
  rw [ht]
  exact if_pos hl

lemma runInspect_out_of_range (hl : line = 0 ∨ (Buffer.ofText t).lineCount < line) (json : Bool) :
    Command.runInspect f.file path line json =
      .failed [] (.lineOutOfRange path line (Buffer.ofText t).lineCount) := by
  rw [Command.runInspect, openLine_out_of_range ht hl]

lemma runProcess_out_of_range (hl : line = 0 ∨ (Buffer.ofText t).lineCount < line) (dryRun : Bool) :
    Command.runProcess f.file config path line dryRun =
      .failed (Command.settingsFor f.file config path).2 (.lineOutOfRange path line (Buffer.ofText t).lineCount) := by
  rw [Command.runProcess, openLine_out_of_range ht hl]

section InRange

variable (hl : 0 < line ∧ line ≤ (Buffer.ofText t).lineCount)

include hl

lemma exit_inspect (json : Bool) : (Command.runInspect f.file path line json).exit = 0 := by
  rw [Command.runInspect, openLine_of_range ht hl]
  simp only
  split_ifs <;> rfl

lemma shown_inspect :
    ((Command.runInspect f.file path line false).stdout.splitOn '\n').takeWhile (· ≠ []) =
      (Session.callsAt (.ofText t) (line - 1)).map fun c =>
        (c.head (Session.scopeAbove (.ofText t) (line - 1))).text := by
  have hheads : ∀ h ∈ (Command.findings (.ofText t) (line - 1)).heads, h.Feedless := by
    intro h hh
    obtain ⟨c, hc, rfl⟩ := List.mem_map.1 hh
    exact Session.head_feedless (Buffer.wellFormed_ofText t) hc
  have htexts := Command.Findings.takeWhile_lines hheads
  rw [Command.Findings.heads, List.map_map] at htexts
  rw [Command.runInspect, openLine_of_range ht hl]
  simp only [Bool.false_eq_true, if_false]
  split_ifs with hc
  · have hnil : Session.callsAt (.ofText t) (line - 1) = [] := List.isEmpty_iff.1 hc
    rw [hnil]
    rfl
  · exact htexts

lemma runIn_dry : runIn ⟨.process path line true, config⟩ f =
    (⟨0, (work f config path t line).session.buffer.toText,
      Report.unlines ((work f config path t line).actions.map Action.summary), workLog f config path t line, none⟩,
      f) := by
  simp only [runIn, Command.run, Command.runProcess, openLine_of_range ht hl, Command.source?]
  rfl

lemma runIn_idle (h : (work f config path t line).actions = []) :
    runIn ⟨.process path line false, config⟩ f =
      (⟨0, [], "No new calls on line ".toList ++ Text.ofNat line ++ ['\n'], workLog f config path t line, none⟩,
        f) := by
  have hempty : (work f config path t line).actions.isEmpty = true := List.isEmpty_iff.2 h
  simp only [work] at hempty
  simp [runIn, Command.run, Command.runProcess, openLine_of_range ht hl, Command.source?, hempty, workLog, work]

lemma runIn_written (h : (work f config path t line).actions ≠ []) :
    runIn ⟨.process path line false, config⟩ f =
      (⟨0, [], Report.unlines ((work f config path t line).actions.map Action.summary),
        workLog f config path t line, some (work f config path t line).session.buffer.toText⟩,
        f.write path (work f config path t line).session.buffer.toText) := by
  have hempty : (work f config path t line).actions.isEmpty = false := by simpa using h
  simp only [work] at hempty
  simp [runIn, Command.run, Command.runProcess, openLine_of_range ht hl, Command.source?, hempty, workLog, work]

end InRange

end OneLine

/-- A folder that refuses to be written stays as it is. The command says what it would have said, and fails if there
was something to write. -/
theorem refusal_leaves_folder (v : Invocation) (f : Folder) (reason : Text) :
    let r := (v.runIn f).1
    let q := (v.runIn f (some reason)).1
    (v.runIn f (some reason)).2 = f ∧ q.written = none ∧ q.stdout = r.stdout ∧ q.stderr = r.stderr ∧
      r.log <+: q.log ∧ (q.exit = 0 ↔ r.exit = 0 ∧ r.written = none) := by
  intro r q
  obtain ⟨command, config⟩ := v
  cases hsource : command.source? with
  | none =>
    cases command with
    | version => exact ⟨rfl, rfl, rfl, rfl, List.prefix_rfl, fun _ => ⟨rfl, rfl⟩, fun _ => rfl⟩
    | _ => cases hsource
  | some path =>
    cases hwritten : (command.run f.file config).written with
    | none => simp [r, q, runIn, hsource, hwritten]
    | some t => simp [r, q, runIn, hsource, hwritten, Report.refused]

/-- A dry run shows what a run leaves in the file. Where there is nothing to do this depends on the line endings. -/
theorem dry_run_shows_result (f : Folder) (config : Option Text) {path t : Text} {line : Nat}
    (ht : f.file path = .text t) (hl : 0 < line ∧ line ≤ (Buffer.ofText t).lineCount) :
    let calls := Session.callsAt (.ofText t) (line - 1)
    let dry := runIn ⟨.process path line true, config⟩ f
    let done := runIn ⟨.process path line false, config⟩ f
    dry.2 = f ∧
    (calls ≠ [] → done.2.file path = .text dry.1.stdout) ∧
    (calls = [] → (done.2.file path = .text dry.1.stdout ↔
      (¬"\r\n".toList <:+: t ∨ ∀ x y, t = x ++ '\n' :: y → x.getLast? = some '\r') ∧
        t.getLast? ≠ some '\r')) := by
  intro calls dry done
  have hidle : (work f config path t line).actions = [] ↔ calls = [] :=
    Session.actions_start_eq_nil_iff (Buffer.wellFormed_ofText t) _ _
  have hdry := runIn_dry config ht hl
  refine ⟨congrArg Prod.snd hdry, fun hc => ?_, fun hc => ?_⟩
  · have hdone := runIn_written config ht hl (mt hidle.1 hc)
    simp only [dry, done, hdry, hdone]
    exact Folder.file_write ht _
  -- the file keeps its text, but what is shown went through a buffer
  · have hdone := runIn_idle config ht hl (hidle.2 hc)
    have hbuffer : (work f config path t line).session.buffer = .ofText t :=
      (Session.idle_process .free _ _ (hidle.2 hc)).1
    simp only [dry, done, hdry, hdone, hbuffer, ht]
    rw [← Buffer.toText_ofText_iff, File.text.injEq, eq_comm]

theorem dry_run_shows_result_of_mixed_endings :
    let f : Folder := [("a.c".toList, "x = f(1);\r\ny;\n".toList)]
    let run := fun line dryRun => runIn ⟨.process "a.c".toList line dryRun, none⟩ f
    (run 1 false).2.file "a.c".toList = .text (run 1 true).1.stdout ∧
    (run 2 false).2.file "a.c".toList ≠ .text (run 2 true).1.stdout := by
  intro f run
  have ht : f.file "a.c".toList = .text "x = f(1);\r\ny;\n".toList := by decide +kernel
  have hone : 0 < 1 ∧ 1 ≤ (Buffer.ofText "x = f(1);\r\ny;\n".toList).lineCount := by decide +kernel
  have htwo : 0 < 2 ∧ 2 ≤ (Buffer.ofText "x = f(1);\r\ny;\n".toList).lineCount := by decide +kernel
  obtain ⟨-, hcall, -⟩ := dry_run_shows_result f none ht hone
  obtain ⟨-, -, hidle⟩ := dry_run_shows_result f none ht htwo
  refine ⟨hcall (by decide +kernel), fun h => ?_⟩
  obtain ⟨hcrlf | hfeed, -⟩ := (hidle (by decide +kernel)).1 h
  · exact absurd hcrlf (by decide +kernel)
  · exact absurd (hfeed "x = f(1);\r\ny;".toList [] rfl) (by decide +kernel)

/-- What `inspect` says of a line is what `process` then does there. -/
theorem inspect_foretells_process (f : Folder) (config : Option Text) {path t : Text} (ht : f.file path = .text t)
    (line : Nat) :
    let b := Buffer.ofText t
    let calls := Session.callsAt b (line - 1)
    let inspect := fun json => runIn ⟨.inspect path line json, config⟩ f
    let shown := ((inspect false).1.stdout.splitOn '\n').takeWhile (· ≠ [])
    let done := runIn ⟨.process path line false, config⟩ f
    (∀ json, (inspect json).2 = f) ∧
    (line = 0 ∨ b.lineCount < line →
      (∀ json, (inspect json).1 = .failed [] (.lineOutOfRange path line b.lineCount)) ∧
      ∃ log, done.1 = .failed log (.lineOutOfRange path line b.lineCount)) ∧
    (0 < line ∧ line ≤ b.lineCount →
      (∀ json, (inspect json).1.exit = 0) ∧ done.1.exit = 0 ∧
      shown = calls.map (fun c => (c.head (Session.scopeAbove b (line - 1))).text) ∧
      (shown = [] ↔ done.1.stderr = "No new calls on line ".toList ++ Text.ofNat line ++ ['\n']) ∧
      (shown ≠ [] → ∃ actions stubs after,
        done.1.stderr = Report.unlines (actions.map Action.summary) ∧
        actions.map Action.function = (calls.map Call.name).eraseDups ∧
        (List.zipWith Action.edit stubs actions).foldlM Buffer.apply b = .ok after ∧
        done.2.file path = .text after.toText ∧
        stubs.map (fun s => (s.splitOn '\n').head?) =
          (actions.map Action.function).map fun g =>
            (shown[calls.findIdx (·.name == g)]?).map (· ++ " \x7b".toList))) := by
  intro b calls inspect shown done
  have hinspect : ∀ json, inspect json = (Command.runInspect f.file path line json, f) :=
    runIn_inspect f config path line
  refine ⟨fun json => by rw [hinspect], fun hl => ⟨fun json => ?_, ?_⟩, fun hl => ?_⟩
  · rw [hinspect]
    exact runInspect_out_of_range ht hl json
  · refine ⟨(Command.settingsFor f.file config path).2, ?_⟩
    simp only [done, runIn, Command.run, runProcess_out_of_range config ht hl]
    rfl
  · have hb := Buffer.wellFormed_ofText t
    have hshown : shown = calls.map fun c => (c.head (Session.scopeAbove b (line - 1))).text := by
      simp only [shown, hinspect]
      exact shown_inspect ht hl
    have hidle : (work f config path t line).actions = [] ↔ shown = [] := by
      rw [hshown, List.map_eq_nil_iff]
      exact Session.actions_start_eq_nil_iff hb _ _
    refine ⟨fun json => by rw [hinspect]; exact exit_inspect ht hl json, ?_⟩
    -- either nothing is shown and nothing is done, or every edit comes from a call that is shown
    by_cases hs : shown = []
    · have hdone : done = _ := runIn_idle config ht hl (hidle.2 hs)
      rw [hdone]
      exact ⟨rfl, hshown, iff_of_true hs rfl, fun h => absurd hs h⟩
    · have hdone : done = _ := runIn_written config ht hl (mt hidle.1 hs)
      let p := work f config path t line
      let style := (Command.settingsFor f.file config path).1.style
      let stubs := (Call.firsts calls).map fun c => Stub.render style (c.head (Session.scopeAbove b (line - 1)))
      rw [hdone]
      refine ⟨rfl, hshown, iff_of_false hs (Action.unlines_summary_ne (mt hidle.1 hs) _), fun _ =>
        ⟨p.actions, stubs, p.session.buffer, rfl, ?_, ?_, ?_, ?_⟩⟩
      · exact Session.function_start hb style _
      · exact Session.edits_start hb style _
      · exact Folder.file_write ht _
      · rw [hshown]
        exact Session.head?_stubs hb style _

theorem inspect_foretells_process_of_two_callees :
    let t := "int a = 1;\nx = f(a) + g(2.5) + f(3);\n".toList
    let f : Folder := [("a.c".toList, t)]
    (runIn ⟨.inspect "a.c".toList 2 false, none⟩ f).1.stdout =
      "int f(int a)\nint g(double arg0)\nint f(int arg0)\n\n  a                    int\n".toList ∧
    ∃ actions stubs after, actions.map Action.function = ["f".toList, "g".toList] ∧
      (List.zipWith Action.edit stubs actions).foldlM Buffer.apply (.ofText t) = .ok after ∧
      (runIn ⟨.process "a.c".toList 2 false, none⟩ f).2.file "a.c".toList = .text after.toText ∧
      stubs.map (fun s => (s.splitOn '\n').head?) =
        [some "int f(int a) \x7b".toList, some "int g(double arg0) \x7b".toList] := by
  intro t f
  have ht : f.file "a.c".toList = .text t := by decide +kernel
  obtain ⟨-, -, hrange⟩ := inspect_foretells_process f none ht 2
  obtain ⟨-, -, hshown, -, hwritten⟩ := hrange (by decide +kernel)
  obtain ⟨actions, stubs, after, -, hnames, hedits, hfile, hheads⟩ := hwritten (by decide +kernel)
  have hfunctions : actions.map Action.function = ["f".toList, "g".toList] := hnames.trans (by decide +kernel)
  rw [hfunctions] at hheads
  exact ⟨by decide +kernel, actions, stubs, after, hfunctions, hedits, hfile, hheads.trans (by decide +kernel)⟩

end Invocation

end CallStubs
