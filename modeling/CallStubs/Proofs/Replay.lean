import CallStubs.Proofs.Remembering

/-! The actions of a run, with the stubs that belong to them, tell how the lines have changed. -/

namespace CallStubs

structure Writing where
  action : Action
  stub : List Text
deriving DecidableEq

namespace Writing

/-- The lines with the stub among them. One that replaces the end of the text leaves an empty line behind it. -/
def apply (w : Writing) (ls : List Text) : List Text :=
  match w.action with
  | .inserted _ i => ls.take i ++ w.stub ++ ls.drop i
  | .replaced _ r => ls.take r.start ++ w.stub ++ if r.stop < ls.length then ls.drop r.stop else [[]]

def Valid (w : Writing) (ls : List Text) : Prop :=
  match w.action with
  | .inserted _ i => i < ls.length
  | .replaced _ r => r.start < r.stop ∧ r.stop ≤ ls.length

def carry? (w : Writing) (j : Nat) : Option Nat :=
  if w.action.range.start ≤ j ∧ j < w.action.range.stop then none else some (w.action.shift w.stub.length j)

lemma Valid.range {w : Writing} {ls : List Text} (h : w.Valid ls) :
    w.action.range.start ≤ w.action.range.stop ∧ w.action.range.start < ls.length := by
  obtain ⟨a, stub⟩ := w
  cases a with
  | inserted f i => exact ⟨le_rfl, h⟩
  | replaced f r => exact ⟨h.1.le, h.1.trans_le h.2⟩

lemma apply_eq {w : Writing} {ls : List Text} (h : w.Valid ls) : w.apply ls = ls.take w.action.range.start ++
    w.stub ++ if w.action.range.stop < ls.length then ls.drop w.action.range.stop else [[]] := by
  obtain ⟨a, stub⟩ := w
  cases a with
  | inserted f i =>
    have hi : i < ls.length := h
    rw [Action.range, if_pos hi, apply]
  | replaced f r => rfl

lemma getElem?_apply {w : Writing} {ls : List Text} (hv : w.Valid ls) {j k : Nat} (hj : j < ls.length)
    (h : w.carry? j = some k) : (w.apply ls)[k]? = ls[j]? := by
  obtain ⟨hle, hlt⟩ := hv.range
  have hlen : (ls.take w.action.range.start).length = w.action.range.start := List.length_take_of_le hlt.le
  simp only [carry?, Option.ite_none_left_eq_some, Option.some.injEq] at h
  obtain ⟨hout, rfl⟩ := h
  rw [apply_eq hv]
  by_cases hs : w.action.range.stop ≤ j
  · have hlen' : (ls.take w.action.range.start ++ w.stub).length = w.action.range.start + w.stub.length := by
      rw [List.length_append, hlen]
    rw [Action.Spares.shift_eq hs hle, if_pos (hs.trans_lt hj), ← hlen',
      List.getElem?_append_right (Nat.le_add_right _ _), Nat.add_sub_cancel_left, List.getElem?_drop,
      Nat.add_sub_cancel' hs]
  · have hj' : j < w.action.range.start := by omega
    rw [Action.shift_of_not_spares hs, List.append_assoc, List.getElem?_append_left (by rwa [hlen]),
      List.getElem?_take_of_lt hj']

lemma carry?_lt {w : Writing} {i j i' j' : Nat} (hij : i < j) (hi : w.carry? i = some i')
    (hj : w.carry? j = some j') : i' < j' := by
  obtain ⟨a, stub⟩ := w
  simp only [carry?, Option.ite_none_left_eq_some, Option.some.injEq] at hi hj
  obtain ⟨hi, rfl⟩ := hi
  obtain ⟨hj, rfl⟩ := hj
  cases a with
  | inserted f k =>
    simp only [Action.shift]
    split_ifs <;> omega
  | replaced f r =>
    simp only [Action.shift, Action.range, LineRange.size] at hi hj ⊢
    split_ifs <;> omega

end Writing

inductive Replays : List Text → List Writing → List Text → Prop
  | nil {ls : List Text} : Replays ls [] ls
  | cons {w : Writing} {ws : List Writing} {ls ls' : List Text} :
      w.Valid ls → Replays (w.apply ls) ws ls' → Replays ls (w :: ws) ls'

lemma Replays.eq_foldl {ls ls' : List Text} {ws : List Writing} (h : Replays ls ws ls') :
    ls' = ws.foldl (fun ls w => w.apply ls) ls := by
  induction h with
  | nil => rfl
  | cons _ _ ih => exact ih

def carried? : List Writing → Nat → Option Nat
  | [], j => some j
  | w :: ws, j => (w.carry? j).bind (carried? ws)

lemma carried?_lt {ws : List Writing} {i j i' j' : Nat} (hij : i < j) (hi : carried? ws i = some i')
    (hj : carried? ws j = some j') : i' < j' := by
  induction ws generalizing i j with
  | nil =>
    cases hi
    cases hj
    exact hij
  | cons w ws ih =>
    obtain ⟨k, hk, hi⟩ := Option.bind_eq_some_iff.1 hi
    obtain ⟨m, hm, hj⟩ := Option.bind_eq_some_iff.1 hj
    exact ih (Writing.carry?_lt hij hk hm) hi hj

lemma Replays.getElem?_carried {ls ls' : List Text} {ws : List Writing} (h : Replays ls ws ls') {j k : Nat}
    (hj : j < ls.length) (hk : carried? ws j = some k) : ls'[k]? = ls[j]? := by
  induction h generalizing j with
  | nil =>
    cases hk
    rfl
  | @cons w ws ls ls' hv _ ih =>
    obtain ⟨i, hi, hk⟩ := Option.bind_eq_some_iff.1 hk
    have hline := Writing.getElem?_apply hv hj hi
    have hlt : i < (w.apply ls).length := by
      rw [List.getElem?_eq_getElem hj] at hline
      exact (List.getElem?_eq_some_iff.1 hline).1
    exact (ih hlt hk).trans hline

namespace Action

lemma valid_plan {b : Buffer} (hb : b.WellFormed) (i : Nat) (name : Text) (stub : List Text) :
    Writing.Valid ⟨plan b i name, stub⟩ b.lines := by
  rcases plan_cases b i name with ⟨-, hp⟩ | ⟨D, hD, -, -, hp⟩
  · rw [hp]
    exact Placement.insertionPoint_lt hb i
  · have hle := D.stop_le
    have hstop := withSeparator_stop b D.range
    rw [hD] at hle
    rw [hp, Writing.Valid]
    simp only [withSeparator_start, Placement.Definition.range, Buffer.lineCount] at hle hstop ⊢
    omega

lemma result_eq_apply {b : Buffer} (hb : b.Clean) {a : Action} {ls : List Text} (hls : ∀ l ∈ ls, Tidy l)
    (hv : Writing.Valid ⟨a, ls⟩ b.lines) : a.result b ls = ⟨Writing.apply ⟨a, ls⟩ b.lines, b.crlf⟩ := by
  rw [result, hb.withBlock_eq hls, Writing.apply_eq hv]
  rfl

end Action

namespace Session

def Turn.writing (scope : Scope) (u : Turn) : Writing :=
  ⟨u.action, Stub.lines u.before.session.style (u.call.head scope)⟩

section Run

variable (refuses : Gate) {scope : Scope} (line : Nat)

lemma replays_turns {cs : List Call} (hf : ∀ c ∈ cs, (c.head scope).Feedless) {p : Progress}
    (hb : p.session.buffer.Clean) (hr : Text.includes "\r\n".toList p.session.style.indent = false) :
    let q := cs.foldl (step refuses scope line) p
    q.session.buffer.Clean ∧ q.session.buffer.crlf = p.session.buffer.crlf ∧
      Replays p.session.buffer.lines ((turns refuses scope line p cs).map (Turn.writing scope)) q.session.buffer.lines := by
  induction cs generalizing p with
  | nil => exact ⟨hb, rfl, .nil⟩
  | cons c cs ih =>
    rw [List.forall_mem_cons] at hf
    rw [List.foldl_cons]
    rcases step_cases refuses line hb.wellFormed hf.1 with ⟨hq, -, hs, -, ha⟩ | ⟨-, hq, -, hs, -, ha⟩
    · rw [turns_cons_of_idle ha, ← hq]
      exact ih hf.2 (hq ▸ hb) (hs ▸ hr)
    · have hv := Action.valid_plan hb.wellFormed p.current c.name (Stub.lines p.session.style (c.head scope))
      have hclean := Action.clean_result hb (Action.plan p.session.buffer p.current c.name) hr hf.1
      have happly := Action.result_eq_apply hb (Stub.tidy_lines hr hf.1) hv
      rw [← hq] at hclean happly
      obtain ⟨hclean', hcrlf, hreplays⟩ := ih hf.2 hclean (hs ▸ hr)
      rw [happly] at hcrlf hreplays
      rw [turns_cons_of_taken ha, List.map_cons]
      exact ⟨hclean', hcrlf, .cons hv hreplays⟩

end Run

lemma clean_process (refuses : Gate) {s : Session} (hb : s.buffer.Clean)
    (hr : Text.includes "\r\n".toList s.style.indent = false) (line : Nat) :
    (process refuses s line).session.buffer.Clean :=
  (replays_turns (p := ⟨s, line, [], []⟩) refuses line (fun _ hc => head_feedless hb.wellFormed hc) hb hr).1

lemma zipWith_writing (refuses : Gate) (s : Session) (line : Nat) :
    List.zipWith Writing.mk (process refuses s line).actions (((turnsAt refuses s line).map Turn.call).map fun c =>
      Stub.lines s.style (c.head (scopeAbove s.buffer line))) =
    (turnsAt refuses s line).map (Turn.writing (scopeAbove s.buffer line)) := by
  rw [actions_process, List.map_map, List.zipWith_map, List.zipWith_self]
  apply List.map_congr_left
  intro u hu
  have hs := style_of_mem_turns refuses line u hu
  rw [Turn.writing, hs]
  rfl

/-- The actions, each with the stub of its call, replayed one after the other on the lines as they were: that is all
that has changed. Every line that none of them replaces is still there, and these are in order. -/
theorem actions_account_for_change (refuses : Gate) (t : Text) (m : Memory) (style : Stub.Style)
    (hr : Text.includes "\r\n".toList style.indent = false) (n line : Nat)
    (ht : Text.includes "\r\r".toList t = false) :
    let s : Session := ⟨.ofText t, m, style, n⟩
    let p := process refuses s line
    let accepted := (turnsAt refuses s line).map Turn.call
    let ws := List.zipWith Writing.mk p.actions
      (accepted.map fun c => Stub.lines style (c.head (scopeAbove s.buffer line)))
    (accepted.Sublist (callsAt s.buffer line) ∧ (accepted.map Call.name).Nodup ∧
      p.actions.map Action.function = accepted.map Call.name) ∧
    Replays s.buffer.lines ws p.session.buffer.lines ∧ p.session.buffer.crlf = s.buffer.crlf ∧
    (∀ j < s.buffer.lineCount, ∀ k, carried? ws j = some k → p.session.buffer.line? k = s.buffer.line? j) ∧
    ∀ i j i' j', i < j → carried? ws i = some i' → carried? ws j = some j' → i' < j' := by
  intro s p accepted ws
  have hb : s.buffer.Clean := Buffer.clean_ofText ht
  have hf : ∀ c ∈ callsAt s.buffer line, (c.head (scopeAbove s.buffer line)).Feedless :=
    fun c hc => head_feedless hb.wellFormed hc
  have hws : ws = _ := zipWith_writing refuses s line
  have hnames : p.actions.map Action.function = accepted.map Call.name := functions_process refuses s line
  obtain ⟨-, hcrlf, hreplays⟩ := @replays_turns refuses _ line _ hf ⟨s, line, [], []⟩ hb hr
  refine ⟨⟨sublist_turns _ _, hnames ▸ (distinct_process refuses s line).nodup, hnames⟩, hws ▸ hreplays, hcrlf, ?_, ?_⟩
  · intro j hj k hk
    exact (hws ▸ hreplays).getElem?_carried hj hk
  · intro i j i' j'
    exact carried?_lt

theorem actions_account_for_rewritten_end :
    let t : Text := "int g(int a) \x7b return a; \x7d\nint main() \x7b\n    int x = f(g(f(1)));\n\x7d".toList
    let s : Session := ⟨.ofText t, .empty, .standard, 0⟩
    let p := process (fun n => n == 0) s 2
    let ws : List Writing :=
      [⟨.replaced "g".toList ⟨0, 4⟩, Stub.lines .standard ⟨"g".toList, ["int arg0".toList], "int".toList⟩⟩,
        ⟨.inserted "f".toList 0, Stub.lines .standard ⟨"f".toList, ["int arg0".toList], "int".toList⟩⟩]
    (callsAt s.buffer 2).map Call.name = ["f".toList, "g".toList, "f".toList] ∧
      p.actions = ws.map Writing.action ∧ Replays s.buffer.lines ws p.session.buffer.lines ∧
      p.session.buffer.lines.length = 11 ∧ (∀ j < 4, carried? ws j = none) := by
  intro t s p ws
  have hws : List.zipWith Writing.mk p.actions (((turnsAt (fun n => n == 0) s 2).map Turn.call).map fun c =>
      Stub.lines .standard (c.head (scopeAbove s.buffer 2))) = ws := by decide +kernel
  have hreplays := (actions_account_for_change (fun n => n == 0) t .empty .standard (by decide) 0 2
    (by decide +kernel)).2.1
  simp only [t, s, p, ws] at hws hreplays ⊢
  rw [hws] at hreplays
  exact ⟨by decide +kernel, by decide +kernel, hreplays, by decide +kernel, by decide +kernel⟩

/-- An indent that leaves carriage returns at the ends of lines: the second stub takes one from each line of the first,
whether or not the lines of a stub are counted with those that they lose when they are written. -/
theorem second_stub_changes_first :
    let t : Text := "int main() \x7b\n    int x = f(1) + g(2);\n\x7d\n".toList
    let style : Stub.Style := ⟨"\r\r\n".toList⟩
    let s : Session := ⟨.ofText t, .empty, style, 0⟩
    let p := process .free s 1
    let ws := fun cut : Text → Text => List.zipWith Writing.mk p.actions
      (((turnsAt .free s 1).map Turn.call).map fun c =>
        (Stub.lines style (c.head (scopeAbove s.buffer 1))).map cut)
    Text.includes "\r\r".toList t = false ∧ p.actions.length = 2 ∧
      ¬Replays s.buffer.lines (ws id) p.session.buffer.lines ∧
      ¬Replays s.buffer.lines (ws dropReturn) p.session.buffer.lines := by
  intro t style s p ws
  have hne : ∀ cut ∈ [id, dropReturn],
      p.session.buffer.lines ≠ (ws cut).foldl (fun ls w => w.apply ls) s.buffer.lines := by
    decide +kernel
  exact ⟨by decide +kernel, by decide +kernel, fun h => hne id (by simp) h.eq_foldl,
    fun h => hne dropReturn (by simp) h.eq_foldl⟩

end Session

end CallStubs
