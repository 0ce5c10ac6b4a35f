import CallStubs.Proofs.Replay

/-! No edit that a session plans is turned down by the buffer itself, whatever has happened to the buffer before. -/

namespace CallStubs

/-- Whether a line of the text starts at byte `o`, or the text ends there. -/
def Text.IsLineBound (t : Text) (o : Nat) : Prop :=
  ∃ a z, t = a ++ z ∧ byteLength a = o ∧ (a = [] ∨ a.getLast? = some '\n' ∨ z = [])

lemma Text.IsLineBound.le {t : Text} {o : Nat} (h : t.IsLineBound o) : o ≤ byteLength t := by
  obtain ⟨a, z, rfl, rfl, -⟩ := h
  rw [byteLength_append]
  exact Nat.le_add_right _ _

lemma block_append (A B : List Text) : block (A ++ B) = block A ++ block B :=
  List.flatMap_append

namespace Buffer

lemma offsetOf_of_le {b : Buffer} {i : Nat} (hi : b.lineCount ≤ i) : b.offsetOf i = Text.byteLength b.joined := by
  rw [offsetOf, if_pos hi, joined, byteLength_intercalate]

lemma offsetOf_of_lt {b : Buffer} {i : Nat} (hi : i < b.lineCount) :
    b.offsetOf i = Text.byteLength (block (b.lines.take i)) := by
  rw [offsetOf, if_neg (Nat.not_le.2 hi), byteLength_block]

lemma isLineBound_offsetOf (b : Buffer) (i : Nat) : b.joined.IsLineBound (b.offsetOf i) := by
  rcases Nat.lt_or_ge i b.lineCount with hi | hi
  · exact ⟨_, _, joined_split hi, (offsetOf_of_lt hi).symm, (getLast?_block _).imp List.getLast?_eq_none_iff.1 Or.inl⟩
  · exact ⟨b.joined, [], (List.append_nil _).symm, (offsetOf_of_le hi).symm, Or.inr (Or.inr rfl)⟩

lemma offsetOf_mono (b : Buffer) {i j : Nat} (hij : i ≤ j) : b.offsetOf i ≤ b.offsetOf j := by
  rcases Nat.lt_or_ge j b.lineCount with hj | hj
  · have htake : b.lines.take j = b.lines.take i ++ (b.lines.take j).drop i := by
      conv_lhs => rw [← List.take_append_drop i (b.lines.take j), List.take_take, min_eq_left hij]
    rw [offsetOf_of_lt hj, offsetOf_of_lt (hij.trans_lt hj), htake, block_append, Text.byteLength_append]
    exact Nat.le_add_right _ _
  · rw [offsetOf_of_le hj]
    exact (b.isLineBound_offsetOf i).le

lemma attempt_cases (b : Buffer) (e : Edit) : (b.attempt e).2 = b ∨ b.apply e = .ok (b.attempt e).2 := by
  rw [attempt]
  cases h : b.apply e with
  | ok b' => exact Or.inr rfl
  | error err => exact Or.inl rfl

lemma WellFormed.attempt {b : Buffer} (h : b.WellFormed) (e : Edit) : (b.attempt e).2.WellFormed := by
  rcases b.attempt_cases e with he | he
  · rwa [he]
  · exact .apply he

lemma crlf_attempt (b : Buffer) (e : Edit) : (b.attempt e).2.crlf = b.crlf := by
  rcases b.attempt_cases e with he | he
  · rw [he]
  · exact crlf_apply he

inductive Reachable (t : Text) : Buffer → Prop
  | start : Reachable t (.ofText t)
  | edited {b : Buffer} (e : Edit) : Reachable t b → Reachable t (b.attempt e).2
  | changed {b : Buffer} (refuses : Gate) (m : Memory) (style : Stub.Style) (n line : Nat) :
      Reachable t b → Reachable t (Session.process refuses ⟨b, m, style, n⟩ line).session.buffer

end Buffer

lemma Action.apply_edit {b : Buffer} {a : Action} (hr : a.range.start ≤ a.range.stop)
    (hs : a.range.start < b.lineCount) (stub : Text) :
    b.apply (a.edit stub) = .ok (b.splice (b.offsetOf a.range.start) (b.offsetOf a.range.stop) stub) := by
  cases a with
  | inserted f i => exact if_neg (Nat.not_le.2 hs)
  | replaced f r =>
    simp only [range] at hr hs
    rw [edit, Buffer.apply, if_neg (Nat.not_lt.2 hr), if_neg (Nat.not_le.2 hs)]
    rfl

lemma Action.apply_plan_splice {b : Buffer} (hb : b.WellFormed) (i : Nat) (name stub : Text) :
    let r := (plan b i name).range
    b.apply ((plan b i name).edit stub) = .ok (b.splice (b.offsetOf r.start) (b.offsetOf r.stop) stub) := by
  obtain ⟨hr, hs⟩ := (valid_plan hb i name []).range
  exact apply_edit hr hs stub

/-- The calls that have their turns on a line where every stub is written: each one is remembered by those behind
it. -/
def Memory.admitted (line : Nat) (m : Memory) : List Call → List Call
  | [] => []
  | c :: cs => if m.skips c.name line then m.admitted line cs else c :: (m.record c.name line).admitted line cs

namespace Session

variable {refuses : Gate} {scope : Scope} {line : Nat} {p : Progress}

lemma step_attempts (refuses : Gate) (scope : Scope) (line : Nat) (p : Progress) (c : Call) :
    (step refuses scope line p c).session.buffer = p.session.buffer ∨
      ∃ e, (step refuses scope line p c).session.buffer = (p.session.buffer.attempt e).2 := by
  unfold step
  simp only
  split_ifs
  · exact Or.inl rfl
  · split
    · rename_i b h
      rw [Gate.apply] at h
      split_ifs at h
      exact Or.inr ⟨_, by rw [Buffer.attempt, h]⟩
    · exact Or.inl rfl

section Kept

/-! What every edit keeps is kept on all turns of a line. -/

variable {P : Buffer → Prop} (hP : ∀ b e, P b → P (Buffer.attempt b e).2)

include hP

lemma step_keeps (refuses : Gate) (scope : Scope) (line : Nat) (hp : P p.session.buffer) (c : Call) :
    P (step refuses scope line p c).session.buffer := by
  rcases step_attempts refuses scope line p c with h | ⟨e, h⟩
  · rwa [h]
  · rw [h]
    exact hP _ e hp

lemma process_keeps {s : Session} (hs : P s.buffer) : P (process refuses s line).session.buffer :=
  process_induction refuses s line (motive := fun p => P p.session.buffer) hs fun _ c hp =>
    step_keeps hP refuses _ line hp c

lemma turns_keep (hp : P p.session.buffer) {cs : List Call} : ∀ u ∈ turns refuses scope line p cs, P u.buffer := by
  induction cs generalizing p with
  | nil => simp [turns]
  | cons c cs ih =>
    have hrest := ih (step_keeps hP refuses scope line hp c)
    rw [turns]
    split_ifs
    · exact hrest
    · exact List.forall_mem_cons.2 ⟨hp, hrest⟩

end Kept

end Session

namespace Buffer.Reachable

variable {t : Text} {b : Buffer}

lemma wellFormed (h : Reachable t b) : b.WellFormed := by
  induction h with
  | start => exact wellFormed_ofText t
  | edited e _ ih => exact ih.attempt e
  | @changed b refuses m style n line _ ih =>
    exact Session.process_keeps (s := ⟨b, m, style, n⟩) (fun _ e hb => hb.attempt e) ih

lemma crlf_eq (h : Reachable t b) : b.crlf = (ofText t).crlf := by
  induction h with
  | start => rfl
  | edited e _ ih => exact (crlf_attempt _ e).trans ih
  | @changed b refuses m style n line _ ih =>
    exact Session.process_keeps (s := ⟨b, m, style, n⟩) (fun b e hb => (b.crlf_attempt e).trans hb) ih

end Buffer.Reachable

namespace Session

variable {line : Nat} {p : Progress}

lemma step_accepted (scope : Scope) (hb : p.session.buffer.WellFormed) {c : Call}
    (hs : p.session.memory.skips c.name line = false) :
    let q := step .free scope line p c
    q.session.memory = p.session.memory.record c.name line ∧
      q.actions = p.actions ++ [Action.plan p.session.buffer p.current c.name] ∧ q.refusals = p.refusals := by
  have happly := Action.apply_plan_splice hb p.current c.name (Stub.render p.session.style (c.head scope))
  simp only [step, hs, Gate.apply, Gate.free, happly, Bool.false_eq_true, if_false, and_self]

lemma foldl_accepted (scope : Scope) (line : Nat) (hb : p.session.buffer.WellFormed) (cs : List Call) :
    let q := cs.foldl (step .free scope line) p
    q.refusals = p.refusals ∧ q.actions.map Action.function =
      p.actions.map Action.function ++ (p.session.memory.admitted line cs).map Call.name := by
  induction cs generalizing p with
  | nil => exact ⟨rfl, (List.append_nil _).symm⟩
  | cons c cs ih =>
    rw [List.foldl_cons, Memory.admitted]
    split_ifs with hs
    · have hstep : step .free scope line p c = p := by rw [step, if_pos hs]
      rw [hstep]
      exact ih hb
    · obtain ⟨hmemory, hactions, hrefusals⟩ := step_accepted scope hb (by simpa using hs)
      have hb' := step_keeps (fun _ e hb => hb.attempt e) .free scope line hb c
      obtain ⟨hr, ha⟩ := ih hb'
      refine ⟨hr.trans hrefusals, ha.trans ?_⟩
      rw [hmemory, hactions, List.map_append, List.map_singleton, Action.function_plan, List.append_assoc]
      rfl

/-- Whatever has happened to a buffer: it has lines, none of them is broken, and the line ending is still that of the
text. An edit that is planned there is carried out, between two bytes at which lines start or the text ends. So no edit
is turned down when a line has changed, each call that is not left alone gets its stub, and all this holds again on the
turn of each. -/
theorem reachable_edits_accepted {t : Text} {b : Buffer} (h : b.Reachable t) :
    b.lines ≠ [] ∧ (∀ l ∈ b.lines, '\n' ∉ l) ∧ b.crlf = (Buffer.ofText t).crlf ∧
    (∀ i name stub, let a := Action.plan b i name
      let start := b.offsetOf a.range.start
      let stop := b.offsetOf a.range.stop
      b.apply (a.edit stub) = .ok (b.splice start stop stub) ∧
        start ≤ stop ∧ stop ≤ Text.byteLength b.joined ∧ b.joined.IsLineBound start ∧ b.joined.IsLineBound stop) ∧
    ∀ m style n line, let s : Session := ⟨b, m, style, n⟩
      (process .free s line).refusals = [] ∧
      (process .free s line).actions.map Action.function = (m.admitted line (callsAt b line)).map Call.name ∧
      ∀ u ∈ turnsAt .free s line, u.buffer.Reachable t := by
  have hb := h.wellFormed
  refine ⟨hb.nonempty, hb.feedless, h.crlf_eq, fun i name stub => ?_, fun m style n line => ?_⟩
  · have hstop := b.isLineBound_offsetOf (Action.plan b i name).range.stop
    exact ⟨Action.apply_plan_splice hb i name stub, b.offsetOf_mono (Action.plan_range_le b i name), hstop.le,
      b.isLineBound_offsetOf _, hstop⟩
  · obtain ⟨hrefusals, hactions⟩ := foldl_accepted (p := ⟨⟨b, m, style, n⟩, line, [], []⟩) (scopeAbove b line) line hb
      (callsAt b line)
    exact ⟨hrefusals, hactions, turns_keep (fun _ e hr => hr.edited e) h⟩

theorem reachable_edits_accepted_over_main :
    let t : Text := "int main() \x7b\r\nx = é + f(1) + g(2) + f(3);\r\n\x7d".toList
    let b := (((Buffer.ofText t).attempt (.insert 9 [])).2.attempt (.insert 0 "void f() \x7b\n".toList)).2
    let a := Action.plan b 2 "f".toList
    let s : Session := ⟨b, .empty, .standard, 0⟩
    b.Reachable t ∧ b.crlf = true ∧ a = .replaced "f".toList ⟨0, 4⟩ ∧
      b.apply (a.edit []) = .ok (b.splice 0 (Text.byteLength b.joined) []) ∧
      (process .free s 2).refusals = [] ∧
      (process .free s 2).actions.map Action.function = ["f".toList, "g".toList] ∧
      ∀ u ∈ turnsAt .free s 2, u.buffer.Reachable t := by
  intro t b a s
  have hb : b.Reachable t := (Buffer.Reachable.start.edited _).edited _
  obtain ⟨-, -, hcrlf, hplan, hprocess⟩ := reachable_edits_accepted hb
  obtain ⟨hrefusals, hactions, hturns⟩ := hprocess .empty .standard 0 2
  have hrange : a = .replaced "f".toList ⟨0, 4⟩ := by decide +kernel
  refine ⟨hb, hcrlf.trans (by decide +kernel), hrange, ?_, hrefusals, hactions.trans (by decide +kernel), hturns⟩
  have hend : b.offsetOf 4 = Text.byteLength b.joined := Buffer.offsetOf_of_le (by decide +kernel)
  have happly := (hplan 2 "f".toList []).1
  change b.apply (a.edit []) = .ok (b.splice (b.offsetOf a.range.start) (b.offsetOf a.range.stop) []) at happly
  rw [hrange] at happly ⊢
  rwa [Action.range, hend] at happly

end Session

end CallStubs
