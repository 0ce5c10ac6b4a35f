import CallStubs.Proofs.Turns
import Mathlib.Data.List.DropRight

/-! When the line whose calls are dealt with survives the stubs written for them. -/

namespace CallStubs

def stripReturns (l : Text) : Text :=
  l.rdropWhile (· == '\r')

lemma stripReturns_dropReturn (l : Text) : stripReturns (dropReturn l) = stripReturns l := by
  rcases dropReturn_eq l with h | h
  · rw [h]
  · conv_rhs => rw [h, stripReturns, List.rdropWhile_concat_pos _ _ _ (by decide)]
    rfl

lemma trim_stripReturns (l : Text) : Text.trim (stripReturns l) = Text.trim l := by
  have hl : l = stripReturns l ++ l.rtakeWhile (· == '\r') := List.rdropWhile_append_rtakeWhile.symm
  conv_rhs => rw [hl]
  refine (Text.trim_append_blank ?_ _).symm
  rw [Text.isBlankText_iff]
  intro c hc
  have hr := List.mem_rtakeWhile_imp hc
  rw [beq_iff_eq] at hr
  rw [hr]
  decide

namespace Placement

def ClosedWithin (name : Text) : List Text → Prop
  | [] => True
  | l :: ls => (Signature.defines name l = true → ∃ z ∈ ls, closesBody z = true) ∧ ClosedWithin name ls

namespace ClosedWithin

variable {name : Text}

lemma of_append {A R : List Text} (h : ClosedWithin name (A ++ R)) : ClosedWithin name R := by
  induction A with
  | nil => exact h
  | cons l A ih => exact ih h.2

lemma append {R : List Text} (h : ClosedWithin name R) (hz : ∃ z ∈ R, closesBody z = true) (A : List Text) :
    ClosedWithin name (A ++ R) := by
  induction A with
  | nil => exact h
  | cons l A ih =>
    obtain ⟨z, hz, hc⟩ := hz
    exact ⟨fun _ => ⟨z, List.mem_append_right A hz, hc⟩, ih⟩

lemma map_dropReturn {ls : List Text} (h : ClosedWithin name ls) : ClosedWithin name (ls.map dropReturn) := by
  induction ls with
  | nil => exact h
  | cons l ls ih =>
    refine ⟨fun hd => ?_, ih h.2⟩
    obtain ⟨z, hz, hc⟩ := h.1 (by simpa using hd)
    exact ⟨dropReturn z, List.mem_map_of_mem hz, by simpa using hc⟩

lemma stub {C : List Text} (h : ClosedWithin name C) (A : List Text) (style : Stub.Style) (hd : Stub.Head) :
    ClosedWithin name (A ++ Stub.lines style hd ++ C) := by
  have hz : closesBody "\x7d".toList = true := by decide
  have hbrace : ClosedWithin name ("\x7d".toList :: [] :: C) :=
    ⟨fun hd => absurd hd (Bool.not_eq_true _ ▸ defines_of_closesBody hz name),
      fun hd => absurd hd (Bool.not_eq_true _ ▸ defines_nil name), h⟩
  have happ := hbrace.append ⟨_, List.mem_cons_self, hz⟩ (A ++ Stub.headLine hd :: Stub.innerLines style hd)
  simpa [Stub.lines_eq] using happ

end ClosedWithin

end Placement

namespace Session

namespace Turn

def ClosedAbove (u : Turn) : Prop :=
  ∀ r, Placement.existingStub? u.buffer (Placement.insertionPoint u.buffer u.line) u.call.name = some r →
    ∃ j, r.start < j ∧ j < u.line ∧ ∃ l, u.buffer.line? j = some l ∧ Placement.closesBody l = true

lemma spares_iff_closedAbove {u : Turn} (hne : u.buffer.trimmed u.line ≠ []) :
    u.action.Spares u.line ↔ u.ClosedAbove := by
  rcases Action.plan_cases u.buffer u.line u.call.name with ⟨hn, hp⟩ | ⟨D, hD, hb, hd, hp⟩
  · rw [action, hp, ClosedAbove, hn]
    exact ⟨fun _ r hr => by simp at hr, fun _ => Placement.insertionPoint_le _ _⟩
  · have hfound := Placement.existingStub?_eq_some_iff.2 ⟨D, hD, hb, hd, rfl⟩
    rw [action, hp, ClosedAbove, hfound]
    have hstop := withSeparator_stop u.buffer D.range
    have hclose : u.buffer.line? (D.above.length + D.inside.length + 1) = some D.close := by
      rw [Buffer.line?, ← hD, D.getElem?_close]
    constructor
    · intro hs r hr
      cases hr
      have hs : (withSeparator u.buffer D.range).stop ≤ u.line := hs
      simp only [Placement.Definition.range] at hs hstop ⊢
      exact ⟨_, by omega, by omega, _, hclose, D.closes⟩
    · intro h
      obtain ⟨j, hj, hju, l, hl, hc⟩ := h D.range rfl
      -- The line `j` is not inside the body, so the body is closed at `j` or above.
      have hlast : D.above.length + D.inside.length + 1 ≤ j := by
        by_contra hlt
        rw [Buffer.line?, ← hD] at hl
        have hm := D.mem_inside hl hj (by omega)
        simp [D.inside_open l hm] at hc
      change (withSeparator u.buffer D.range).stop ≤ u.line
      rcases hstop with hstop | ⟨hstop, -, hblank⟩
      · rw [hstop, Placement.Definition.range]
        simp only
        omega
      · rw [hstop]
        have hne' : D.range.stop ≠ u.line := fun he => hne (he ▸ hblank)
        simp only [Placement.Definition.range] at hne' ⊢
        omega

lemma closedAbove_of_closedWithin {u : Turn}
    (h : Placement.ClosedWithin u.call.name (u.buffer.lines.take u.line)) : u.ClosedAbove := by
  intro r hr
  obtain ⟨D, hD, hb, -, rfl⟩ := Placement.existingStub?_eq_some_iff.1 hr
  have hip := Placement.insertionPoint_le u.buffer u.line
  obtain ⟨k, hk⟩ : ∃ k, u.line = D.above.length + (k + 1) := ⟨u.line - D.above.length - 1, by omega⟩
  rw [← hD, hk, Placement.Definition.lines, List.take_append, List.take_of_length_le (by omega),
    Nat.add_sub_cancel_left, List.take_succ_cons] at h
  obtain ⟨z, hz, hc⟩ := h.of_append.1 D.defines
  obtain ⟨j, hj, rfl⟩ := List.mem_take_iff_getElem.1 hz
  refine ⟨D.above.length + (j + 1), by simp [Placement.Definition.range], by omega, _, ?_, hc⟩
  rw [Buffer.line?, ← hD, Placement.Definition.lines, List.getElem?_append_right (by omega),
    Nat.add_sub_cancel_left, List.getElem?_cons_succ]
  exact List.getElem?_eq_getElem _

end Turn

structure Tracks (text : Text) (p : Progress) : Prop where
  wellFormed : p.session.buffer.WellFormed
  line : (p.session.buffer.line? p.current).map stripReturns = some (stripReturns text)

namespace Tracks

variable {text : Text} {p : Progress}

lemma exists_line (h : Tracks text p) :
    ∃ l, p.session.buffer.line? p.current = some l ∧ stripReturns l = stripReturns text :=
  Option.map_eq_some_iff.1 h.line

lemma lt (h : Tracks text p) : p.current < p.session.buffer.lineCount := by
  obtain ⟨l, hl, -⟩ := h.exists_line
  exact (List.getElem?_eq_some_iff.1 hl).1

lemma trimmed (h : Tracks text p) : p.session.buffer.trimmed p.current = Text.trim text := by
  obtain ⟨l, hl, hs⟩ := h.exists_line
  rw [Buffer.trimmed, hl, ← trim_stripReturns text, ← hs, trim_stripReturns]
  rfl

lemma result (h : Tracks text p) {q : Progress} {name : Text} {ls : List Text} (hls : ∀ l ∈ ls, '\n' ∉ l)
    (ha : (Action.plan p.session.buffer p.current name).Spares p.current)
    (hb : q.session.buffer = (Action.plan p.session.buffer p.current name).result p.session.buffer ls)
    (hc : q.current = (Action.plan p.session.buffer p.current name).shift ls.length p.current) :
    Tracks text q := by
  refine ⟨hb ▸ Action.wellFormed_result h.wellFormed _ _ hls, ?_⟩
  have hr := Action.plan_range_le p.session.buffer p.current name
  rw [hb, hc, ha.shift_eq hr, Action.result, Buffer.line?_withBlock hr ha h.lt, ← h.line, Option.map_map]
  congr 1
  funext l
  exact stripReturns_dropReturn l

end Tracks

section Run

variable (refuses : Gate) {scope : Scope} (line : Nat)

lemma turns_spare_iff {text : Text} (hne : Text.trim text ≠ []) {cs : List Call}
    (hf : ∀ c ∈ cs, (c.head scope).Feedless) {p : Progress} (h : Tracks text p) :
    ((∀ u ∈ turns refuses scope line p cs, u.action.Spares u.line) ↔
      ∀ u ∈ turns refuses scope line p cs, u.ClosedAbove) ∧
    ((∀ u ∈ turns refuses scope line p cs, u.ClosedAbove) →
      Tracks text (cs.foldl (step refuses scope line) p)) := by
  induction cs generalizing p with
  | nil => simp [turns, h]
  | cons c cs ih =>
    have hfc := hf c List.mem_cons_self
    have ih := fun {q} => @ih (fun d hd => hf d (List.mem_cons_of_mem _ hd)) q
    rw [List.foldl_cons]
    rcases step_cases refuses line h.wellFormed hfc with
      ⟨hb, -, -, hc, ha⟩ | ⟨-, hb, -, -, hc, ha⟩
    · rw [turns_cons_of_idle ha]
      exact ih ⟨hb ▸ h.wellFormed, by rw [hb, hc]; exact h.line⟩
    · have hiff := Turn.spares_iff_closedAbove (u := ⟨p, c⟩) (by simpa [Turn.buffer, Turn.line, h.trimmed] using hne)
      rw [turns_cons_of_taken ha]
      simp only [List.forall_mem_cons, hiff]
      by_cases hcl : Turn.ClosedAbove ⟨p, c⟩
      · have hq := h.result (Stub.feedless_lines _ hfc) (hiff.2 hcl) hb hc
        simpa only [hcl, true_and] using ih hq
      · simp [hcl]

lemma turns_closedAbove {text : Text} (hne : Text.trim text ≠ []) {cs : List Call}
    (hf : ∀ c ∈ cs, (c.head scope).Feedless) {p : Progress} (h : Tracks text p)
    (hcl : ∀ c ∈ cs, Placement.ClosedWithin c.name (p.session.buffer.lines.take p.current)) :
    ∀ u ∈ turns refuses scope line p cs, u.ClosedAbove := by
  induction cs generalizing p with
  | nil => simp [turns]
  | cons c cs ih =>
    have hfc := hf c List.mem_cons_self
    have ih := fun {q} => @ih (fun d hd => hf d (List.mem_cons_of_mem _ hd)) q
    have hcs := fun d hd => hcl d (List.mem_cons_of_mem c hd)
    rcases step_cases refuses line h.wellFormed hfc with
      ⟨hb, -, -, hc, ha⟩ | ⟨-, hb, -, -, hc, ha⟩
    · rw [turns_cons_of_idle ha]
      exact ih ⟨hb ▸ h.wellFormed, by rw [hb, hc]; exact h.line⟩ (by rw [hb, hc]; exact hcs)
    · have hca := Turn.closedAbove_of_closedWithin (u := ⟨p, c⟩) (hcl c List.mem_cons_self)
      have hsp : (Action.plan p.session.buffer p.current c.name).Spares p.current :=
        (Turn.spares_iff_closedAbove (by simpa [Turn.buffer, Turn.line, h.trimmed] using hne)).2 hca
      rw [turns_cons_of_taken ha, List.forall_mem_cons]
      refine ⟨hca, ih (h.result (Stub.feedless_lines _ hfc) hsp hb hc) fun d hd => ?_⟩
      have hr := Action.plan_range_le p.session.buffer p.current c.name
      rw [hb, hc, hsp.shift_eq hr, Action.result, Buffer.take_withBlock hr hsp h.lt]
      have hd := hcs d hd
      rw [← List.take_append_drop (Action.plan p.session.buffer p.current c.name).range.stop
        (p.session.buffer.lines.take p.current)] at hd
      exact (hd.of_append.stub _ p.session.style (c.head scope)).map_dropReturn

end Run

lemma tracks_start {t : Text} (m : Memory) (style : Stub.Style) (n : Nat) {line : Nat} {l : Text}
    (hl : (Buffer.ofText t).line? line = some l) : Tracks l ⟨⟨.ofText t, m, style, n⟩, line, [], []⟩ :=
  ⟨Buffer.wellFormed_ofText t, by rw [hl]; rfl⟩

/-- Every stub stands above the changed line if and only if each definition that is found for a call is closed
above it. Then the line is kept where the session follows it. It is so in particular if the definitions of the
callees above the line are closed there from the start. -/
theorem edited_line_kept_iff (refuses : Gate) (t : Text) (m : Memory) (style : Stub.Style) (n line : Nat) :
    let s : Session := ⟨.ofText t, m, style, n⟩
    let us := turnsAt refuses s line
    let p := process refuses s line
    p.actions = us.map Turn.action ∧
    ((∀ u ∈ us, u.action.Spares u.line) ↔ ∀ u ∈ us, u.ClosedAbove) ∧
    ((∀ u ∈ us, u.ClosedAbove) →
      (p.session.buffer.line? p.current).map stripReturns = (s.buffer.line? line).map stripReturns) ∧
    ((∀ c ∈ callsAt s.buffer line, Placement.ClosedWithin c.name (s.buffer.lines.take line)) →
      ∀ u ∈ us, u.ClosedAbove) := by
  intro s us p
  refine ⟨actions_process refuses s line, ?_⟩
  rcases List.eq_nil_or_concat' (callsAt s.buffer line) with hnil | ⟨cs, c, hcs⟩
  · have hus : us = [] := by simp [us, turnsAt, hnil, turns]
    have hp : p = ⟨s, line, [], []⟩ := by simp [p, process, hnil]
    simp [hus, hp]
  · have hne := trimmed_ne_nil (hcs ▸ List.mem_concat_self : c ∈ callsAt s.buffer line)
    cases hl : s.buffer.line? line with
    | none => simp [Buffer.trimmed, hl] at hne
    | some l =>
      have hne : Text.trim l ≠ [] := by simpa [Buffer.trimmed, hl] using hne
      have hf := fun c hc => head_feedless (Buffer.wellFormed_ofText t) (i := line) (c := c) hc
      have h := tracks_start m style n hl
      have hspare := turns_spare_iff refuses line hne hf h
      exact ⟨hspare.1, fun hc => (hspare.2 hc).line, turns_closedAbove refuses line hne hf h⟩

theorem edited_line_kept_below_definition :
    let s := start .standard (.ofText
      "int f(int a) \x7b\n    return a;\n\x7d\n\nint main() \x7b\n    int x = f(1);\n\x7d\n".toList)
    let p := process .free s 5
    p.actions = [.replaced "f".toList ⟨0, 4⟩] ∧ (∀ u ∈ turnsAt .free s 5, u.ClosedAbove) ∧
      (p.session.buffer.line? p.current).map stripReturns = some "    int x = f(1);".toList := by
  intro s p
  have hkept := edited_line_kept_iff .free
    "int f(int a) \x7b\n    return a;\n\x7d\n\nint main() \x7b\n    int x = f(1);\n\x7d\n".toList .empty .standard 0 5
  have hs : ∀ u ∈ turnsAt .free s 5, u.action.Spares u.line := by decide +kernel
  have hline : (s.buffer.line? 5).map stripReturns = some "    int x = f(1);".toList := by decide +kernel
  exact ⟨by decide +kernel, hkept.2.1.1 hs, (hkept.2.2.1 (hkept.2.1.1 hs)).trans hline⟩

/-- A body on the line of its head has no closing line of its own; the stub goes on to the end of the caller. -/
theorem edited_line_lost :
    let s := start .standard (.ofText
      "int f(int a) \x7b return a; \x7d\nint main() \x7b\n    int x = f(1);\n\x7d\n".toList)
    (∃ u ∈ turnsAt .free s 2, ¬u.action.Spares u.line) ∧
      s.buffer.line? 2 = some "    int x = f(1);".toList ∧
      ∀ l ∈ (process .free s 2).session.buffer.lines, stripReturns l ≠ "    int x = f(1);".toList := by
  decide +kernel

end Session

end CallStubs
