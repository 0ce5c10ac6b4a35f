import CallStubs.Proofs.Location

/-! The calls of a line have their turns one after the other; each turn sees what the ones before it wrote. -/

namespace CallStubs

namespace Action

def range : Action → LineRange
  | inserted _ i => ⟨i, i⟩
  | replaced _ r => r

def result (b : Buffer) (ls : List Text) (a : Action) : Buffer :=
  b.withBlock a.range.start a.range.stop ls

def Spares (i : Nat) (a : Action) : Prop :=
  a.range.stop ≤ i

instance (i : Nat) (a : Action) : Decidable (a.Spares i) :=
  inferInstanceAs (Decidable (_ ≤ _))

lemma Spares.shift_eq {i : Nat} {a : Action} (h : a.Spares i) (hr : a.range.start ≤ a.range.stop) (k : Nat) :
    a.shift k i = a.range.start + k + (i - a.range.stop) := by
  cases a with
  | inserted f j =>
    simp only [Spares, range] at h ⊢
    rw [shift, if_pos h]
    omega
  | replaced f r =>
    simp only [Spares, range] at h hr ⊢
    rw [shift, if_pos h, LineRange.size]
    omega

lemma shift_of_not_spares {i : Nat} {a : Action} (h : ¬a.Spares i) (k : Nat) : a.shift k i = i := by
  cases a with
  | inserted f j => exact if_neg h
  | replaced f r => exact if_neg h

@[simp] lemma function_plan (b : Buffer) (i : Nat) (name : Text) : (plan b i name).function = name := by
  unfold plan
  split <;> rfl

lemma plan_of_none {b : Buffer} {i : Nat} {name : Text}
    (h : Placement.existingStub? b (Placement.insertionPoint b i) name = none) :
    plan b i name = .inserted name (Placement.insertionPoint b i) := by
  rw [plan, h]

lemma plan_cases (b : Buffer) (i : Nat) (name : Text) :
    (Placement.existingStub? b (Placement.insertionPoint b i) name = none ∧
      plan b i name = .inserted name (Placement.insertionPoint b i)) ∨
    ∃ D : Placement.Definition name, D.lines = b.lines ∧ D.above.length < Placement.insertionPoint b i ∧
      (∀ l ∈ D.above, Signature.defines name l = false) ∧
      plan b i name = .replaced name (withSeparator b D.range) := by
  cases h : Placement.existingStub? b (Placement.insertionPoint b i) name with
  | none => exact Or.inl ⟨rfl, plan_of_none h⟩
  | some r =>
    obtain ⟨D, hD, hb, hn, rfl⟩ := Placement.existingStub?_eq_some_iff.1 h
    exact Or.inr ⟨D, hD, hb, hn, by rw [plan, h]⟩

end Action

@[simp] lemma withSeparator_start (b : Buffer) (r : LineRange) : (withSeparator b r).start = r.start := by
  unfold withSeparator
  split_ifs <;> rfl

lemma withSeparator_stop (b : Buffer) (r : LineRange) : (withSeparator b r).stop = r.stop ∨
    (withSeparator b r).stop = r.stop + 1 ∧ r.stop < b.lineCount ∧ b.trimmed r.stop = [] := by
  unfold withSeparator
  split_ifs with h
  · exact Or.inr ⟨rfl, h⟩
  · exact Or.inl rfl

section OfStub

variable {b : Buffer} {A R : List Text} {style : Stub.Style} {h : Stub.Head}
  (hb : b.lines = A ++ (Stub.lines style h).map dropReturn ++ R)

include hb

lemma Placement.existingStub?_of_stub (hi : Text.isBlankText style.indent = true) {name : Text}
    (hd : Signature.defines name (Stub.headLine h) = true)
    (hA : ∀ l ∈ A, Signature.defines name l = false) {before : Nat} (hlt : A.length < before) :
    existingStub? b before name = some ⟨A.length, A.length + (Stub.lines style h).length - 1⟩ := by
  have hopen : ∀ l ∈ (Stub.innerLines style h).map dropReturn, closesBody l = false := by
    simp only [List.forall_mem_map, closesBody_dropReturn]
    exact fun l hl => (Stub.innerLines_spec hi hl).2
  let D : Definition name := ⟨A, Stub.headLine h, (Stub.innerLines style h).map dropReturn, "\x7d".toList, [] :: R, hd,
    hopen, by decide⟩
  have hD : D.lines = b.lines := by simp [D, Definition.lines, hb, Stub.map_dropReturn_lines]
  have hrange : D.range = ⟨A.length, A.length + (Stub.lines style h).length - 1⟩ := by
    rw [Stub.length_lines, Definition.range, List.length_map]
    rfl
  exact existingStub?_eq_some_iff.2 ⟨D, hD, hlt, hA, hrange⟩

lemma withSeparator_of_stub : withSeparator b ⟨A.length, A.length + (Stub.lines style h).length - 1⟩ =
    ⟨A.length, A.length + (Stub.lines style h).length⟩ := by
  have hstop : A.length + (Stub.lines style h).length - 1 = A.length + (1 + (Stub.innerLines style h).length + 1) := by
    rw [Stub.length_lines]
    omega
  have hblank : b.lines[A.length + (Stub.lines style h).length - 1]? = some [] := by
    rw [hb, hstop, Stub.map_dropReturn_lines, List.append_assoc, List.getElem?_append_right (by omega),
      Nat.add_sub_cancel_left]
    simp [Nat.add_comm 1]
  have hlt := (List.getElem?_eq_some_iff.1 hblank).1
  have hpos : 1 ≤ A.length + (Stub.lines style h).length := by
    rw [Stub.length_lines]
    omega
  rw [withSeparator, if_pos ⟨hlt, by simp [Buffer.trimmed, Buffer.line?, hblank]; rfl⟩, LineRange.mk.injEq]
  exact ⟨rfl, Nat.sub_add_cancel hpos⟩

lemma Action.plan_of_stub (hi : Text.isBlankText style.indent = true) {name : Text}
    (hd : Signature.defines name (Stub.headLine h) = true)
    (hA : ∀ l ∈ A, Signature.defines name l = false) {i : Nat} (hlt : A.length < Placement.insertionPoint b i) :
    plan b i name = .replaced name ⟨A.length, A.length + (Stub.lines style h).length⟩ := by
  rw [plan, Placement.existingStub?_of_stub hb hi hd hA hlt]
  exact congrArg (Action.replaced name) (withSeparator_of_stub hb)

end OfStub

lemma Action.plan_range_le (b : Buffer) (i : Nat) (name : Text) :
    (plan b i name).range.start ≤ (plan b i name).range.stop := by
  rcases plan_cases b i name with ⟨-, hp⟩ | ⟨D, hD, -, -, hp⟩
  · rw [hp]
    exact le_rfl
  · have hstop := withSeparator_stop b D.range
    rw [hp, range, withSeparator_start]
    simp only [Placement.Definition.range] at hstop ⊢
    omega

lemma Action.apply_plan {b : Buffer} (hb : b.WellFormed) (i : Nat) (name : Text) {ls : List Text}
    (hls : ∀ l ∈ ls, '\n' ∉ l) : b.apply ((plan b i name).edit (block ls)) = .ok ((plan b i name).result b ls) := by
  have hr := plan_range_le b i name
  rcases plan_cases b i name with ⟨-, hp⟩ | ⟨D, hD, -, -, hp⟩
  · rw [hp]
    exact Buffer.apply_insert_block hb (Placement.insertionPoint_lt hb i) hls
  · have hs := D.stop_le
    rw [hD] at hs
    rw [hp] at hr ⊢
    apply Buffer.apply_replace_block hb hr _ hls
    · rw [range, withSeparator_start]
      simp only [Placement.Definition.range, Buffer.lineCount] at hs ⊢
      omega

lemma Action.wellFormed_result {b : Buffer} (hb : b.WellFormed) (i : Nat) (name : Text) {ls : List Text}
    (hls : ∀ l ∈ ls, '\n' ∉ l) : ((plan b i name).result b ls).WellFormed :=
  Buffer.WellFormed.apply (apply_plan hb i name hls)

lemma Action.clean_result {b : Buffer} (hb : b.Clean) (a : Action) {style : Stub.Style}
    (hr : Text.includes "\r\n".toList style.indent = false) {h : Stub.Head} (hf : h.Feedless) :
    (a.result b (Stub.lines style h)).Clean :=
  hb.withBlock (Stub.tidy_lines hr hf) (by simp [Stub.lines_eq]) _ _

section WithBlock

variable {b : Buffer} {s e i : Nat} (hs : s ≤ e) (he : e ≤ i) (hi : i < b.lineCount) (ls : List Text)

include hs he hi

lemma Buffer.line?_withBlock :
    (b.withBlock s e ls).line? (s + ls.length + (i - e)) = (b.line? i).map dropReturn := by
  have hlen : (b.lines.take s ++ ls).length = s + ls.length := by
    rw [List.length_append, List.length_take_of_le (by simp only [Buffer.lineCount] at hi; omega)]
  rw [Buffer.withBlock, Buffer.line?, Buffer.linesFrom, if_pos (by omega), List.getElem?_map, ← hlen,
    List.getElem?_append_right (by omega), Nat.add_sub_cancel_left, List.getElem?_drop,
    Nat.add_sub_cancel' he]
  rfl

lemma Buffer.take_withBlock :
    (b.withBlock s e ls).lines.take (s + ls.length + (i - e)) =
      (b.lines.take s ++ ls ++ (b.lines.take i).drop e).map dropReturn := by
  have hlen : (b.lines.take s ++ ls).length = s + ls.length := by
    rw [List.length_append, List.length_take_of_le (by simp only [Buffer.lineCount] at hi; omega)]
  rw [Buffer.withBlock, Buffer.linesFrom, if_pos (by omega), ← List.map_take, ← hlen, List.take_length_add_append,
    ← List.drop_take]

end WithBlock

lemma Buffer.line?_withBlock_above {b : Buffer} {s i : Nat} (hi : i < s) (hs : s < b.lineCount) (e : Nat)
    (ls : List Text) : (b.withBlock s e ls).line? i = (b.line? i).map dropReturn := by
  have hlen : (b.lines.take s).length = s := List.length_take_of_le hs.le
  rw [Buffer.withBlock, Buffer.line?, List.getElem?_map, List.append_assoc,
    List.getElem?_append_left (by rwa [hlen]), List.getElem?_take_of_lt hi]
  rfl

namespace Session

structure Turn where
  before : Progress
  call : Call

namespace Turn

def buffer (t : Turn) : Buffer :=
  t.before.session.buffer

def line (t : Turn) : Nat :=
  t.before.current

def action (t : Turn) : Action :=
  Action.plan t.buffer t.line t.call.name

end Turn

/-- The turns of the calls that get a stub: those that are neither skipped nor turned down. -/
def turns (refuses : Gate) (scope : Scope) (line : Nat) (p : Progress) : List Call → List Turn
  | [] => []
  | c :: cs =>
    let q := step refuses scope line p c
    if q.actions = p.actions then turns refuses scope line q cs else ⟨p, c⟩ :: turns refuses scope line q cs

lemma step_of_free {refuses : Gate} {scope : Scope} {line : Nat} {p : Progress} (hb : p.session.buffer.WellFormed)
    {c : Call} (hf : (c.head scope).Feedless) (hs : p.session.memory.skips c.name line = false)
    (hr : refuses p.session.attempts = false) :
    let q := step refuses scope line p c
    let ls := Stub.lines p.session.style (c.head scope)
    let a := Action.plan p.session.buffer p.current c.name
    q.session.buffer = a.result p.session.buffer ls ∧ q.session.memory = p.session.memory.record c.name line ∧
      q.session.style = p.session.style ∧ q.current = a.shift ls.length p.current ∧
      q.actions = p.actions ++ [a] := by
  have happ := Action.apply_plan hb p.current c.name (Stub.feedless_lines p.session.style hf)
  have hspan := Stub.span_render p.session.style hf
  simp only [step, hs, Gate.apply, hr, Stub.render_eq, happ, Bool.false_eq_true, if_false]
  rw [← Stub.render_eq, hspan]
  simp

lemma step_cases (refuses : Gate) {scope : Scope} (line : Nat) {p : Progress} (hb : p.session.buffer.WellFormed)
    {c : Call} (hf : (c.head scope).Feedless) :
    let q := step refuses scope line p c
    (q.session.buffer = p.session.buffer ∧ q.session.memory = p.session.memory ∧
      q.session.style = p.session.style ∧ q.current = p.current ∧ q.actions = p.actions) ∨
    let ls := Stub.lines p.session.style (c.head scope)
    let a := Action.plan p.session.buffer p.current c.name
    p.session.memory.skips c.name line = false ∧ q.session.buffer = a.result p.session.buffer ls ∧
      q.session.memory = p.session.memory.record c.name line ∧ q.session.style = p.session.style ∧
      q.current = a.shift ls.length p.current ∧ q.actions = p.actions ++ [a] := by
  by_cases hs : p.session.memory.skips c.name line = true
  · left
    simp [step, hs]
  · by_cases hr : refuses p.session.attempts = true
    · left
      simp [step, hs, Gate.apply, hr]
    · rw [Bool.not_eq_true] at hs hr
      exact Or.inr ⟨hs, step_of_free hb hf hs hr⟩

lemma wellFormed_step (refuses : Gate) {scope : Scope} (line : Nat) {p : Progress}
    (hb : p.session.buffer.WellFormed) {c : Call} (hf : (c.head scope).Feedless) :
    (step refuses scope line p c).session.buffer.WellFormed := by
  rcases step_cases refuses line hb hf with ⟨hq, -⟩ | ⟨-, hq, -⟩
  · rw [hq]
    exact hb
  · rw [hq]
    exact Action.wellFormed_result hb p.current c.name (Stub.feedless_lines p.session.style hf)

lemma style_step (refuses : Gate) (scope : Scope) (line : Nat) (p : Progress) (c : Call) :
    (step refuses scope line p c).session.style = p.session.style := by
  simp only [step]
  split_ifs
  · rfl
  · split <;> rfl

lemma step_actions (refuses : Gate) (scope : Scope) (line : Nat) (p : Progress) (c : Call) :
    (step refuses scope line p c).actions = p.actions ∨
      (step refuses scope line p c).actions = p.actions ++ [Turn.action ⟨p, c⟩] := by
  unfold step
  simp only
  split_ifs
  · exact Or.inl rfl
  · split
    · exact Or.inr rfl
    · exact Or.inl rfl

variable {refuses : Gate} {scope : Scope} {line : Nat}

lemma style_foldl (p : Progress) (cs : List Call) :
    (cs.foldl (step refuses scope line) p).session.style = p.session.style := by
  induction cs generalizing p with
  | nil => rfl
  | cons c cs ih => rw [List.foldl_cons, ih, style_step]

lemma turns_cons_of_idle {p : Progress} {c : Call} (h : (step refuses scope line p c).actions = p.actions)
    (cs : List Call) :
    turns refuses scope line p (c :: cs) = turns refuses scope line (step refuses scope line p c) cs := by
  rw [turns, if_pos h]

lemma turns_cons_of_taken {p : Progress} {c : Call} {a : Action}
    (h : (step refuses scope line p c).actions = p.actions ++ [a]) (cs : List Call) :
    turns refuses scope line p (c :: cs) = ⟨p, c⟩ :: turns refuses scope line (step refuses scope line p c) cs := by
  rw [turns, if_neg (by simp [h])]

lemma actions_foldl (p : Progress) (cs : List Call) :
    (cs.foldl (step refuses scope line) p).actions =
      p.actions ++ (turns refuses scope line p cs).map Turn.action := by
  induction cs generalizing p with
  | nil => simp [turns]
  | cons c cs ih =>
    rw [List.foldl_cons, ih]
    rcases step_actions refuses scope line p c with h | h
    · rw [turns_cons_of_idle h, h]
    · rw [turns_cons_of_taken h, h]
      simp

lemma call_of_mem_turns {p : Progress} {cs : List Call} {u : Turn} (h : u ∈ turns refuses scope line p cs) :
    u.call ∈ cs := by
  induction cs generalizing p with
  | nil => simp [turns] at h
  | cons c cs ih =>
    rw [turns] at h
    split_ifs at h
    · exact List.mem_cons_of_mem c (ih h)
    · rcases List.mem_cons.1 h with rfl | h
      · exact List.mem_cons_self
      · exact List.mem_cons_of_mem c (ih h)

lemma sublist_turns (p : Progress) (cs : List Call) :
    ((turns refuses scope line p cs).map Turn.call).Sublist cs := by
  induction cs generalizing p with
  | nil => exact List.Sublist.slnil
  | cons c cs ih =>
    rw [turns]
    split_ifs
    · exact (ih _).cons c
    · exact (ih _).cons_cons c

lemma style_of_mem_turns (refuses : Gate) {scope : Scope} (line : Nat) {p : Progress} {cs : List Call} :
    ∀ u ∈ turns refuses scope line p cs, u.before.session.style = p.session.style := by
  induction cs generalizing p with
  | nil => simp [turns]
  | cons c cs ih =>
    have hrest := @ih (step refuses scope line p c)
    rw [style_step] at hrest
    rw [turns]
    split_ifs
    · exact hrest
    · exact List.forall_mem_cons.2 ⟨rfl, hrest⟩

def turnsAt (refuses : Gate) (s : Session) (line : Nat) : List Turn :=
  turns refuses (scopeAbove s.buffer line) line ⟨s, line, [], []⟩ (callsAt s.buffer line)

lemma actions_process (refuses : Gate) (s : Session) (line : Nat) :
    (process refuses s line).actions = (turnsAt refuses s line).map Turn.action :=
  actions_foldl _ _

lemma functions_process (refuses : Gate) (s : Session) (line : Nat) :
    (process refuses s line).actions.map Action.function = ((turnsAt refuses s line).map Turn.call).map Call.name := by
  rw [actions_process, List.map_map, List.map_map]
  exact List.map_congr_left fun u _ => Action.function_plan _ _ _

lemma style_process (refuses : Gate) (s : Session) (line : Nat) :
    (process refuses s line).session.style = s.style :=
  style_foldl ⟨s, line, [], []⟩ _

lemma feedless_trimmed {b : Buffer} (hb : b.WellFormed) (i : Nat) : '\n' ∉ b.trimmed i := by
  rw [Buffer.trimmed, Buffer.line?]
  cases h : b.lines[i]? with
  | none => simp
  | some l =>
    intro hm
    exact hb.feedless l (List.mem_of_getElem? h) (Text.trim_subset l hm)

lemma head_feedless {b : Buffer} (hb : b.WellFormed) {i : Nat} {c : Call} (hc : c ∈ callsAt b i) :
    (c.head (scopeAbove b i)).Feedless :=
  Call.head_feedless (fun l hl => hb.feedless l (List.mem_of_mem_take hl)) (feedless_trimmed hb i) hc

lemma trimmed_ne_nil {b : Buffer} {i : Nat} {c : Call} (hc : c ∈ callsAt b i) : b.trimmed i ≠ [] := by
  intro h
  have hlast := (shape_of_mem_extract hc).getLast?
  simp [h] at hlast

lemma lt_of_mem_callsAt {b : Buffer} {i : Nat} {c : Call} (hc : c ∈ callsAt b i) : i < b.lineCount := by
  by_contra hle
  apply trimmed_ne_nil hc
  rw [Buffer.trimmed, Buffer.line?, List.getElem?_eq_none (Nat.le_of_not_lt hle)]
  rfl

end Session

end CallStubs
