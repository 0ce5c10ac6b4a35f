import CallStubs.Proofs.Remembering

/-! Where nothing is turned down, each new callee of a line has one turn, and the stubs of the turns are all that is
written. -/

namespace CallStubs

def Memory.Guards (line : Nat) (m : Memory) : Prop :=
  ∀ f, m.skips f line = true ↔ f ∈ m.processed

lemma Memory.guards_empty (line : Nat) : Memory.empty.Guards line := fun f => by
  simp [Memory.empty, skips]

namespace Session

def Turn.edit (scope : Scope) (u : Turn) : Edit :=
  u.action.edit (Stub.render u.before.session.style (u.call.head scope))

lemma turns_append (refuses : Gate) (scope : Scope) (line : Nat) (p : Progress) (cs ds : List Call) :
    turns refuses scope line p (cs ++ ds) =
      turns refuses scope line p cs ++ turns refuses scope line (cs.foldl (step refuses scope line) p) ds := by
  induction cs generalizing p with
  | nil => rfl
  | cons c cs ih =>
    rw [List.cons_append, turns, turns, List.foldl_cons, ih]
    split_ifs
    · rfl
    · rfl

structure Covered (scope : Scope) (line : Nat) (p : Progress) (cs : List Call) (q : Progress) : Prop where
  wellFormed : q.session.buffer.WellFormed
  guards : q.session.memory.Guards line
  processed : ∀ f, f ∈ q.session.memory.processed ↔ f ∈ p.session.memory.processed ∨ f ∈ cs.map Call.name
  calls : (turns .free scope line p cs).map Turn.call =
    (Call.firsts cs).filter fun c => c.name ∉ p.session.memory.processed
  edits : ((turns .free scope line p cs).map (Turn.edit scope)).foldlM Buffer.apply p.session.buffer =
    .ok q.session.buffer

namespace Covered

variable {scope : Scope} {line : Nat} {p q : Progress} {cs : List Call}

lemma known (h : Covered scope line p cs (cs.foldl (step .free scope line) p)) {c : Call}
    (hc : c.name ∈ p.session.memory.processed ∨ c.name ∈ cs.map Call.name) :
    Covered scope line p (cs ++ [c]) ((cs ++ [c]).foldl (step .free scope line) p) := by
  generalize hq : cs.foldl (step .free scope line) p = q at h
  have hskip : step .free scope line q c = q := by
    rw [step, if_pos ((h.guards c.name).2 ((h.processed c.name).2 hc))]
  have hturns : turns .free scope line p (cs ++ [c]) = turns .free scope line p cs := by
    rw [turns_append, hq, turns_cons_of_idle (by rw [hskip]), hskip, turns, List.append_nil]
  rw [List.foldl_append, hq, List.foldl_cons, List.foldl_nil, hskip]
  refine ⟨h.wellFormed, h.guards, fun f => ?_, ?_, hturns ▸ h.edits⟩
  · rw [h.processed, List.map_append, List.mem_append, List.map_singleton, List.mem_singleton]
    constructor
    · exact Or.imp_right Or.inl
    · rintro (hf | hf | rfl)
      · exact Or.inl hf
      · exact Or.inr hf
      · exact hc
  · rw [hturns, h.calls, Call.firsts_concat]
    split_ifs with hm
    · rfl
    · rw [List.filter_append, List.filter_cons_of_neg (by simpa using hc.resolve_right hm), List.filter_nil, List.append_nil]

lemma fresh (h : Covered scope line p cs (cs.foldl (step .free scope line) p)) {c : Call}
    (hf : (c.head scope).Feedless) (hp : c.name ∉ p.session.memory.processed) (hc : c.name ∉ cs.map Call.name) :
    Covered scope line p (cs ++ [c]) ((cs ++ [c]).foldl (step .free scope line) p) := by
  generalize hq : cs.foldl (step .free scope line) p = q at h
  have hs : q.session.memory.skips c.name line = false := by
    rw [← Bool.not_eq_true, h.guards, h.processed]
    exact not_or.2 ⟨hp, hc⟩
  obtain ⟨hb, hm, -, -, ha⟩ := step_of_free h.wellFormed hf hs (rfl : Gate.free _ = false)
  have happly := Action.apply_plan h.wellFormed q.current c.name (Stub.feedless_lines q.session.style hf)
  have hturns : turns .free scope line p (cs ++ [c]) = turns .free scope line p cs ++ [⟨q, c⟩] := by
    rw [turns_append, hq, turns_cons_of_taken ha]
    rfl
  rw [List.foldl_append, hq, List.foldl_cons, List.foldl_nil]
  refine ⟨wellFormed_step .free line h.wellFormed hf, ?_, fun f => ?_, ?_, ?_⟩
  · rw [hm]
    exact Memory.skips_record _ _ _
  · rw [hm, Memory.mem_processed_record, h.processed, List.map_append, List.mem_append, List.map_singleton,
      List.mem_singleton, or_comm, or_assoc]
  · rw [hturns, List.map_append, h.calls, Call.firsts_concat, if_neg hc, List.filter_append,
      List.filter_cons_of_pos (by simpa using hp)]
    rfl
  · rw [hturns, List.map_append, List.foldlM_append, h.edits, hb, ← happly, ← Stub.render_eq]
    exact bind_pure (q.session.buffer.apply (Turn.edit scope ⟨q, c⟩))

lemma foldl (hb : p.session.buffer.WellFormed) (hg : p.session.memory.Guards line)
    (hf : ∀ c ∈ cs, (c.head scope).Feedless) :
    Covered scope line p cs (cs.foldl (step .free scope line) p) := by
  -- from the left, as the run goes: whether a call is left alone depends on the calls before it
  induction cs using List.reverseRecOn with
  | nil => exact ⟨hb, hg, by simp, rfl, rfl⟩
  | append_singleton cs c ih =>
    have ih := ih fun d hd => hf d (List.mem_append_left _ hd)
    by_cases hc : c.name ∈ p.session.memory.processed ∨ c.name ∈ cs.map Call.name
    · exact ih.known hc
    · rw [not_or] at hc
      exact ih.fresh (hf c (List.mem_append_right _ (List.mem_singleton_self c))) hc.1 hc.2

end Covered

section Start

variable {b : Buffer} (hb : b.WellFormed) (style : Stub.Style) (i : Nat)

include hb

lemma covered_start : Covered (scopeAbove b i) i ⟨start style b, i, [], []⟩ (callsAt b i)
    (process .free (start style b) i) :=
  Covered.foldl hb (Memory.guards_empty i) fun _ hc => head_feedless hb hc

lemma call_turnsAt_start : (turnsAt .free (start style b) i).map Turn.call = Call.firsts (callsAt b i) := by
  have hcalls := (covered_start hb style i).calls
  rwa [List.filter_eq_self.2 (by simp [start, Memory.empty])] at hcalls

lemma function_start : (process .free (start style b) i).actions.map Action.function =
    ((callsAt b i).map Call.name).eraseDups := by
  rw [functions_process, call_turnsAt_start hb, Call.map_name_firsts]

lemma actions_start_eq_nil_iff : (process .free (start style b) i).actions = [] ↔ callsAt b i = [] := by
  rw [← List.map_eq_nil_iff (f := Action.function), function_start hb]
  cases callsAt b i with
  | nil => exact iff_of_true rfl rfl
  | cons c cs => simp [List.eraseDups_cons]

lemma edits_start : let p := process .free (start style b) i
    let stubs := (Call.firsts (callsAt b i)).map fun c => Stub.render style (c.head (scopeAbove b i))
    (List.zipWith Action.edit stubs p.actions).foldlM Buffer.apply b = .ok p.session.buffer := by
  intro p stubs
  have hedits := (covered_start hb style i).edits
  have hzip : List.zipWith Action.edit stubs p.actions =
      (turnsAt .free (start style b) i).map (Turn.edit (scopeAbove b i)) := by
    simp only [p, stubs]
    rw [actions_process, ← call_turnsAt_start hb style i, List.map_map, List.zipWith_map, List.zipWith_self]
    apply List.map_congr_left
    intro u hu
    have hs := style_of_mem_turns .free i u hu
    rw [Turn.edit, hs]
    rfl
  rw [hzip]
  exact hedits

end Start

end Session

end CallStubs
