import CallStubs.Proofs.Turns
import Mathlib.Data.List.DropRight

/-! What a session remembers is what the log of its stubs tells. -/

namespace CallStubs

inductive Deed where
  | wrote (line : Nat) (action : Action)
  | forgot
deriving DecidableEq

namespace Deed

def wrote? : Deed → Option (Nat × Action)
  | wrote line a => some (line, a)
  | forgot => none

def writings (ds : List Deed) : List (Nat × Action) :=
  ds.filterMap wrote?

def sinceForgot (ds : List Deed) : List Deed :=
  ds.rtakeWhile (· ≠ forgot)

lemma writings_wrote (ds : List Deed) (line : Nat) (a : Action) :
    writings (ds ++ [wrote line a]) = writings ds ++ [(line, a)] := by
  rw [writings, List.filterMap_append]
  rfl

lemma writings_forgot (ds : List Deed) : writings (ds ++ [forgot]) = writings ds := by
  rw [writings, List.filterMap_append]
  exact List.append_nil _

lemma sinceForgot_wrote (ds : List Deed) (line : Nat) (a : Action) :
    sinceForgot (ds ++ [wrote line a]) = sinceForgot ds ++ [wrote line a] :=
  List.rtakeWhile_concat_pos _ _ _ (by simp)

lemma sinceForgot_forgot (ds : List Deed) : sinceForgot (ds ++ [forgot]) = [] :=
  List.rtakeWhile_concat_neg _ _ _ (by simp)

end Deed

namespace Memory

@[simp]
lemma mem_processed_record {m : Memory} {name f : Text} {line : Nat} :
    f ∈ (m.record name line).processed ↔ f = name ∨ f ∈ m.processed :=
  List.mem_insert_iff

def Near (m : Memory) (line : Nat) : Prop :=
  ∃ last, m.lastLine = some last ∧ last ≤ line + 1 ∧ line ≤ last + 1

def Recalls (m : Memory) : Prop :=
  ∀ f, m.lastFunction = some f → f ∈ m.processed

lemma skips_of_near {m : Memory} {line : Nat} {f : Text} (h : m.Near line) (hf : f ∈ m.processed) :
    m.skips f line = true := by
  obtain ⟨last, hlast, hle, hge⟩ := h
  simp [skips, hlast, isNear, hle, hge, hf]

lemma Recalls.mem_of_skips {m : Memory} (hr : m.Recalls) {line : Nat} {f : Text} (h : m.skips f line = true) :
    f ∈ m.processed := by
  rw [skips] at h
  split at h
  · simp at h
  · simp only [Bool.or_eq_true, Bool.and_eq_true, beq_iff_eq, List.contains_iff_mem] at h
    exact h.elim (fun h => hr f h.1) fun h => h.2

lemma Recalls.skips_iff {m : Memory} (hr : m.Recalls) {line : Nat} (h : m.Near line) (f : Text) :
    m.skips f line = true ↔ f ∈ m.processed :=
  ⟨hr.mem_of_skips, skips_of_near h⟩

lemma near_of_lastLine {m : Memory} {line : Nat} (h : m.lastLine = some line) : m.Near line :=
  ⟨line, h, Nat.le_succ line, Nat.le_succ line⟩

lemma recalls_record (m : Memory) (name : Text) (line : Nat) : (m.record name line).Recalls :=
  fun _ hf => mem_processed_record.2 (Or.inl (Option.some.inj hf).symm)

lemma skips_record (m : Memory) (name : Text) (line : Nat) (f : Text) :
    (m.record name line).skips f line = true ↔ f ∈ (m.record name line).processed :=
  (recalls_record m name line).skips_iff (near_of_lastLine rfl) f

structure Logs (ds : List Deed) (m : Memory) : Prop where
  processed : ∀ f, f ∈ m.processed ↔ ∃ w ∈ Deed.writings (Deed.sinceForgot ds), w.2.function = f
  lastLine : m.lastLine = (Deed.writings ds).getLast?.map fun w => w.1
  lastFunction : m.lastFunction = (Deed.writings ds).getLast?.map fun w => w.2.function

namespace Logs

lemma empty : Memory.empty.Logs [] where
  processed f := by simp [Memory.empty, Deed.sinceForgot, Deed.writings]
  lastLine := rfl
  lastFunction := rfl

variable {ds : List Deed} {m : Memory}

lemma record (h : m.Logs ds) (line : Nat) (a : Action) :
    (m.record a.function line).Logs (ds ++ [.wrote line a]) where
  processed f := by
    rw [mem_processed_record, h.processed, Deed.sinceForgot_wrote, Deed.writings_wrote]
    simp only [List.mem_append, List.mem_singleton, or_and_right, exists_or, exists_eq_left]
    rw [or_comm, eq_comm]
  lastLine := by rw [Deed.writings_wrote, List.getLast?_concat]; rfl
  lastFunction := by rw [Deed.writings_wrote, List.getLast?_concat]; rfl

lemma forget (h : m.Logs ds) : m.forget.Logs (ds ++ [.forgot]) where
  processed f := by simp [Memory.forget, Deed.sinceForgot_forgot, Deed.writings]
  lastLine := by rw [Deed.writings_forgot]; exact h.lastLine
  lastFunction := by rw [Deed.writings_forgot]; exact h.lastFunction

end Logs

end Memory

namespace Session

lemma step_memory (refuses : Gate) (scope : Scope) (line : Nat) (p : Progress) (c : Call) :
    let q := step refuses scope line p c
    (q.actions = p.actions ∧ q.session.buffer = p.session.buffer ∧ q.session.memory = p.session.memory) ∨
    ∃ a, a.function = c.name ∧ p.session.memory.skips c.name line = false ∧ q.actions = p.actions ++ [a] ∧
      q.session.memory = p.session.memory.record c.name line := by
  unfold step
  simp only
  split_ifs with hs
  · exact Or.inl ⟨rfl, rfl, rfl⟩
  · split
    · exact Or.inr ⟨_, Action.function_plan _ _ _, by simpa using hs, rfl, rfl⟩
    · exact Or.inl ⟨rfl, rfl, rfl⟩

structure Distinct (line : Nat) (p : Progress) : Prop where
  nodup : (p.actions.map Action.function).Nodup
  recorded : ∀ a ∈ p.actions, p.session.memory.lastLine = some line ∧ a.function ∈ p.session.memory.processed

lemma Distinct.step {line : Nat} {p : Progress} (h : Distinct line p) (refuses : Gate) (scope : Scope) (c : Call) :
    Distinct line (step refuses scope line p c) := by
  rcases step_memory refuses scope line p c with ⟨ha, -, hm⟩ | ⟨a, hname, hs, ha, hm⟩
  · refine ⟨?_, ?_⟩
    · rw [ha]
      exact h.nodup
    · rw [ha, hm]
      exact h.recorded
  · rw [← hname] at hs hm
    have hnew : a.function ∉ p.actions.map Action.function := by
      intro hmem
      obtain ⟨d, hd, hda⟩ := List.mem_map.1 hmem
      obtain ⟨hline, hproc⟩ := h.recorded d hd
      rw [Memory.skips_of_near (Memory.near_of_lastLine hline) (hda ▸ hproc)] at hs
      simp at hs
    refine ⟨?_, ?_⟩
    · rw [ha, List.map_append, List.map_singleton, ← List.concat_eq_append]
      exact h.nodup.concat hnew
    · rw [ha, hm]
      intro d hd
      refine ⟨rfl, ?_⟩
      rcases List.mem_append.1 hd with hd | hd
      · exact Memory.mem_processed_record.2 (Or.inr (h.recorded d hd).2)
      · rw [List.mem_singleton.1 hd]
        exact Memory.mem_processed_record.2 (Or.inl rfl)

section Process

variable (refuses : Gate) (s : Session) (line : Nat)

lemma process_induction {motive : Progress → Prop} (start : motive ⟨s, line, [], []⟩)
    (step : ∀ p c, motive p → motive (step refuses (scopeAbove s.buffer line) line p c)) :
    motive (process refuses s line) :=
  List.foldlRecOn _ _ start fun p hp c _ => step p c hp

lemma distinct_process : Distinct line (process refuses s line) :=
  process_induction refuses s line ⟨List.nodup_nil, by simp⟩ fun _ c hp => hp.step refuses _ c

lemma idle_process : (process refuses s line).actions = [] →
    (process refuses s line).session.buffer = s.buffer ∧ (process refuses s line).session.memory = s.memory := by
  refine process_induction refuses s line (motive := fun p => p.actions = [] →
    p.session.buffer = s.buffer ∧ p.session.memory = s.memory) (fun _ => ⟨rfl, rfl⟩) fun p c hp h => ?_
  rcases step_memory refuses (scopeAbove s.buffer line) line p c with ⟨ha, hb, hm⟩ | ⟨a, -, -, ha, -⟩
  · rw [hb, hm]
    exact hp (ha ▸ h)
  · rw [ha] at h
    simp at h

lemma logs_process {ds : List Deed} (h : s.memory.Logs ds) :
    (process refuses s line).session.memory.Logs (ds ++ (process refuses s line).actions.map (.wrote line)) := by
  refine process_induction refuses s line (motive := fun p =>
    p.session.memory.Logs (ds ++ p.actions.map (.wrote line))) (by rwa [List.map_nil, List.append_nil]) fun p c hp => ?_
  rcases step_memory refuses (scopeAbove s.buffer line) line p c with ⟨ha, -, hm⟩ | ⟨a, hname, -, ha, hm⟩
  · rwa [ha, hm]
  · rw [ha, hm, ← hname, List.map_append, List.map_singleton, ← List.append_assoc]
    exact hp.record line a

end Process

end Session

structure Chronicle where
  session : Session
  deeds : List Deed

namespace Chronicle

inductive Event where
  | changed (line : Nat)
  | retyped (b : Buffer)
  | forgotten

def step (refuses : Gate) (r : Chronicle) : Event → Chronicle
  | .changed line =>
    let p := Session.process refuses r.session line
    ⟨p.session, r.deeds ++ p.actions.map (.wrote line)⟩
  | .retyped b => { r with session := { r.session with buffer := b } }
  | .forgotten => ⟨{ r.session with memory := r.session.memory.forget }, r.deeds ++ [.forgot]⟩

lemma logs_step {r : Chronicle} (h : r.session.memory.Logs r.deeds) (refuses : Gate) (e : Event) :
    (r.step refuses e).session.memory.Logs (r.step refuses e).deeds := by
  cases e with
  | changed line => exact Session.logs_process refuses r.session line h
  | retyped b => exact h
  | forgotten => exact h.forget

lemma logs_run {r : Chronicle} (h : r.session.memory.Logs r.deeds) (refuses : Gate) (events : List Event) :
    (events.foldl (step refuses) r).session.memory.Logs (events.foldl (step refuses) r).deeds := by
  induction events generalizing r with
  | nil => exact h
  | cons e events ih => exact ih (logs_step h refuses e)

/-- Whatever has happened to a session, and whichever stubs were turned down: it remembers the functions of the stubs
written since they were last forgotten, and the line and the function of the last stub of all. When a line has
changed, no function gets two stubs, and where none is written everything is as before. -/
theorem memory_tells_log (refuses : Gate) (style : Stub.Style) (b : Buffer) (events : List Event) :
    let r := events.foldl (step refuses) ⟨.start style b, []⟩
    let m := r.session.memory
    (∀ f, f ∈ m.processed ↔ ∃ w ∈ Deed.writings (Deed.sinceForgot r.deeds), w.2.function = f) ∧
    m.lastLine = ((Deed.writings r.deeds).getLast?.map fun w => w.1) ∧
    m.lastFunction = ((Deed.writings r.deeds).getLast?.map fun w => w.2.function) ∧
    ∀ line, let p := Session.process refuses r.session line
      (p.actions.map Action.function).Nodup ∧
      (p.actions = [] → p.session.buffer = r.session.buffer ∧ p.session.memory = m) := by
  intro r m
  have hlogs : m.Logs r.deeds := logs_run .empty refuses events
  refine ⟨hlogs.processed, hlogs.lastLine, hlogs.lastFunction, fun line => ?_⟩
  exact ⟨(Session.distinct_process refuses r.session line).nodup, Session.idle_process refuses r.session line⟩

end Chronicle

end CallStubs
