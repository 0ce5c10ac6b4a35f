import CallStubs.Proofs.OwnWrite
import CallStubs.Proofs.Suppression
import CallStubs.Watch

/-! What comes of stubs that could not be written. -/

namespace CallStubs

namespace Session

variable {s : Session} {line : Nat}

lemma process_again (hb : s.buffer.WellFormed) (hr : s.memory.Recalls) (h : (process .free s line).actions ≠ []) :
    let next : Session := { s with memory := (process .free s line).session.memory }
    process .free next line = ⟨next, line, [], []⟩ := by
  intro next
  have hfeedless : ∀ c ∈ callsAt s.buffer line, (c.head (scopeAbove s.buffer line)).Feedless :=
    fun c hc => head_feedless hb hc
  have hdealt : ∀ c ∈ callsAt s.buffer line, c.name ∈ (process .free s line).session.memory.processed :=
    (dealt_foldl (p := ⟨s, line, [], []⟩) hb hr hfeedless).2
  have hnear : next.memory.Near line := Memory.near_of_lastLine (lastLine_process h)
  exact process_of_dealt .free hnear hdealt

end Session

namespace Tracker

variable {k : Tracker} {t : Text} {line : Nat}

/-- A look at the text finds nothing to write, whether or not it can be written. -/
def Spent (k : Tracker) (t : Text) : Prop :=
  ∀ fault?, k.refresh (.text t) fault? = .ok ⟨⟨(Buffer.ofText t).lines, k.memory, k.style⟩, .text t, [], none⟩

lemma spent_of_seen (h : k.snapshot = (Buffer.ofText t).lines) : k.Spent t := by
  intro fault?
  rw [refresh_of_seen h fault?, ← h]

lemma spent_of_idle (h : firstChange? k.snapshot (Buffer.ofText t).lines = some line)
    (hidle : (Session.process .free ⟨.ofText t, k.memory, k.style, 0⟩ line).actions = []) : k.Spent t := by
  intro fault?
  obtain ⟨hbuffer, hmemory⟩ := Session.idle_process _ _ _ hidle
  simp only [refresh, File.read, Except.map, h, hidle, List.isEmpty_nil, if_true, hbuffer, hmemory]

lemma refresh_of_fault (h : firstChange? k.snapshot (Buffer.ofText t).lines = some line)
    (hne : (Session.process .free ⟨.ofText t, k.memory, k.style, 0⟩ line).actions ≠ []) (e : Fault) :
    k.refresh (.text t) (some e) = .ok
      ⟨⟨k.snapshot, (Session.process .free ⟨.ofText t, k.memory, k.style, 0⟩ line).session.memory, k.style⟩,
        e.left, [], some e.reason⟩ := by
  simp only [refresh, File.read, Except.map, h, List.isEmpty_iff, if_neg hne]

lemma spent_or_refused (hr : k.memory.Recalls) (t reason : Text) : k.Spent t ∨
    ∃ m, k.refresh (.text t) (some ⟨reason, .text t⟩) = .ok ⟨⟨k.snapshot, m, k.style⟩, .text t, [], some reason⟩ ∧
      Spent ⟨k.snapshot, m, k.style⟩ t := by
  cases hc : firstChange? k.snapshot (Buffer.ofText t).lines with
  | none => exact Or.inl (spent_of_seen (eq_of_firstChange?_eq_none hc))
  | some line =>
    let s : Session := ⟨.ofText t, k.memory, k.style, 0⟩
    by_cases hidle : (Session.process .free s line).actions = []
    · exact Or.inl (spent_of_idle hc hidle)
    · have hagain := Session.process_again (s := s) (Buffer.wellFormed_ofText t) hr hidle
      exact Or.inr ⟨_, refresh_of_fault hc hidle _, spent_of_idle hc (congrArg Session.Progress.actions hagain)⟩

/-- A session that starts with an empty memory recalls the function of its last call, whichever writes fail. -/
lemma recalls_refresh (hr : k.memory.Recalls) {f : File} {fault? : Option Fault} {o : Outcome}
    (h : k.refresh f fault? = .ok o) : o.tracker.memory.Recalls := by
  cases f with
  | text t =>
    cases hc : firstChange? k.snapshot (Buffer.ofText t).lines with
    | none =>
      rw [refresh_of_seen (eq_of_firstChange?_eq_none hc) fault?] at h
      exact Except.ok.inj h ▸ hr
    | some line =>
      have hprocess := Session.recalls_process (s := ⟨.ofText t, k.memory, k.style, 0⟩) hr .free line
      simp only [refresh, File.read, Except.map, hc] at h
      split at h
      · exact Except.ok.inj h ▸ hprocess
      · cases fault? <;> exact Except.ok.inj h ▸ hprocess
  | _ => cases h

/-- Stubs whose write was refused are lost: the file and what was seen of it stay as they were, but a later look does
not write them, even if it could. -/
theorem refused_write_loses_stubs (hr : k.memory.Recalls) (t reason : Text) :
    ∃ o, k.refresh (.text t) (some ⟨reason, .text t⟩) = .ok o ∧ o.file = .text t ∧ o.actions = [] ∧
      (o.refusal ≠ none → o.tracker.snapshot = k.snapshot) ∧ o.tracker.Spent t := by
  rcases spent_or_refused hr t reason with h | ⟨m, ho, hspent⟩
  · exact ⟨_, h _, rfl, rfl, fun hne => absurd rfl hne, spent_of_seen rfl⟩
  · exact ⟨_, ho, rfl, rfl, fun _ => rfl, hspent⟩

example :
    let k : Tracker := ⟨["int main() \x7b".toList, "\x7d".toList, []], .empty, .standard⟩
    let t : Text := "int main() \x7b\n    int x = f(1);\n\x7d\n".toList
    (do
      let o ← k.refresh (.text t) (some ⟨"Permission denied (os error 13)".toList, .text t⟩)
      let o' ← o.tracker.refresh o.file
      return (o.refusal.isSome, o'.actions, decide (o'.file = File.text t))) = .ok (true, [], true) := by decide +kernel

end Tracker

namespace Watch

lemma flush_of_ok {s : State} {o : Tracker.Outcome} (hs : s.file.exists? = true)
    (h : s.tracker.refresh s.file s.fault? = .ok o) :
    s.flush = some ⟨o.tracker, o.file, s.fault?, false, s.applied + o.actions.length,
      s.failures ++ o.refusal.toList.map .write⟩ := by
  rw [State.flush, if_pos hs, h]

structure Barred (t reason : Text) (s : State) : Prop where
  file : s.file = .text t
  fault : s.fault? = some ⟨reason, .text t⟩
  applied : s.applied = 0
  stubs : s.tracker.Spent t ∨ (s.tracker.memory.Recalls ∧ s.failures = [])
  failures : s.failures = [] ∨ s.failures = [.write reason]

namespace Barred

variable {t reason : Text} {s : State}

lemma notice (h : Barred t reason s) (target : Text) (w : Wakeup) : Barred t reason (s.notice target w) := by
  rw [State.notice]
  split_ifs
  · exact ⟨h.file, h.fault, h.applied, h.stubs, h.failures⟩
  · exact h

lemma flush (h : Barred t reason s) : ∃ s', s.flush = some s' ∧ Barred t reason s' := by
  have hexists : s.file.exists? = true := h.file ▸ rfl
  have hspent : s.tracker.Spent t → ∃ s', s.flush = some s' ∧ Barred t reason s' := by
    intro hspent
    refine ⟨_, flush_of_ok hexists (h.file ▸ hspent s.fault?), h.file, h.fault, h.applied, ?_, ?_⟩
    · exact Or.inl (Tracker.spent_of_seen rfl)
    · simpa using h.failures
  rcases h.stubs with hstubs | ⟨hr, hnone⟩
  · exact hspent hstubs
  · rcases Tracker.spent_or_refused hr t reason with hstubs | ⟨m, ho, hlost⟩
    · exact hspent hstubs
    · rw [← h.fault, ← h.file] at ho
      exact ⟨_, flush_of_ok hexists ho, h.file, h.fault, h.applied, Or.inl hlost, Or.inr (by simp [hnone])⟩

lemma turn (h : Barred t reason s) (target : Text) (w : Wakeup) :
    ∃ s', Watch.turn target s w = (s', true) ∧ Barred t reason s' := by
  simp only [Watch.turn]
  split_ifs
  · obtain ⟨s', hs, hbarred⟩ := (h.notice target w).flush
    exact ⟨s', by rw [hs], hbarred⟩
  · exact ⟨_, rfl, h.notice target w⟩

lemma run (h : Barred t reason s) (target : Text) (ws : List Wakeup) : Barred t reason (run target ws s) := by
  induction ws generalizing s with
  | nil =>
    rw [Watch.run]
    split_ifs
    · obtain ⟨s', hs, hbarred⟩ := h.flush
      rwa [hs]
    · exact h
  | cons w ws ih =>
    obtain ⟨s', hs, hbarred⟩ := h.turn target w
    rw [Watch.run, hs]
    exact ih hbarred

end Barred

/-- As long as the text may not be written a run leaves it alone and counts no stub, whatever wakes it up. It fails once
at most, since the calls count as dealt with from then on. -/
theorem refused_write_fails_once (target : Text) {k : Tracker} (hr : k.memory.Recalls) (t reason : Text)
    (ws : List Wakeup) :
    let s := run target ws (.start k (.text t) (some ⟨reason, .text t⟩))
    s.file = .text t ∧ s.applied = 0 ∧ (s.failures = [] ∨ s.failures = [.write reason]) := by
  intro s
  have hstart : Barred t reason (.start k (.text t) (some ⟨reason, .text t⟩)) :=
    ⟨rfl, rfl, rfl, Or.inr ⟨hr, rfl⟩, Or.inl rfl⟩
  have hrun := hstart.run target ws
  exact ⟨hrun.file, hrun.applied, hrun.failures⟩

end Watch

end CallStubs
