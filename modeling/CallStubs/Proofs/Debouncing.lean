import CallStubs.Proofs.OwnWrite
import CallStubs.Watch

/-! However often a watched file is looked at, and whenever, what comes of it is what one look would have done. -/

namespace CallStubs

namespace Tracker

def look (k : Tracker) (f : File) : Outcome :=
  match k.refresh f with
  | .ok o => o
  | .error _ => ⟨k, f, [], none⟩

lemma look_of_ok {k : Tracker} {f : File} {o : Outcome} (h : k.refresh f = .ok o) : k.look f = o := by
  rw [look, h]

lemma look_of_unreadable {k : Tracker} {f : File} (h : ∀ t, f ≠ .text t) : k.look f = ⟨k, f, [], none⟩ := by
  cases f with
  | text t => exact absurd rfl (h t)
  | _ => rfl

lemma look_again {k : Tracker} (hr : Text.includes "\r\n".toList k.style.indent = false) {f : File}
    (hf : ∀ t, f = .text t → ¬"\r\r\r".toList <:+ t) :
    (k.look f).tracker.look (k.look f).file = ⟨(k.look f).tracker, (k.look f).file, [], none⟩ := by
  by_cases h : ∃ t, f = .text t
  · obtain ⟨t, rfl⟩ := h
    obtain ⟨o, after, ho, hfile, -, hseen⟩ := exists_refresh hr (hf t rfl)
    rw [look_of_ok ho, hfile]
    exact look_of_ok (refresh_of_seen hseen)
  · rw [not_exists] at h
    rw [look_of_unreadable h]
    exact look_of_unreadable h

end Tracker

namespace Watch

structure Shows (o : Tracker.Outcome) (s : State) : Prop where
  tracker : s.tracker = o.tracker
  file : s.file = o.file
  fault : s.fault? = none
  applied : s.applied = o.actions.length

lemma flush_cases {s : State} (hs : s.fault? = none) :
    (s.flush = none ∧ s.tracker.look s.file = ⟨s.tracker, s.file, [], none⟩) ∨
    ∃ s', s.flush = some s' ∧ s'.tracker = (s.tracker.look s.file).tracker ∧
      s'.file = (s.tracker.look s.file).file ∧ s'.fault? = none ∧
      s'.applied = s.applied + (s.tracker.look s.file).actions.length := by
  obtain ⟨k, f, fault?, pending, applied, failures⟩ := s
  obtain rfl : fault? = none := hs
  cases f with
  | missing => exact Or.inl ⟨rfl, rfl⟩
  | blocked => exact Or.inl ⟨rfl, rfl⟩
  | overlong => exact Or.inl ⟨rfl, rfl⟩
  | folder => exact Or.inr ⟨_, rfl, rfl, rfl, rfl, rfl⟩
  | closed reason => exact Or.inr ⟨_, rfl, rfl, rfl, rfl, rfl⟩
  | garbled bytes => exact Or.inr ⟨_, rfl, rfl, rfl, rfl, rfl⟩
  | text t => exact Or.inr ⟨_, rfl, rfl, rfl, rfl, rfl⟩

/-- Where a run stands that began with the session `k` on the file `f`: nothing has been done yet, and a change that
was noticed is pending, or the file has been looked at. -/
inductive Stage (k : Tracker) (f : File) : Bool → State → Prop
  | waiting {s : State} : Shows ⟨k, f, [], none⟩ s → Stage k f s.pending s
  | looked {s : State} : Shows (k.look f) s → Stage k f true s

namespace Stage

variable {k : Tracker} {f : File} {noticed : Bool} {s : State}

lemma notice (h : Stage k f noticed s) (target : Text) (w : Wakeup) :
    Stage k f (noticed || w.event.any (·.concerns target)) (s.notice target w) := by
  rw [State.notice]
  split_ifs with hw
  · rw [hw, Bool.or_true]
    cases h with
    | waiting h => exact waiting (s := { s with pending := true }) ⟨h.tracker, h.file, h.fault, h.applied⟩
    | looked h => exact looked ⟨h.tracker, h.file, h.fault, h.applied⟩
  · rw [Bool.eq_false_of_not_eq_true hw, Bool.or_false]
    exact h

variable (hr : Text.includes "\r\n".toList k.style.indent = false) (hf : ∀ t, f = .text t → ¬"\r\r\r".toList <:+ t)

include hr hf

lemma flush (h : Stage k f noticed s) (hp : s.pending = true) :
    noticed = true ∧ Shows (k.look f) (s.flush.getD s) := by
  cases h with
  | waiting h =>
    refine ⟨hp, ?_⟩
    rcases flush_cases h.fault with ⟨hn, hl⟩ | ⟨s', hs, ht, hfile, hfault, ha⟩
    · rw [h.tracker, h.file] at hl
      rw [hn, hl]
      exact h
    · rw [h.tracker, h.file] at ht hfile ha
      rw [hs]
      exact ⟨ht, hfile, hfault, by rw [Option.getD_some, ha, h.applied, List.length_nil, Nat.zero_add]⟩
  | looked h =>
    -- What the first look has left is looked at again: there is nothing more to do.
    refine ⟨rfl, ?_⟩
    have hagain := Tracker.look_again hr hf
    rw [← h.tracker, ← h.file] at hagain
    rcases flush_cases h.fault with ⟨hn, -⟩ | ⟨s', hs, ht, hfile, hfault, ha⟩
    · rw [hn]
      exact h
    · rw [hagain] at ht hfile ha
      rw [hs]
      exact ⟨ht.trans h.tracker, hfile.trans h.file, hfault, ha.trans h.applied⟩

lemma turn (h : Stage k f noticed s) (target : Text) (w : Wakeup) :
    let r := Watch.turn target s w
    let noticed' := noticed || w.event.any (·.concerns target)
    Stage k f noticed' r.1 ∧ (r.2 = false → noticed' = true ∧ Shows (k.look f) r.1) := by
  have h := h.notice target w
  simp only [Watch.turn]
  by_cases hp : ((s.notice target w).pending && w.quiet) = true
  · obtain ⟨hn, hs⟩ := h.flush hr hf (Bool.and_eq_true_iff.1 hp).1
    rw [if_pos hp, hn]
    cases hflush : (s.notice target w).flush with
    | none =>
      rw [hflush] at hs
      exact ⟨looked hs, fun _ => ⟨rfl, hs⟩⟩
    | some s' =>
      rw [hflush] at hs
      exact ⟨looked hs, by simp⟩
  · rw [if_neg hp]
    exact ⟨h, by simp⟩

lemma run (h : Stage k f noticed s) (target : Text) (ws : List Wakeup) :
    Shows (if noticed || ws.any (·.event.any (·.concerns target)) then k.look f else ⟨k, f, [], none⟩)
      (run target ws s) := by
  induction ws generalizing noticed s with
  | nil =>
    rw [Watch.run, List.any_nil, Bool.or_false]
    by_cases hp : s.pending = true
    · obtain ⟨hn, hs⟩ := h.flush hr hf hp
      rwa [if_pos hp, if_pos hn]
    · rw [if_neg hp]
      cases h with
      | waiting h => rwa [if_neg hp]
      | looked h => rwa [if_pos rfl]
  | cons w ws ih =>
    obtain ⟨hstage, hend⟩ := h.turn hr hf target w
    rw [Watch.run, List.any_cons, ← Bool.or_assoc]
    rcases hturn : Watch.turn target s w with ⟨s', _ | _⟩
    · rw [hturn] at hend
      obtain ⟨hn, hs⟩ := hend rfl
      rwa [hn, Bool.true_or, if_pos rfl]
    · rw [hturn] at hstage
      exact ih hstage

end Stage

/-- A relevant event is followed by one look at the file, no matter which events come together and which wake-ups
find it quiet: any further look changes nothing. Without a relevant event, or where there is nothing to read, nothing
is done. -/
theorem debouncing_keeps_outcome (target : Text) {k : Tracker}
    (hr : Text.includes "\r\n".toList k.style.indent = false) (f : File) (ws : List Wakeup)
    (hf : ∀ t, f = .text t → ¬"\r\r\r".toList <:+ t) :
    let s := run target ws (.start k f)
    let relevant := ∃ e ∈ ws.filterMap Wakeup.event, e.concerns target = true
    (relevant → ∀ t, f = .text t →
      ∃ o, k.refresh f = .ok o ∧ s.tracker = o.tracker ∧ s.file = o.file ∧ s.applied = o.actions.length) ∧
    ((¬relevant ∨ ∀ t, f ≠ .text t) → s.tracker = k ∧ s.file = f ∧ s.applied = 0) := by
  intro s relevant
  have hstart : Stage k f false (.start k f) := .waiting (s := .start k f) ⟨rfl, rfl, rfl, rfl⟩
  have hrun := hstart.run hr hf target ws
  have hany : ws.any (·.event.any (·.concerns target)) = true ↔ relevant := by
    simp only [relevant, List.any_eq_true, Option.any_eq_true, List.mem_filterMap]
    constructor
    · rintro ⟨w, hw, e, he, hc⟩
      exact ⟨e, ⟨w, hw, he⟩, hc⟩
    · rintro ⟨e, ⟨w, hw, he⟩, hc⟩
      exact ⟨w, hw, e, he, hc⟩
  rw [Bool.false_or] at hrun
  constructor
  · rintro hrel t rfl
    obtain ⟨o, -, ho, -⟩ := Tracker.exists_refresh hr (hf t rfl)
    rw [if_pos (hany.2 hrel), Tracker.look_of_ok ho] at hrun
    exact ⟨o, ho, hrun.tracker, hrun.file, hrun.applied⟩
  · intro h
    have hshows : Shows ⟨k, f, [], none⟩ s := by
      rcases h with hrel | hread
      · rwa [if_neg (mt hany.1 hrel)] at hrun
      · rwa [Tracker.look_of_unreadable hread, ite_self] at hrun
    exact ⟨hshows.tracker, hshows.file, hshows.applied⟩

theorem debouncing_keeps_outcome_of_two_saves :
    let k : Tracker := ⟨["int main() \x7b".toList, "\x7d".toList, []], .empty, .standard⟩
    let t : Text := "int main() \x7b\n    print(x);\n\x7d\n".toList
    let save : Event := ⟨.modify, ["work/main.cpp".toList]⟩
    let swap : Event := ⟨.modify, ["work/.main.cpp.swp".toList]⟩
    let ws : List Wakeup := [⟨some swap, true⟩, ⟨some save, true⟩, ⟨none, true⟩, ⟨some save, false⟩, ⟨some swap, false⟩]
    let s := run "work/main.cpp".toList ws (.start k (.text t))
    ¬"\r\r\r".toList <:+ t ∧ (∃ o, k.refresh (.text t) = .ok o ∧ s.file = o.file ∧ s.applied = o.actions.length) ∧
      s.applied = 1 := by
  intro k t save swap ws s
  have ht : ¬"\r\r\r".toList <:+ t := by decide +kernel
  have h := debouncing_keeps_outcome "work/main.cpp".toList (k := k) (by decide) (.text t) ws
    fun u hu => File.text.inj hu ▸ ht
  obtain ⟨o, hr, -, hfile, happlied⟩ := h.1 ⟨save, by decide, by decide +kernel⟩ t rfl
  have hone : (k.refresh (.text t)).map (·.actions.length) = .ok 1 := by decide +kernel
  rw [hr] at hone
  exact ⟨ht, ⟨o, hr, hfile, happlied⟩, happlied.trans (Except.ok.inj hone)⟩

end Watch

end CallStubs
