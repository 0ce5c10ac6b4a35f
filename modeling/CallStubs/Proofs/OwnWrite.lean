import CallStubs.Proofs.Turns
import CallStubs.Tracker

/-! What a session has written to its file counts as seen. -/

namespace CallStubs

lemma firstChange?_self (ls : List Text) : firstChange? ls ls = none :=
  if_pos rfl

lemma eq_of_firstChange?_eq_none {old new : List Text} (h : firstChange? old new = none) : old = new := by
  by_contra hne
  rw [firstChange?, if_neg hne] at h
  exact Option.some_ne_none _ h

namespace Session

inductive Settles (b : Buffer) (p : Progress) : Prop
  | idle : p.actions = [] → p.session.buffer = b → Settles b p
  | written : p.actions ≠ [] → p.session.buffer.WellFormed → p.session.buffer.Settled → Settles b p

namespace Settles

variable {b : Buffer} {p : Progress}

lemma settling (h : Settles b p) (hb : b.WellFormed) (hs : b.Settling) :
    p.session.buffer.WellFormed ∧ p.session.buffer.Settling := by
  cases h with
  | idle _ he => exact he ▸ ⟨hb, hs⟩
  | written _ hwf hset => exact ⟨hwf, hset.settling⟩

lemma step (h : Settles b p) (hb : b.WellFormed) (hs : b.Settling)
    (hr : Text.includes "\r\n".toList p.session.style.indent = false) (refuses : Gate) {scope : Scope} (line : Nat)
    {c : Call} (hf : (c.head scope).Feedless) : Settles b (step refuses scope line p c) := by
  obtain ⟨hwf, hset⟩ := h.settling hb hs
  have hwf' := wellFormed_step refuses line hwf hf
  rcases step_cases refuses line hwf hf with ⟨hq, -, -, -, ha⟩ | ⟨-, hq, -, -, -, ha⟩
  · cases h with
    | idle ha' hb' => exact .idle (ha.trans ha') (hq.trans hb')
    | written ha' _ hset' => exact .written (ha ▸ ha') hwf' (hq ▸ hset')
  · apply Settles.written _ hwf'
    · rw [hq]
      exact hset.withBlock (Stub.dropReturn_lines hr (c.head scope)) _ _
    · rw [ha]
      simp

lemma foldl (h : Settles b p) (hb : b.WellFormed) (hs : b.Settling)
    (hr : Text.includes "\r\n".toList p.session.style.indent = false) (refuses : Gate) {scope : Scope} (line : Nat)
    {cs : List Call} (hf : ∀ c ∈ cs, (c.head scope).Feedless) :
    Settles b (cs.foldl (Session.step refuses scope line) p) := by
  induction cs generalizing p with
  | nil => exact h
  | cons c cs ih =>
    rw [List.forall_mem_cons] at hf
    exact ih (h.step hb hs hr refuses line hf.1) (by rwa [style_step]) hf.2

end Settles

lemma settles_process {s : Session} (hb : s.buffer.WellFormed) (hs : s.buffer.Settling)
    (hr : Text.includes "\r\n".toList s.style.indent = false) (refuses : Gate) (line : Nat) :
    Settles s.buffer (process refuses s line) :=
  Settles.foldl (p := ⟨s, line, [], []⟩) (.idle rfl rfl) hb hs hr refuses line fun _ hc => head_feedless hb hc

end Session

namespace Tracker

lemma refresh_of_seen {k : Tracker} {t : Text} (h : k.snapshot = (Buffer.ofText t).lines)
    (fault? : Option Fault := none) : k.refresh (.text t) fault? = .ok ⟨k, .text t, [], none⟩ := by
  simp only [refresh, File.read, Except.map, h, firstChange?_self]

lemma refresh_of_changed {k : Tracker} {t : Text} {line : Nat}
    (h : firstChange? k.snapshot (Buffer.ofText t).lines = some line) :
    let p := Session.process Gate.free ⟨.ofText t, k.memory, k.style, 0⟩ line
    k.refresh (.text t) = .ok ⟨⟨p.session.buffer.lines, p.session.memory, k.style⟩,
      .text (if p.actions = [] then t else p.session.buffer.toText), p.actions, none⟩ := by
  simp only [refresh, File.read, Except.map, h, List.isEmpty_iff]
  split_ifs <;> rfl

lemma exists_refresh {k : Tracker} (hr : Text.includes "\r\n".toList k.style.indent = false) {t : Text}
    (ht : ¬"\r\r\r".toList <:+ t) :
    ∃ o after, k.refresh (.text t) = .ok o ∧ o.file = .text after ∧ (o.actions = [] → after = t) ∧
      o.tracker.snapshot = (Buffer.ofText after).lines := by
  cases hc : firstChange? k.snapshot (Buffer.ofText t).lines with
  | none =>
    have hseen := eq_of_firstChange?_eq_none hc
    exact ⟨_, t, refresh_of_seen hseen, rfl, fun _ => rfl, hseen⟩
  | some line =>
    refine ⟨_, _, refresh_of_changed hc, rfl, fun hidle => if_pos hidle, ?_⟩
    have hsettles := Session.settles_process (s := ⟨.ofText t, k.memory, k.style, 0⟩) (Buffer.wellFormed_ofText t)
      (Buffer.settling_ofText ht) hr Gate.free line
    cases hsettles with
    | idle hidle hb => rw [if_pos hidle, hb]
    | written hwrote hwf hset => rw [if_neg hwrote, hset.lines_ofText hwf]

/-- A file that was looked at counts as seen in the state in which it was left: the next look finds nothing to do. -/
theorem own_write_unnoticed {k : Tracker} (hr : Text.includes "\r\n".toList k.style.indent = false) (t : Text)
    (ht : ¬"\r\r\r".toList <:+ t) :
    ∃ o after, k.refresh (.text t) = .ok o ∧ o.file = .text after ∧ (o.actions = [] → after = t) ∧
      o.tracker.snapshot = (Buffer.ofText after).lines ∧
      o.tracker.refresh o.file = .ok ⟨o.tracker, o.file, [], none⟩ := by
  obtain ⟨o, after, ho, hfile, hidle, hseen⟩ := exists_refresh hr ht
  exact ⟨o, after, ho, hfile, hidle, hseen, hfile ▸ refresh_of_seen hseen⟩

theorem own_write_unnoticed_of_mixed_endings :
    let k : Tracker := ⟨["int main() \x7b".toList, "\x7d".toList], ⟨some 7, some "g".toList, ["g".toList]⟩, .standard⟩
    let t : Text := "int main() \x7b\r\n    int x = f(1);\n\x7d\r\r".toList
    ¬"\r\r\r".toList <:+ t ∧ ∃ o, k.refresh (.text t) = .ok o ∧ o.actions = [.inserted "f".toList 0] ∧
      o.tracker.refresh o.file = .ok ⟨o.tracker, o.file, [], none⟩ := by
  intro k t
  have ht : ¬"\r\r\r".toList <:+ t := by decide +kernel
  have hactions : (k.refresh (.text t)).map Outcome.actions = .ok [.inserted "f".toList 0] := by decide +kernel
  obtain ⟨o, -, ho, -, -, -, hagain⟩ := own_write_unnoticed (k := k) (by decide) t ht
  rw [ho] at hactions
  exact ⟨ht, o, ho, Except.ok.inj hactions, hagain⟩

/-- A text that ends in three carriage returns is read once more with one of them gone. -/
example :
    let k : Tracker := ⟨[], .empty, .standard⟩
    (do
      let o ← k.refresh (.text "f(1);\n\r\r\r".toList)
      let o' ← o.tracker.refresh o.file
      return (o.tracker.snapshot.getLast?, o'.tracker.snapshot.getLast?)) =
        .ok (some "\r".toList, some []) := by decide +kernel

end Tracker

end CallStubs
