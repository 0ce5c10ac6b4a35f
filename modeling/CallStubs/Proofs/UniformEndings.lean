import CallStubs.Proofs.Replay
import CallStubs.Proofs.RoundTrip

/-! Stubs take on the line ending of the text that they are written into. -/

namespace CallStubs

namespace Buffer

structure Uniform (crlf : Bool) (b : Buffer) : Prop where
  wellFormed : b.WellFormed
  crlf_eq : b.crlf = crlf
  inner : crlf = false → ∀ l ∈ b.lines.dropLast, dropReturn l = l

lemma uniform_ofText (t : Text) : (ofText t).Uniform (ofText t).crlf where
  wellFormed := wellFormed_ofText t
  crlf_eq := rfl
  inner hc l hl := by
    rw [ofText, splitLines, ← List.map_dropLast] at hl
    obtain ⟨r, hr, rfl⟩ := List.mem_map.1 hl
    have hno := dropReturn_of_mem_dropLast hc hr
    rw [hno, hno]

namespace Uniform

variable {crlf : Bool} {b : Buffer}

lemma return_before_feed (h : b.Uniform true) : ∀ x y, b.toText = x ++ '\n' :: y → x.getLast? = some '\r' := by
  obtain ⟨A, z, hA⟩ := (List.eq_nil_or_concat' b.lines).resolve_left h.wellFormed.nonempty
  have hmark : b.mark = ['\r'] := if_pos h.crlf_eq
  have hsplit : b.toText.splitOn '\n' = A.map (· ++ ['\r']) ++ [z] := by
    rw [h.wellFormed.splitOn_toText, hA, marked_concat, hmark]
  rw [forall_feed_iff hsplit]
  intro l hl
  obtain ⟨k, -, rfl⟩ := List.mem_map.1 hl
  exact List.getLast?_concat

lemma no_return_before_feed (h : b.Uniform false) : ¬"\r\n".toList <:+: b.toText := by
  have hmark : b.mark = [] := if_neg (by simp [h.crlf_eq])
  rw [← Text.includes_iff, Text.includes_return_iff, h.wellFormed.splitOn_toText, dropLast_marked, hmark]
  rintro ⟨_, hl, hr⟩
  obtain ⟨l, hk, rfl⟩ := List.mem_map.1 hl
  have hself : dropReturn l = l := h.inner rfl l hk
  rw [List.append_nil] at hr
  exact dropReturn_eq_self_iff.1 hself hr

lemma inner_withBlock (h : b.Uniform false) {s : Nat} (hs : s < b.lineCount) (e : Nat) {ls : List Text}
    (hls : ∀ l ∈ ls, dropReturn l = l) : ∀ l ∈ (b.withBlock s e ls).lines.dropLast, dropReturn l = l := by
  have hinner := h.inner rfl
  have htake : b.lines.take s = b.lines.dropLast.take s := by
    have hle : s ≤ b.lines.length - 1 := Nat.le_sub_one_of_lt hs
    rw [List.dropLast_eq_take, List.take_take, min_eq_left hle]
  have hfrom : ∀ k ∈ (b.linesFrom e).dropLast, dropReturn k = k := by
    intro k hk
    rw [linesFrom] at hk
    split_ifs at hk
    · rw [List.dropLast_drop_eq_drop_dropLast] at hk
      exact hinner k (List.mem_of_mem_drop hk)
    · simp at hk
  rw [Buffer.withBlock, ← List.map_dropLast, List.dropLast_append_of_ne_nil (linesFrom_ne_nil b e)]
  intro l hl
  obtain ⟨k, hk, rfl⟩ := List.mem_map.1 hl
  have hself : dropReturn k = k := by
    rw [List.mem_append, List.mem_append, htake] at hk
    rcases hk with (hk | hk) | hk
    · exact hinner k (List.mem_of_mem_take hk)
    · exact hls k hk
    · exact hfrom k hk
  rw [hself, hself]

end Uniform

end Buffer

namespace Session

variable {refuses : Gate} {crlf : Bool} {line : Nat}

lemma uniform_step {scope : Scope} {p : Progress} (h : p.session.buffer.Uniform crlf)
    (hr : crlf = false → Text.includes "\r\n".toList p.session.style.indent = false) {c : Call}
    (hf : (c.head scope).Feedless) : (step refuses scope line p c).session.buffer.Uniform crlf := by
  rcases step_cases refuses line h.wellFormed hf with ⟨hq, -⟩ | ⟨-, hq, -⟩
  · rw [hq]
    exact h
  · have hplace := (Action.valid_plan h.wellFormed p.current c.name (Stub.lines p.session.style (c.head scope))).range
    refine ⟨wellFormed_step refuses line h.wellFormed hf, ?_, ?_⟩
    · rw [hq]
      exact h.crlf_eq
    · rintro rfl
      rw [hq]
      exact h.inner_withBlock hplace.2 _ (Stub.dropReturn_lines (hr rfl) (c.head scope))

structure Uniform (crlf : Bool) (s : Session) : Prop where
  buffer : s.buffer.Uniform crlf
  indent : crlf = false → Text.includes "\r\n".toList s.style.indent = false

lemma Uniform.process {s : Session} (h : s.Uniform crlf) : (process refuses s line).session.Uniform crlf := by
  have hf : ∀ c ∈ callsAt s.buffer line, (c.head (scopeAbove s.buffer line)).Feedless :=
    fun c hc => head_feedless h.buffer.wellFormed hc
  refine List.foldlRecOn (motive := fun p : Progress => p.session.Uniform crlf) _ _ h fun p hp c hc => ?_
  exact ⟨uniform_step hp.buffer hp.indent (hf c hc), by rw [style_step]; exact hp.indent⟩

lemma Uniform.run {s : Session} (h : s.Uniform crlf) (events : List Nat) :
    (events.foldl (fun s line => (Session.process refuses s line).session) s).Uniform crlf := by
  induction events generalizing s with
  | nil => exact h
  | cons line events ih => exact ih h.process

lemma style_run (refuses : Gate) (s : Session) (events : List Nat) :
    (events.foldl (fun s line => (process refuses s line).session) s).style = s.style := by
  induction events generalizing s with
  | nil => rfl
  | cons line events ih => rw [List.foldl_cons, ih, style_process]

/-- However many lines have changed, and whichever stubs were turned down: where the text had a carriage return before
a line feed there is one before every line feed. Where it had none there is none, unless the indent brings one in, and
no line of a stub is broken or ends in a carriage return. -/
theorem endings_stay_uniform (refuses : Gate) (t : Text) (m : Memory) (style : Stub.Style) (n : Nat)
    (events : List Nat) :
    let s := events.foldl (fun s line => (process refuses s line).session) ⟨.ofText t, m, style, n⟩
    ("\r\n".toList <:+: t → ∀ x y, s.buffer.toText = x ++ '\n' :: y → x.getLast? = some '\r') ∧
    (¬"\r\n".toList <:+: style.indent →
      (¬"\r\n".toList <:+: t → ¬"\r\n".toList <:+: s.buffer.toText) ∧
      ∀ line, ∀ c ∈ callsAt s.buffer line, let h := c.head (scopeAbove s.buffer line)
        (Stub.render s.style h).splitOn '\n' = Stub.lines s.style h ++ [[]] ∧
        ∀ l ∈ Stub.lines s.style h, '\n' ∉ l ∧ l.getLast? ≠ some '\r') := by
  intro s
  simp only [← Text.includes_iff, Bool.not_eq_true]
  have hrun : ((Buffer.ofText t).crlf = false → Text.includes "\r\n".toList style.indent = false) →
      s.Uniform (Buffer.ofText t).crlf :=
    fun hr => Uniform.run (s := ⟨.ofText t, m, style, n⟩) ⟨Buffer.uniform_ofText t, hr⟩ events
  refine ⟨fun hcrlf => ?_, fun hr => ?_⟩
  · have hs := (hrun fun hc => absurd hcrlf (ne_true_of_eq_false hc)).buffer
    rw [show (Buffer.ofText t).crlf = true from hcrlf] at hs
    exact hs.return_before_feed
  · have hs := (hrun fun _ => hr).buffer
    refine ⟨fun hcrlf => ?_, fun line c hc => ?_⟩
    · rw [show (Buffer.ofText t).crlf = false from hcrlf] at hs
      exact eq_false_of_ne_true (mt Text.includes_iff.1 hs.no_return_before_feed)
    · have hf := head_feedless hs.wellFormed hc
      have hstyle : s.style = style := style_run refuses ⟨.ofText t, m, style, n⟩ events
      have hlines := Stub.feedless_lines s.style hf
      refine ⟨?_, fun l hl => ⟨hlines l hl, dropReturn_eq_self_iff.1 (Stub.dropReturn_lines (hstyle ▸ hr) _ l hl)⟩⟩
      rw [Stub.render_eq, ← List.append_nil (block _), splitOn_block hlines, List.splitOn_nil]

theorem endings_stay_uniform_of_stray_returns :
    let t : Text := "long\r\rlong x;\nint main() \x7b\nx = f(\"a\r\", y\r);\n\x7d\r\r".toList
    let s := [2, 2].foldl (fun s line => (process (fun n => n == 0) s line).session) ⟨.ofText t, .empty, .standard, 0⟩
    let h : Stub.Head := ⟨"f".toList, ["string arg0".toList, "int y".toList], "long\r\rlong".toList⟩
    s.buffer.line? 1 = some (Stub.headLine h) ∧ ¬"\r\n".toList <:+: s.buffer.toText ∧
      (∃ c ∈ callsAt s.buffer 7, c.head (scopeAbove s.buffer 7) = h) ∧
      ∀ l ∈ Stub.lines s.style h, '\n' ∉ l ∧ l.getLast? ≠ some '\r' := by
  intro t s h
  obtain ⟨hending, hstubs⟩ := (endings_stay_uniform (fun n => n == 0) t .empty .standard 0 [2, 2]).2 (by decide +kernel)
  have hcall : ∃ c ∈ callsAt s.buffer 7, c.head (scopeAbove s.buffer 7) = h := by decide +kernel
  obtain ⟨c, hc, hh⟩ := hcall
  exact ⟨by decide +kernel, hending (by decide +kernel), ⟨c, hc, hh⟩, hh ▸ (hstubs 7 c hc).2⟩

/-- The indent may bring a carriage return before a line feed into a text that has none. -/
theorem indent_breaks_uniformity :
    let t : Text := "int main() \x7b\n    int x = f(1);\n\x7d\n".toList
    let s := (process .free ⟨.ofText t, .empty, ⟨"\r\r\n".toList⟩, 0⟩ 1).session
    ¬"\r\n".toList <:+: t ∧ "\r\n".toList <:+: s.buffer.toText := by
  decide +kernel

end Session

end CallStubs
