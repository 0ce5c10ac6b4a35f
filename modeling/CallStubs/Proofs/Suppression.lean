import CallStubs.Proofs.Callees

/-! Which functions of a line are acted on, by what is remembered of the calls before. -/

namespace CallStubs

namespace Memory

variable {m : Memory} {line : Nat}

lemma skips_of_far (h : ¬m.Near line) (f : Text) : m.skips f line = false := by
  rw [skips]
  split
  · rfl
  · rename_i last hlast
    have hfar : ¬(last ≤ line + 1 ∧ line ≤ last + 1) := fun hn => h ⟨last, hlast, hn⟩
    have hne : last ≠ line := by omega
    have hnear : isNear last line = false := by
      rw [isNear, ← Bool.not_eq_true, Bool.and_eq_true, decide_eq_true_eq, decide_eq_true_eq]
      exact hfar
    simp [hne, hnear]

end Memory

namespace Session

lemma recalls_process {s : Session} (h : s.memory.Recalls) (refuses : Gate) (line : Nat) :
    (process refuses s line).session.memory.Recalls := by
  refine process_induction refuses s line (motive := fun p => p.session.memory.Recalls) h fun p c hp => ?_
  rcases step_memory refuses (scopeAbove s.buffer line) line p c with ⟨-, -, hm⟩ | ⟨a, -, -, -, hm⟩
  · rwa [hm]
  · rw [hm]
    exact Memory.recalls_record _ _ _

section Line

variable {scope : Scope} {line : Nat} {p : Progress} {cs : List Call}

lemma name_turns_of_guards (hb : p.session.buffer.WellFormed) (hg : p.session.memory.Guards line)
    (hf : ∀ c ∈ cs, (c.head scope).Feedless) : ((turns .free scope line p cs).map Turn.call).map Call.name =
      (cs.map Call.name).eraseDups.filter (· ∉ p.session.memory.processed) := by
  rw [(Covered.foldl hb hg hf).calls, ← Call.map_name_firsts, List.filter_map]
  rfl

lemma name_turns_of_far (hb : p.session.buffer.WellFormed) (hm : ¬p.session.memory.Near line) {c : Call}
    (hf : ∀ d ∈ c :: cs, (d.head scope).Feedless) :
    ((turns .free scope line p (c :: cs)).map Turn.call).map Call.name = c.name ::
      (cs.map Call.name).eraseDups.filter fun g => g ≠ c.name ∧ g ∉ p.session.memory.processed := by
  rw [List.forall_mem_cons] at hf
  obtain ⟨-, hmemory, -, -, hactions⟩ := step_of_free hb hf.1 (Memory.skips_of_far hm c.name) (rfl : Gate.free _ = false)
  have hguards : (step .free scope line p c).session.memory.Guards line := by
    rw [hmemory]
    exact Memory.skips_record _ _ _
  have hnew : ∀ g, g ∉ (step .free scope line p c).session.memory.processed ↔
      g ≠ c.name ∧ g ∉ p.session.memory.processed := by
    intro g
    rw [hmemory, Memory.mem_processed_record, not_or]
  rw [turns_cons_of_taken hactions, List.map_cons, List.map_cons,
    name_turns_of_guards (wellFormed_step .free line hb hf.1) hguards hf.2]
  simp only [hnew]

lemma foldl_of_skipped (refuses : Gate) (h : ∀ c ∈ cs, p.session.memory.skips c.name line = true) :
    cs.foldl (step refuses scope line) p = p := by
  induction cs with
  | nil => rfl
  | cons c cs ih =>
    rw [List.forall_mem_cons] at h
    have hstep : step refuses scope line p c = p := by rw [step, if_pos h.1]
    rw [List.foldl_cons, hstep, ih h.2]

lemma dealt_foldl (hb : p.session.buffer.WellFormed) (hr : p.session.memory.Recalls)
    (hf : ∀ c ∈ cs, (c.head scope).Feedless) :
    let q := cs.foldl (step .free scope line) p
    p.session.memory.processed ⊆ q.session.memory.processed ∧
      ∀ c ∈ cs, c.name ∈ q.session.memory.processed := by
  induction cs generalizing p with
  | nil => exact ⟨List.Subset.refl _, by simp⟩
  | cons c cs ih =>
    rw [List.forall_mem_cons] at hf
    rw [List.foldl_cons]
    cases hs : p.session.memory.skips c.name line with
    | true =>
      have hstep : step .free scope line p c = p := by rw [step, if_pos hs]
      obtain ⟨hsub, hall⟩ := ih hb hr hf.2
      rw [hstep]
      exact ⟨hsub, List.forall_mem_cons.2 ⟨hsub (hr.mem_of_skips hs), hall⟩⟩
    | false =>
      obtain ⟨-, hmemory, -⟩ := step_of_free hb hf.1 hs (rfl : Gate.free _ = false)
      have hrecalls : (step .free scope line p c).session.memory.Recalls :=
        hmemory ▸ Memory.recalls_record _ _ _
      obtain ⟨hsub, hall⟩ := ih (wellFormed_step .free line hb hf.1) hrecalls hf.2
      rw [hmemory] at hsub
      refine ⟨fun f hold => hsub (Memory.mem_processed_record.2 (Or.inr hold)), ?_⟩
      exact List.forall_mem_cons.2 ⟨hsub (Memory.mem_processed_record.2 (Or.inl rfl)), hall⟩

end Line

lemma process_of_dealt (refuses : Gate) {s : Session} {line : Nat} (hnear : s.memory.Near line)
    (h : ∀ c ∈ callsAt s.buffer line, c.name ∈ s.memory.processed) :
    process refuses s line = ⟨s, line, [], []⟩ :=
  foldl_of_skipped refuses fun c hc => Memory.skips_of_near hnear (h c hc)

lemma lastLine_process {refuses : Gate} {s : Session} {line : Nat} (h : (process refuses s line).actions ≠ []) :
    (process refuses s line).session.memory.lastLine = some line := by
  obtain ⟨a, ha⟩ := List.exists_mem_of_ne_nil _ h
  exact ((distinct_process refuses s line).recorded a ha).1

end Session

lemma Chronicle.recalls_run (refuses : Gate) {r : Chronicle} (h : r.session.memory.Recalls) {events : List Event}
    (he : .forgotten ∉ events) : (events.foldl (step refuses) r).session.memory.Recalls := by
  induction events generalizing r with
  | nil => exact h
  | cons e events ih =>
    rw [List.mem_cons, not_or] at he
    refine ih ?_ he.2
    cases e with
    | changed line => exact Session.recalls_process h refuses line
    | retyped b => exact h
    | forgotten => exact absurd rfl he.1

namespace Session

/-- Near the last call the functions that were dealt with are left alone and the others are acted on, each once. Farther
off the first call of the line is acted on in any case, and what holds for the others is the same. So no call is acted
on that comes right after, on the same line or next to it, and only has functions that were dealt with. This needs the
last function to be among those, and it is as long as none is forgotten. -/
theorem acts_on_new_functions {s : Session} (hb : s.buffer.WellFormed) (hr : s.memory.Recalls) (line : Nat) :
    let names := (callsAt s.buffer line).map Call.name
    let done := process .free s line
    let acted := done.actions.map Action.function
    let next := fun b : Buffer => { done.session with buffer := b }
    (s.memory.Near line → acted = names.eraseDups.filter (· ∉ s.memory.processed)) ∧
    (¬s.memory.Near line → ∀ f fs, names = f :: fs →
      acted = f :: fs.eraseDups.filter fun g => g ≠ f ∧ g ∉ s.memory.processed) ∧
    (done.actions ≠ [] → ∀ b line', line ≤ line' + 1 → line' ≤ line + 1 →
      (∀ c ∈ callsAt b line', c.name ∈ done.session.memory.processed) →
        (process .free (next b) line').actions = [] ∧ (process .free (next b) line').session = next b) ∧
    ∀ refuses style b (events : List Chronicle.Event), .forgotten ∉ events →
      (events.foldl (Chronicle.step refuses) ⟨start style b, []⟩).session.memory.Recalls := by
  intro names done acted next
  have hfeedless : ∀ c ∈ callsAt s.buffer line, (c.head (scopeAbove s.buffer line)).Feedless :=
    fun c hc => head_feedless hb hc
  have hacted : acted = ((turnsAt .free s line).map Turn.call).map Call.name := functions_process .free s line
  refine ⟨fun hnear => ?_, fun hfar f fs hnames => ?_, fun hne b line' hle hge hall => ?_, ?_⟩
  · rw [hacted]
    exact name_turns_of_guards hb (hr.skips_iff hnear) hfeedless
  · obtain ⟨c, cs, hcalls, rfl, rfl⟩ := List.map_eq_cons_iff.1 hnames
    rw [hcalls] at hfeedless
    rw [hacted, turnsAt, hcalls]
    exact name_turns_of_far hb hfar hfeedless
  · have hnear : (next b).memory.Near line' := ⟨line, lastLine_process hne, hle, hge⟩
    rw [process_of_dealt .free hnear hall]
    exact ⟨rfl, rfl⟩
  · intro refuses style b events he
    exact Chronicle.recalls_run refuses (by simp [Memory.Recalls, start, Memory.empty]) he

theorem acts_on_new_functions_of_five_calls :
    let b := Buffer.ofText "x = g(1) + f(2) + g(3) + h(4) + k();\n".toList
    let s := fun last : Nat => (⟨b, ⟨some last, some "g".toList, ["g".toList, "h".toList]⟩, .standard, 0⟩ : Session)
    (process .free (s 1) 0).actions.map Action.function = ["f".toList, "k".toList] ∧
    (process .free (s 2) 0).actions.map Action.function = ["g".toList, "f".toList, "k".toList] ∧
    let next : Session := { (process .free (s 2) 0).session with buffer := .ofText "\nk();".toList }
    (process .free next 1).actions = [] ∧ (process .free next 1).session = next := by
  intro b s
  have hb : b.WellFormed := Buffer.wellFormed_ofText _
  have hr : ∀ last, (s last).memory.Recalls := by
    intro last f hf
    rw [← Option.some.inj hf]
    exact List.mem_cons_self
  obtain ⟨hnear, -⟩ := acts_on_new_functions (s := s 1) hb (hr 1) 0
  obtain ⟨-, hfar, hnext, -⟩ := acts_on_new_functions (s := s 2) hb (hr 2) 0
  have hone := hnear ⟨1, rfl, le_rfl, Nat.zero_le _⟩
  have htwo := hfar (by rintro ⟨last, h, hle, -⟩; cases h; simp at hle) "g".toList
    ["f".toList, "g".toList, "h".toList, "k".toList] (by decide +kernel)
  refine ⟨hone.trans (by decide +kernel), htwo.trans (by decide +kernel), ?_⟩
  exact hnext (by decide +kernel) _ 1 (by decide) (by decide) (by decide +kernel)

end Session

end CallStubs
