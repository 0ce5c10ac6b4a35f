import CallStubs.Proofs.Remembering

/-! Whether a function that has a definition gets another one. -/

namespace CallStubs

namespace Placement

/-- Lines in which the definitions of the given functions are whole: each has a line that closes it before
the next one starts and before the lines end. -/
inductive Whole (names : List Text) : List Text → Prop
  | nil : Whole names []
  | plain {l : Text} {ls : List Text} :
      (∀ f ∈ names, Signature.defines f l = false) → Whole names ls → Whole names (l :: ls)
  | definition {head close : Text} {inside ls : List Text} :
      (∀ l ∈ inside, closesBody l = false ∧ ∀ f ∈ names, Signature.defines f l = false) →
      closesBody close = true → Whole names ls → Whole names (head :: (inside ++ close :: ls))

namespace Whole

variable {names ls : List Text}

lemma append {R : List Text} (h : Whole names ls) (hR : Whole names R) : Whole names (ls ++ R) := by
  induction h with
  | nil => exact hR
  | plain hl _ ih => exact plain hl ih
  | definition hi hc _ ih =>
    rw [List.cons_append, List.append_assoc]
    exact definition hi hc ih

lemma map_dropReturn (h : Whole names ls) : Whole names (ls.map dropReturn) := by
  induction h with
  | nil => exact nil
  | plain hl _ ih => exact plain (by simpa using hl) ih
  | definition hi hc _ ih =>
    rw [List.map_cons, List.map_append, List.map_cons]
    exact definition (by simpa using hi) (by simpa using hc) ih

lemma stub (names : List Text) {style : Stub.Style} (hi : Text.isBlankText style.indent = true) (h : Stub.Head) :
    Whole names (Stub.lines style h) := by
  rw [Stub.lines_eq]
  refine definition (fun l hl => ?_) (by decide) (plain (fun f _ => defines_nil f) nil)
  exact ⟨(Stub.innerLines_spec hi hl).2, fun f _ => (Stub.innerLines_spec hi hl).1 f⟩

lemma of_plain {A : List Text} (hA : ∀ l ∈ A, ∀ f ∈ names, Signature.defines f l = false) (h : Whole names ls) :
    Whole names (A ++ ls) := by
  induction A with
  | nil => exact h
  | cons l A ih =>
    rw [List.forall_mem_cons] at hA
    exact plain hA.1 (ih hA.2)

lemma tail {l : Text} (h : Whole names (l :: ls)) : Whole names ls := by
  cases h with
  | plain _ h => exact h
  | definition hi hc h =>
    exact of_plain (fun k hk => (hi k hk).2) (plain (fun f _ => defines_of_closesBody hc f) h)

lemma exists_definition {f : Text} (hf : f ∈ names) (h : Whole names ls)
    (hd : ∃ z ∈ ls, Signature.defines f z = true) :
    ∃ D : Definition f, D.lines = ls ∧ (∀ l ∈ D.above, Signature.defines f l = false) ∧
      (∀ l ∈ D.inside, ∀ g ∈ names, Signature.defines g l = false) ∧
      Whole names D.above ∧ Whole names D.below := by
  induction h with
  | nil => simp at hd
  | @plain l ls hl _ ih =>
    obtain ⟨z, hz, hd⟩ := hd
    rcases List.mem_cons.1 hz with rfl | hz
    · simp [hl f hf] at hd
    · obtain ⟨D, rfl, hA, hI, hU, hR⟩ := ih ⟨z, hz, hd⟩
      refine ⟨⟨l :: D.above, D.head, D.inside, D.close, D.below, D.defines, D.inside_open, D.closes⟩, rfl, ?_, hI,
        plain hl hU, hR⟩
      exact List.forall_mem_cons.2 ⟨hl f hf, hA⟩
  | @definition l c inside ls hi hc hls ih =>
    by_cases hl : Signature.defines f l = true
    · exact ⟨⟨[], l, inside, c, ls, hl, fun k hk => (hi k hk).1, hc⟩, rfl, by simp, fun k hk => (hi k hk).2, nil, hls⟩
    · have hrest : ∃ z ∈ ls, Signature.defines f z = true := by
        obtain ⟨z, hz, hd⟩ := hd
        simp only [List.mem_cons, List.mem_append] at hz
        rcases hz with rfl | hz | rfl | hz
        · exact absurd hd hl
        · simp [(hi z hz).2 f hf] at hd
        · simp [defines_of_closesBody hc f] at hd
        · exact ⟨z, hz, hd⟩
      obtain ⟨D, rfl, hA, hI, hU, hR⟩ := ih hrest
      refine ⟨⟨l :: (inside ++ c :: D.above), D.head, D.inside, D.close, D.below, D.defines, D.inside_open, D.closes⟩,
        by simp [Definition.lines], ?_, hI, definition hi hc hU, hR⟩
      intro k hk
      simp only [List.mem_cons, List.mem_append] at hk
      rcases hk with rfl | hk | rfl | hk
      · simpa using hl
      · exact (hi k hk).2 f hf
      · exact defines_of_closesBody hc f
      · exact hA k hk

end Whole

lemma defines_of_blank {l : Text} (h : Text.trim l = []) (name : Text) : Signature.defines name l = false := by
  rw [← Bool.not_eq_true, Signature.defines_iff]
  intro hd
  have hm := Text.mem_trim_of_mem hd.paren_mem (by decide)
  simp [h] at hm

namespace Definition

variable {f : Text} (D : Definition f)

lemma defines_other (hf : Text.isWordText f = true) {g : Text} (hg : Text.isWordText g = true) (hne : g ≠ f)
    (hI : ∀ l ∈ D.inside, Signature.defines g l = false) :
    ∀ z ∈ D.head :: (D.inside ++ [D.close]), Signature.defines g z = false := by
  intro z hz
  simp only [List.mem_cons, List.mem_append, List.not_mem_nil, or_false] at hz
  rcases hz with rfl | hz | rfl
  · rw [← Bool.not_eq_true, Signature.defines_iff]
    exact fun hc => hne (hc.unique hg hf (Signature.defines_iff.1 D.defines))
  · exact hI z hz
  · exact defines_of_closesBody D.closes g

lemma trimmed_stop {b : Buffer} {R : List Text} (hb : b.lines = D.lines ++ R) :
    b.trimmed D.range.stop = (((D.below ++ R)[0]?).map Text.trim).getD [] := by
  have hstop : D.range.stop = (D.above ++ D.head :: (D.inside ++ [D.close])).length + 0 := by
    simp [range]
    omega
  have hlines : b.lines = (D.above ++ D.head :: (D.inside ++ [D.close])) ++ (D.below ++ R) := by
    simp [hb, lines]
  rw [Buffer.trimmed, Buffer.line?, hstop, hlines, List.getElem?_append_right (by omega), Nat.add_sub_cancel_left]

end Definition

lemma Whole.exists_cut {names U R : List Text} {f : Text} (hf : f ∈ names)
    (hword : ∀ g ∈ names, Text.isWordText g = true) (h : Whole names U)
    (hd : ∃ z ∈ U, Signature.defines f z = true) {b : Buffer} (hb : b.lines = U ++ R)
    (hs : startsFunction ⟨R, b.crlf⟩ 0 = true) :
    ∃ X M Y, U = X ++ M ++ Y ∧ Whole names X ∧ Whole names Y ∧
      (∀ g ∈ names, g ≠ f → ∀ z ∈ M, Signature.defines g z = false) ∧
      (existingStub? b U.length f).map (withSeparator b) = some ⟨X.length, X.length + M.length⟩ := by
  obtain ⟨D, rfl, hA, hI, hX, hY⟩ := h.exists_definition hf hd
  let E : Definition f := ⟨D.above, D.head, D.inside, D.close, D.below ++ R, D.defines, D.inside_open, D.closes⟩
  have hE : E.lines = b.lines := by simp [E, hb, Definition.lines]
  have hfound : existingStub? b D.lines.length f = some D.range :=
    existingStub?_eq_some_iff.2 ⟨E, hE, by simp [E, Definition.lines], hA, rfl⟩
  have hM : ∀ g ∈ names, g ≠ f → ∀ z ∈ D.head :: (D.inside ++ [D.close]), Signature.defines g z = false :=
    fun g hg hne => D.defines_other (hword f hf) (hword g hg) hne fun l hl => hI l hl g hg
  rw [hfound, Option.map_some]
  by_cases hsep : D.range.stop < b.lineCount ∧ b.trimmed D.range.stop = []
  · have hline := D.trimmed_stop hb
    rw [withSeparator, if_pos hsep]
    cases hB : D.below with
    | nil =>
      -- The blank line would be the one on which the function starts.
      rw [hB, List.nil_append] at hline
      rw [startsFunction, Buffer.trimmed, Buffer.line?, ← hline, hsep.2] at hs
      have hnone : Signature.isHead [] = false ∧ Signature.opensHead [] = false := by decide
      simp [hnone] at hs
    | cons w B =>
      have hw : Text.trim w = [] := by simpa [hB, hsep.2] using hline.symm
      refine ⟨D.above, D.head :: (D.inside ++ [D.close]) ++ [w], B, by simp [Definition.lines, hB], hX, ?_, ?_, ?_⟩
      · rw [hB] at hY
        exact hY.tail
      · intro g hg hne z hz
        rcases List.mem_append.1 hz with hz | hz
        · exact hM g hg hne z hz
        · rw [List.mem_singleton.1 hz]
          exact defines_of_blank hw g
      · simp [Definition.range]
        omega
  · rw [withSeparator, if_neg hsep]
    refine ⟨D.above, D.head :: (D.inside ++ [D.close]), D.below, by simp [Definition.lines], hX, hY, hM, ?_⟩
    simp [Definition.range]
    omega

end Placement

namespace Session

/-- The lines around the place for stubs, between `above` and `below`. The line with the calls is `d` lines below
it, and no function starts in between. Either one starts at the place, and the definitions above it are whole;
or no line above defines a function that is still to be dealt with. -/
structure Site (names : List Text) (due : Text → Prop) (d : Nat) (above below : List Text) : Prop where
  lt : d < below.length
  quiet : ∀ j, 0 < j → j ≤ d → Placement.startsFunction ⟨below, false⟩ j = false
  place : Placement.startsFunction ⟨below, false⟩ 0 = true ∧ Placement.Whole names above ∨
    ∀ f, due f → ∀ z ∈ above, Signature.defines f z = false

namespace Site

variable {names : List Text} {due : Text → Prop} {d : Nat} {U R : List Text}

lemma exists_cut (h : Site names due d U R) (hword : ∀ g ∈ names, Text.isWordText g = true) {f : Text}
    (hf : f ∈ names) (hdue : due f) {b : Buffer} (hb : b.lines = U ++ R) :
    ∃ X M Y, U = X ++ M ++ Y ∧ (∀ g ∈ names, g ≠ f → ∀ z ∈ M, Signature.defines g z = false) ∧
      (Placement.startsFunction ⟨R, false⟩ 0 = true ∧ Placement.Whole names U →
        Placement.Whole names X ∧ Placement.Whole names Y) ∧
      (Action.plan b (U.length + d) f).range = ⟨X.length, X.length + M.length⟩ ∧
      ((∃ i, Action.plan b (U.length + d) f = .inserted f i) ↔ ∀ z ∈ U, Signature.defines f z = false) := by
  by_cases hd : ∀ z ∈ U, Signature.defines f z = false
  · have hle := Placement.insertionPoint_le_of_quiet hb h.lt h.quiet
    have hplan := @Action.plan_of_none b (U.length + d) f
    have hstart := Placement.insertionPoint_of_start hb h.lt h.quiet
    generalize Placement.insertionPoint b (U.length + d) = i at hle hplan hstart
    have hlen : (U.take i).length = i := List.length_take_of_le hle
    have hnone := Placement.existingStub?_eq_none_of_append (b := b) (A := U.take i) (R := U.drop i ++ R)
      (by rw [← List.append_assoc, List.take_append_drop, hb]) fun z hz => hd z (List.mem_of_mem_take hz)
    rw [hlen] at hnone
    refine ⟨U.take i, [], U.drop i, by simp, by simp, fun hw => ?_, ?_⟩
    · rw [hstart hw.1, List.take_length, List.drop_length]
      exact ⟨hw.2, .nil⟩
    · rw [hplan hnone]
      exact ⟨by rw [Action.range, hlen, List.length_nil, Nat.add_zero], fun _ => hd, fun _ => ⟨i, rfl⟩⟩
  · obtain ⟨hs, hw⟩ := h.place.resolve_right fun hno => hd (hno f hdue)
    simp only [not_forall, Bool.not_eq_false] at hd
    obtain ⟨z, hz, hz'⟩ := hd
    obtain ⟨X, M, Y, hU, hX, hY, hM, hfound⟩ := hw.exists_cut hf hword ⟨z, hz, hz'⟩ hb hs
    refine ⟨X, M, Y, hU, hM, fun _ => ⟨hX, hY⟩, ?_⟩
    obtain ⟨r, hr, hsep⟩ := Option.map_eq_some_iff.1 hfound
    rw [← Placement.insertionPoint_of_start hb h.lt h.quiet hs] at hr
    have hplan : Action.plan b (U.length + d) f = .replaced f ⟨X.length, X.length + M.length⟩ := by
      rw [Action.plan, hr, ← hsep]
    rw [hplan]
    exact ⟨rfl, by simp, fun hno => by simp [hno z hz] at hz'⟩

lemma rewrite {X M Y ls : List Text} {due' : Text → Prop} (h : Site names due d (X ++ M ++ Y) R)
    (hwhole : Placement.startsFunction ⟨R, false⟩ 0 = true ∧ Placement.Whole names (X ++ M ++ Y) →
      Placement.Whole names X ∧ Placement.Whole names Y)
    (hls : Placement.Whole names ls) (hdue : ∀ f, due' f → due f ∧
      ((∀ z ∈ X ++ M ++ Y, Signature.defines f z = false) →
        ∀ z ∈ (X ++ ls ++ Y).map dropReturn, Signature.defines f z = false)) :
    Site names due' d ((X ++ ls ++ Y).map dropReturn) (R.map dropReturn) := by
  have hstarts := fun j => Placement.startsFunction_dropReturn R false false j
  refine ⟨?_, fun j hj hjd => ?_, ?_⟩
  · rw [List.length_map]
    exact h.lt
  · rw [hstarts]
    exact h.quiet j hj hjd
  · rcases h.place with hw | hno
    · rw [hstarts]
      obtain ⟨hX, hY⟩ := hwhole hw
      exact Or.inl ⟨hw.1, ((hX.append hls).append hY).map_dropReturn⟩
    · exact Or.inr fun f hf => (hdue f hf).2 (hno f (hdue f hf).1)

end Site

structure Course (names : List Text) (undefined : Text → Prop) (line d : Nat) (done U R : List Text)
    (p : Progress) : Prop where
  wellFormed : p.session.buffer.WellFormed
  blank : Text.isBlankText p.session.style.indent = true
  lines : p.session.buffer.lines = U ++ R
  current : p.current = U.length + d
  site : Site names (fun f => f ∈ names ∧ f ∉ done) d U R
  known : ∀ f ∈ names, f ∉ done → ((∀ z ∈ U, Signature.defines f z = false) ↔ undefined f)
  recorded : ∀ f ∈ done, p.session.memory.lastLine = some line ∧ f ∈ p.session.memory.processed

namespace Course

variable {names : List Text} {undefined : Text → Prop} {line d : Nat} {done U R : List Text} {p : Progress}

lemma not_done (h : Course names undefined line d done U R p) {f : Text}
    (hs : p.session.memory.skips f line = false) : f ∉ done := by
  intro hf
  obtain ⟨hl, hp⟩ := h.recorded f hf
  rw [Memory.skips_of_near (Memory.near_of_lastLine hl) hp] at hs
  simp at hs

lemma taken (h : Course names undefined line d done U R p) (hword : ∀ g ∈ names, Text.isWordText g = true)
    {scope : Scope} {c : Call} (hc : c.name ∈ names) (hn : c.name ∉ done) (hf : (c.head scope).Feedless)
    (hT : TypeName.Spelling c.returnType) {q : Progress}
    (hb : q.session.buffer = (Action.plan p.session.buffer p.current c.name).result p.session.buffer
      (Stub.lines p.session.style (c.head scope)))
    (hm : q.session.memory = p.session.memory.record c.name line) (hs : q.session.style = p.session.style)
    (hq : q.current = (Action.plan p.session.buffer p.current c.name).shift
      (Stub.lines p.session.style (c.head scope)).length p.current) :
    ((∃ i, Action.plan p.session.buffer p.current c.name = .inserted c.name i) ↔ undefined c.name) ∧
      ∃ U' R', Course names undefined line d (c.name :: done) U' R' q := by
  generalize hls : Stub.lines p.session.style (c.head scope) = ls at hb hq
  obtain ⟨X, M, Y, rfl, hM, hwhole, hrange, hins⟩ := h.site.exists_cut hword hc ⟨hc, hn⟩ h.lines
  rw [← h.current] at hrange hins
  -- The stub and the lines that it replaces say nothing about the other functions.
  have hsame : ∀ f ∈ names, f ∉ c.name :: done → ((∀ z ∈ (X ++ ls ++ Y).map dropReturn,
      Signature.defines f z = false) ↔ ∀ z ∈ X ++ M ++ Y, Signature.defines f z = false) := by
    intro f hf' hfn
    have hne : f ≠ c.name := fun he => hfn (he ▸ List.mem_cons_self)
    have hstub := Stub.defines_lines h.blank hf hT (hword _ hc) (hword f hf') hne.symm
    rw [hls] at hstub
    simp only [List.forall_mem_map, Signature.defines_dropReturn, List.forall_mem_append]
    have hMf := hM f hf' hne
    tauto
  have hlines : p.session.buffer.lines = X ++ M ++ (Y ++ R) := by simp [h.lines]
  have hne : Y ++ R ≠ [] := by
    have := List.ne_nil_of_length_pos (Nat.zero_lt_of_lt h.site.lt)
    simp [this]
  have hdone : ∀ f, f ∉ c.name :: done → f ∉ done := fun f hfn hc => hfn (List.mem_cons_of_mem _ hc)
  refine ⟨hins.trans (h.known _ hc hn), (X ++ ls ++ Y).map dropReturn, R.map dropReturn, ?_, ?_, ?_, ?_, ?_, ?_, ?_⟩
  · rw [hb]
    exact Action.wellFormed_result h.wellFormed _ _ (hls ▸ Stub.feedless_lines _ hf)
  · rw [hs]
    exact h.blank
  · rw [hb, Action.result, hrange, Buffer.withBlock_of_append hlines hne]
    simp
  · have hcur : p.current = X.length + M.length + (Y.length + d) := by
      rw [h.current, List.length_append, List.length_append, Nat.add_assoc]
    have hspares : (Action.plan p.session.buffer p.current c.name).Spares p.current := by
      rw [Action.Spares, hrange, hcur]
      exact Nat.le_add_right _ _
    rw [hq, hspares.shift_eq (Action.plan_range_le _ _ _), hrange]
    simp only [List.length_map, List.length_append]
    omega
  · exact h.site.rewrite hwhole (hls ▸ Placement.Whole.stub names h.blank _) fun f hf' =>
      ⟨⟨hf'.1, hdone f hf'.2⟩, (hsame f hf'.1 hf'.2).2⟩
  · intro f hf' hfn
    rw [hsame f hf' hfn]
    exact h.known f hf' (hdone f hfn)
  · intro f hf'
    rw [hm]
    refine ⟨rfl, ?_⟩
    rcases List.mem_cons.1 hf' with rfl | hf'
    · exact Memory.mem_processed_record.2 (Or.inl rfl)
    · exact Memory.mem_processed_record.2 (Or.inr (h.recorded f hf').2)

lemma turns_inserted_iff (refuses : Gate) {scope : Scope} (hword : ∀ g ∈ names, Text.isWordText g = true)
    {cs : List Call} (hcs : ∀ c ∈ cs, c.name ∈ names ∧ (c.head scope).Feedless ∧ TypeName.Spelling c.returnType)
    (h : Course names undefined line d done U R p) :
    ∀ u ∈ turns refuses scope line p cs,
      (∃ i, u.action = .inserted u.call.name i) ↔ undefined u.call.name := by
  induction cs generalizing p done U R with
  | nil => simp [turns]
  | cons c cs ih =>
    rw [List.forall_mem_cons] at hcs
    obtain ⟨⟨hc, hf, hT⟩, hcs⟩ := hcs
    rcases step_cases refuses line h.wellFormed hf with ⟨hb, hm, hst, hq, ha⟩ | ⟨hs, hb, hm, hst, hq, ha⟩
    · rw [turns_cons_of_idle ha]
      exact ih hcs ⟨hb ▸ h.wellFormed, hst ▸ h.blank, hb ▸ h.lines, hq.trans h.current, h.site, h.known, hm ▸ h.recorded⟩
    · obtain ⟨hins, U', R', hnext⟩ := h.taken hword hc (h.not_done hs) hf hT hb hm hst hq
      rw [turns_cons_of_taken ha, List.forall_mem_cons]
      exact ⟨hins, ih hcs hnext⟩

end Course

lemma Turn.inserted_iff (u : Turn) : (∃ i, u.action = .inserted u.call.name i) ↔
    ∀ D : Placement.Definition u.call.name, D.lines = u.buffer.lines →
      Placement.insertionPoint u.buffer u.line ≤ D.above.length := by
  rw [← Placement.existingStub?_eq_none_iff, action, Action.plan]
  cases Placement.existingStub? u.buffer (Placement.insertionPoint u.buffer u.line) u.call.name <;> simp

lemma exists_inserted_iff (refuses : Gate) (s : Session) (line : Nat) (f : Text) :
    (∃ i, .inserted f i ∈ (process refuses s line).actions) ↔
      ∃ u ∈ turnsAt refuses s line, u.call.name = f ∧ ∃ i, u.action = .inserted u.call.name i := by
  rw [actions_process]
  constructor
  · rintro ⟨i, hi⟩
    obtain ⟨u, hu, ha⟩ := List.mem_map.1 hi
    have hname : u.call.name = f := by
      have hfun := congrArg Action.function ha
      rwa [Turn.action, Action.function_plan] at hfun
    exact ⟨u, hu, hname, i, hname ▸ ha⟩
  · rintro ⟨u, hu, rfl, i, hi⟩
    exact ⟨i, List.mem_map.2 ⟨u, hu, hi⟩⟩

lemma buffer_of_head? (refuses : Gate) {scope : Scope} (line : Nat) {cs : List Call}
    (hf : ∀ c ∈ cs, (c.head scope).Feedless) {p : Progress} (hb : p.session.buffer.WellFormed) {u : Turn}
    (hu : (turns refuses scope line p cs).head? = some u) :
    u.buffer = p.session.buffer ∧ u.line = p.current := by
  induction cs generalizing p with
  | nil => simp [turns] at hu
  | cons c cs ih =>
    rw [List.forall_mem_cons] at hf
    rcases step_cases refuses line hb hf.1 with ⟨hq, -, -, hc, ha⟩ | ⟨-, -, -, -, -, ha⟩
    · rw [turns_cons_of_idle ha] at hu
      rw [← hq, ← hc]
      exact ih hf.2 (hq ▸ hb) hu
    · rw [turns_cons_of_taken ha, List.head?_cons, Option.some.injEq] at hu
      exact hu ▸ ⟨rfl, rfl⟩

lemma course_start {b : Buffer} (hb : b.WellFormed) (m : Memory) {style : Stub.Style}
    (hi : Text.isBlankText style.indent = true) (n : Nat) {line : Nat} (hl : line < b.lineCount) {names : List Text}
    (hw : Placement.Whole names (b.lines.take (Placement.insertionPoint b line))) :
    Course names (fun f => ∀ z ∈ b.lines.take (Placement.insertionPoint b line), Signature.defines f z = false) line
      (line - Placement.insertionPoint b line) [] (b.lines.take (Placement.insertionPoint b line))
      (b.lines.drop (Placement.insertionPoint b line)) ⟨⟨b, m, style, n⟩, line, [], []⟩ := by
  have hle := Placement.insertionPoint_le b line
  obtain ⟨hstart, hquiet⟩ := Placement.insertionPoint_drop hl false
  generalize Placement.insertionPoint b line = i at hle hstart hquiet hw ⊢
  have hlen : (b.lines.take i).length = i := List.length_take_of_le (hle.trans hl.le)
  refine ⟨hb, hi, (List.take_append_drop i b.lines).symm, ?_, ⟨?_, hquiet, ?_⟩, fun f _ _ => Iff.rfl, by simp⟩
  · rw [hlen, Nat.add_sub_cancel' hle]
  · rw [List.length_drop]
    simp only [Buffer.lineCount] at hl
    omega
  · rcases hstart with hs | rfl
    · exact Or.inl ⟨hs, hw⟩
    · exact Or.inr (by simp)

/-- A call gets a new stub if and only if no definition of its function starts above the place for stubs when it has
its turn; the first turn sees the buffer as it was. If the definitions of the callees above that place are whole
from the start, these alone decide. -/
theorem inserted_iff_undefined (refuses : Gate) (t : Text) (m : Memory) (style : Stub.Style) (n line : Nat) :
    let s : Session := ⟨.ofText t, m, style, n⟩
    let p := process refuses s line
    let above := s.buffer.lines.take (Placement.insertionPoint s.buffer line)
    (∀ f, (∃ i, .inserted f i ∈ p.actions) ↔ ∃ u ∈ turnsAt refuses s line, u.call.name = f ∧
      ∀ D : Placement.Definition u.call.name, D.lines = u.buffer.lines →
        Placement.insertionPoint u.buffer u.line ≤ D.above.length) ∧
    (∀ u, (turnsAt refuses s line).head? = some u → u.buffer = s.buffer ∧ u.line = line) ∧
    (Text.isBlankText style.indent = true → Placement.Whole ((callsAt s.buffer line).map Call.name) above →
      ∀ f, (∃ i, .inserted f i ∈ p.actions) ↔
        (∃ u ∈ turnsAt refuses s line, u.call.name = f) ∧ ∀ z ∈ above, Signature.defines f z = false) := by
  intro s p above
  have hb : s.buffer.WellFormed := Buffer.wellFormed_ofText t
  refine ⟨fun f => ?_, fun u hu => ?_, fun hi hw f => ?_⟩
  · rw [exists_inserted_iff]
    simp only [Turn.inserted_iff]
  · exact buffer_of_head? refuses line (fun c hc => head_feedless hb hc) hb hu
  · rw [exists_inserted_iff]
    have hword : ∀ g ∈ (callsAt s.buffer line).map Call.name, Text.isWordText g = true := by
      intro g hg
      obtain ⟨c, hc, rfl⟩ := List.mem_map.1 hg
      exact Call.isWordText_name hc
    have hturns : ∀ u ∈ turnsAt refuses s line,
        (∃ i, u.action = .inserted u.call.name i) ↔ ∀ z ∈ above, Signature.defines u.call.name z = false := by
      intro u hu
      have hl := lt_of_mem_callsAt (call_of_mem_turns hu)
      refine (course_start hb m hi n hl hw).turns_inserted_iff refuses hword (fun c hc => ?_) u hu
      exact ⟨List.mem_map_of_mem hc, head_feedless hb hc, Call.spelling_returnType hc⟩
    constructor
    · rintro ⟨u, hu, rfl, hi⟩
      exact ⟨⟨u, hu, rfl⟩, (hturns u hu).1 hi⟩
    · rintro ⟨⟨u, hu, rfl⟩, hd⟩
      exact ⟨u, hu, rfl, (hturns u hu).2 hd⟩

theorem nothing_inserted_below_definitions :
    let s := start .standard (.ofText ("int g(int a) \x7b\n    return a;\n\x7d\n\n".toList ++
      "int f(int a) \x7b\n    return a;\n\x7d\n\nint main() \x7b\n    int x = f(g(1));\n\x7d\n".toList))
    Placement.Whole ["f".toList, "g".toList] (s.buffer.lines.take 8) ∧
      (¬∃ i, .inserted "f".toList i ∈ (process .free s 9).actions) ∧
      (process .free s 9).actions = [.replaced "f".toList ⟨4, 8⟩, .replaced "g".toList ⟨0, 4⟩] := by
  intro s
  have hlines : s.buffer.lines.take 8 = ["int g(int a) \x7b".toList, "    return a;".toList, "\x7d".toList, [],
      "int f(int a) \x7b".toList, "    return a;".toList, "\x7d".toList, []] := by decide +kernel
  have hinside : ∀ l ∈ ["    return a;".toList], Placement.closesBody l = false ∧
      ∀ f ∈ ["f".toList, "g".toList], Signature.defines f l = false := by decide +kernel
  have hwhole : Placement.Whole ["f".toList, "g".toList] (s.buffer.lines.take 8) := by
    rw [hlines]
    exact .definition hinside (by decide) (.plain (by decide)
      (.definition hinside (by decide) (.plain (by decide) .nil)))
  have hplace : Placement.insertionPoint s.buffer 9 = 8 := by decide +kernel
  have hnames : (callsAt s.buffer 9).map Call.name = ["f".toList, "g".toList] := by decide +kernel
  rw [← hnames, ← hplace] at hwhole
  have hiff := (inserted_iff_undefined .free _ .empty .standard 0 9).2.2 (by decide) hwhole "f".toList
  refine ⟨by rwa [hnames, hplace] at hwhole, fun hi => ?_, by decide +kernel⟩
  have hd := (hiff.1 hi).2 "int f(int a) \x7b".toList
  revert hd
  decide +kernel

/-- The head of the caller itself is not above the place for stubs, so a recursive call gets a second
definition. -/
theorem recursive_call_redefines :
    let s := start .standard (.ofText "int f(int n) \x7b\n    int x = f(n);\n\x7d\n".toList)
    (s.buffer.line? 0).any (Signature.defines "f".toList) = true ∧
      (s.buffer.line? 2).any Placement.closesBody = true ∧
      "f".toList ∈ (callsAt s.buffer 1).map Call.name ∧
      (process .free s 1).actions = [.inserted "f".toList 0] := by
  decide +kernel

end Session

end CallStubs
