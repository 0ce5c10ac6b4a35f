import CallStubs.Proofs.Location

/-! A line that holds calls is written in one of two ways, and never starts a function. -/

namespace CallStubs

def IsAssignment (t : Text) : Prop :=
  ∃ p x d b e, t = p ++ x ++ d ++ '=' :: b ++ e ++ [';'] ∧
    (p = [] ∨ ∃ w g, p = w ++ g ∧ Text.isWordText w = true ∧ Text.isBlankText g = true ∧ g ≠ []) ∧
    Text.isWordText x = true ∧ Text.isBlankText d = true ∧ Text.isBlankText b = true ∧ e ≠ [] ∧ '\n' ∉ e

def IsStandalone (t : Text) : Prop :=
  ∃ f a, t = f ++ '(' :: a ++ [')', ';'] ∧ Text.isWordText f = true ∧ '\n' ∉ a

lemma callShape_iff {t : Text} : CallShape t ↔ IsAssignment t ∨ IsStandalone t := by
  constructor
  · intro h
    cases h with
    | assignment hp hx hd hb he hf => exact Or.inl ⟨_, _, _, _, _, rfl, hp, hx, hd, hb, he, hf⟩
    | standalone hf ha => exact Or.inr ⟨_, _, rfl, hf, ha⟩
  · rintro (⟨p, x, d, b, e, rfl, hp, hx, hd, hb, he, hf⟩ | ⟨f, a, rfl, hf, ha⟩)
    · exact .assignment hp hx hd hb he hf
    · exact .standalone hf ha

lemma IsAssignment.exists_word {t : Text} (h : IsAssignment t) :
    ∃ w r, Text.word? t = some (w, r) ∧ ∀ q, r ≠ '(' :: q := by
  obtain ⟨p, x, d, b, e, rfl, hp, hx, hd, -⟩ := h
  simp only [List.append_assoc, List.cons_append]
  rw [← List.append_assoc x]
  rcases hp with rfl | ⟨w, g, rfl, hw, hg, hgn⟩
  · refine ⟨x, _, Text.word?_equals hx hd _, fun q hq => ?_⟩
    have hskip := Text.skipBlanks_equals hd (b ++ (e ++ [';']))
    rw [hq, Text.skipBlanks_of_unblank ((Text.unblank_cons _ _).2 (by decide))] at hskip
    simp at hskip
  · rw [List.append_assoc]
    refine ⟨w, _, Text.word?_append hw (Text.unword_append_blank hg hgn _), fun q hq => ?_⟩
    obtain ⟨c, g, rfl⟩ := List.exists_cons_of_ne_nil hgn
    obtain ⟨rfl, -⟩ := List.cons.inj hq
    exact absurd (Text.isBlankText_iff.1 hg '(' List.mem_cons_self) (by decide)

lemma IsAssignment.not_standalone {t : Text} (h : IsAssignment t) : ¬IsStandalone t := by
  rintro ⟨f, a, rfl, hf, -⟩
  obtain ⟨w, r, hword, hr⟩ := h.exists_word
  rw [List.append_assoc, List.cons_append, Text.word?_append hf ((Text.unword_cons _ _).2 (by decide))] at hword
  exact hr _ (congrArg Prod.snd (Option.some.inj hword)).symm

lemma isAssignment_of_ofText? {t : Text} {a : Assignment} (h : Assignment.ofText? t = some a) : IsAssignment t := by
  obtain ⟨p, d, b, rfl, hp, hx, hd, hb, hn, hf⟩ := assignment_cases h
  refine ⟨p, a.target, d, b, a.expression, rfl, ?_, hx, hd, hb, hn, hf⟩
  rcases hp with ⟨hp, -⟩ | ⟨w, g, hp, -, hg⟩
  · exact Or.inl hp
  · exact Or.inr ⟨w, g, hp, hg⟩

lemma isStandalone_iff {t : Text} : IsStandalone t ↔ (standalone? t).isSome = true := by
  constructor
  · rintro ⟨f, a, ht, hf, ha⟩
    rw [standalone?_eq_some_iff.2 ⟨ht, hf, ha⟩]
    rfl
  · intro h
    obtain ⟨⟨f, a⟩, hfa⟩ := Option.isSome_iff_exists.1 h
    exact ⟨f, a, standalone?_eq_some_iff.1 hfa⟩

lemma Placement.insertionPoint_of_not_start {b : Buffer} {i : Nat} (h : startsFunction b i = false) :
    insertionPoint b i < i ∨ insertionPoint b i = 0 := by
  obtain ⟨hstart, -⟩ := nearestStart_spec b (min i (b.lineCount - 1))
  change (startsFunction b (insertionPoint b i) = true ∨ insertionPoint b i = 0) at hstart
  refine hstart.imp_left fun hs => lt_of_le_of_ne (insertionPoint_le b i) fun he => ?_
  rw [he, h] at hs
  exact Bool.false_ne_true hs

namespace Call

variable {typeOf : Text → Option Text} {t : Text}

lemma returnType_of_mem_extract {c : Call} (h : c ∈ extract typeOf t) :
    (∃ a, Assignment.ofText? t = some a ∧ c.returnType = a.declared.getD ((typeOf a.target).getD defaultType)) ∨
      IsStandalone t ∧ c.returnType = void := by
  rcases mem_extract h with ⟨a, ha, -, -, rfl⟩ | ⟨f, x, hs, rfl⟩
  · exact Or.inl ⟨a, ha, rfl⟩
  · exact Or.inr ⟨isStandalone_iff.2 (by rw [hs]; rfl), rfl⟩

lemma returnType_unique {c d : Call} (hc : c ∈ extract typeOf t) (hd : d ∈ extract typeOf t) :
    c.returnType = d.returnType := by
  rcases returnType_of_mem_extract hc with ⟨a, ha, hcr⟩ | ⟨hs, hcr⟩
  · rcases returnType_of_mem_extract hd with ⟨a', ha', hdr⟩ | ⟨hs, -⟩
    · obtain rfl := Option.some.inj (ha.symm.trans ha')
      exact hcr.trans hdr.symm
    · exact absurd hs (isAssignment_of_ofText? ha).not_standalone
  · rcases returnType_of_mem_extract hd with ⟨a, ha, -⟩ | ⟨-, hdr⟩
    · exact absurd hs (isAssignment_of_ofText? ha).not_standalone
    · exact hcr.trans hdr.symm

/-- No line has both shapes of a line with calls, so all calls of a line return one type. A line with calls is no head
of a function, not even the start of one, and stubs for its calls go above it, unless it is the first line. -/
theorem extract_apart_from_heads (typeOf : Text → Option Text) (t : Text) :
    ¬(IsAssignment t ∧ IsStandalone t) ∧
    ((Assignment.ofText? t).isSome = true → IsAssignment t) ∧ ((standalone? t).isSome = true ↔ IsStandalone t) ∧
    (∀ c ∈ extract typeOf t, ∀ d ∈ extract typeOf t, c.returnType = d.returnType) ∧
    (extract typeOf t ≠ [] → (IsAssignment t ∨ IsStandalone t) ∧
      Signature.isHead t = false ∧ Signature.opensHead t = false ∧
      ∀ b i, Buffer.trimmed b i = t → Placement.startsFunction b i = false ∧
        (Placement.insertionPoint b i < i ∨ Placement.insertionPoint b i = 0)) := by
  refine ⟨fun ⟨ha, hs⟩ => ha.not_standalone hs, fun h => ?_, isStandalone_iff.symm,
    fun c hc d hd => returnType_unique hc hd, fun hne => ?_⟩
  · obtain ⟨a, ha⟩ := Option.isSome_iff_exists.1 h
    exact isAssignment_of_ofText? ha
  · obtain ⟨c, hc⟩ := List.exists_mem_of_ne_nil _ hne
    have hshape := shape_of_mem_extract hc
    obtain ⟨hhead, hopen⟩ := hshape.not_head
    refine ⟨callShape_iff.1 hshape, hhead, hopen, fun b i hi => ?_⟩
    have hstart : Placement.startsFunction b i = false := by
      rw [Placement.startsFunction, hi, hhead, hopen]
      rfl
    exact ⟨hstart, Placement.insertionPoint_of_not_start hstart⟩

theorem extract_apart_from_heads_below_main :
    let t := "r = f(g(1));".toList
    let b : Buffer := ⟨["int main()".toList, "\x7b".toList, "  r = f(g(1));".toList], false⟩
    extract (fun _ => none) t =
        [⟨"f".toList, ["g(1)".toList], "int".toList⟩, ⟨"g".toList, ["1".toList], "int".toList⟩] ∧
      (∀ c ∈ extract (fun _ => none) t, ∀ d ∈ extract (fun _ => none) t, c.returnType = d.returnType) ∧
      IsAssignment t ∧ ¬IsStandalone t ∧ Signature.isHead t = false ∧ Signature.opensHead t = false ∧
      (Placement.insertionPoint b 2 < 2 ∨ Placement.insertionPoint b 2 = 0) := by
  intro t b
  obtain ⟨hboth, hassign, -, hunique, hcalls⟩ := extract_apart_from_heads (fun _ => none) t
  have ha : IsAssignment t := hassign (by decide +kernel)
  obtain ⟨-, hhead, hopen, hplace⟩ := hcalls (by decide +kernel)
  exact ⟨by decide +kernel, hunique, ha, fun hs => hboth ⟨ha, hs⟩, hhead, hopen, (hplace b 2 (by decide +kernel)).2⟩

end Call

end CallStubs
