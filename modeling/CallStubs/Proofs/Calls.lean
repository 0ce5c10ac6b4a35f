import CallStubs.Update
import CallStubs.Proofs.CallSites

/-! Which lines hold calls, and what a call takes over from its line. -/

namespace CallStubs

lemma eraseDups_concat (ns : List Text) (f : Text) :
    (ns ++ [f]).eraseDups = if f ∈ ns then ns.eraseDups else ns.eraseDups ++ [f] := by
  rw [List.eraseDups_append]
  split_ifs with h <;> simp [List.removeAll, h, List.eraseDups_cons]

namespace Text

lemma unblank_append_iff {t : Text} (h : t ≠ []) (u : Text) : Unblank (t ++ u) ↔ Unblank t := by
  obtain ⟨c, t, rfl⟩ := List.exists_cons_of_ne_nil h
  rw [List.cons_append, unblank_cons, unblank_cons]

lemma skipBlanks_equals {d : Text} (hd : isBlankText d = true) (r : Text) : skipBlanks (d ++ '=' :: r) = '=' :: r :=
  skipBlanks_blank_append hd ((unblank_cons _ _).2 (by decide))

lemma word?_equals {x d : Text} (hx : isWordText x = true) (hd : isBlankText d = true) (r : Text) :
    word? (x ++ d ++ '=' :: r) = some (x, d ++ '=' :: r) := by
  rw [List.append_assoc]
  exact word?_append hx (unword_blank_append hd ((unword_cons _ _).2 (by decide)))

end Text

inductive CallShape : Text → Prop
  | assignment {p x d b e : Text} :
      (p = [] ∨ ∃ w g, p = w ++ g ∧ Text.isWordText w = true ∧ Text.isBlankText g = true ∧ g ≠ []) →
      Text.isWordText x = true → Text.isBlankText d = true → Text.isBlankText b = true →
      e ≠ [] → '\n' ∉ e → CallShape (p ++ x ++ d ++ '=' :: b ++ e ++ [';'])
  | standalone {f a : Text} : Text.isWordText f = true → '\n' ∉ a → CallShape (f ++ '(' :: a ++ [')', ';'])

namespace CallShape

lemma getLast? {t : Text} (h : CallShape t) : t.getLast? = some ';' := by
  cases h with
  | assignment => exact List.getLast?_concat
  | standalone => exact List.getLast?_append_of_ne_nil _ (by simp)

lemma opening?_eq_none {t : Text} (h : CallShape t) : Signature.opening? t = none := by
  cases h with
  | @assignment p x d b e hp hx hd hb he hf =>
    simp only [List.append_assoc, List.cons_append]
    rw [← List.append_assoc x]
    generalize b ++ (e ++ [';']) = r
    rcases hp with rfl | ⟨w, g, rfl, hw, hg, hgn⟩
    · simp only [Signature.opening?, List.nil_append, Text.word?_equals hx hd, Option.bind_eq_bind, Option.bind_some]
      cases hb : Text.blanks? (d ++ '=' :: r) with
      | none => rfl
      | some q =>
        obtain ⟨hq, hqb, -, hqu⟩ := Text.blanks?_eq_some hb
        have hs := Text.skipBlanks_equals hd r
        rw [hq, Text.skipBlanks_blank_append hqb hqu] at hs
        simp only [Option.bind_some, hs]
        rw [Text.word?_eq_none (by simp; decide)]
        rfl
    · have hu : Text.Unblank (x ++ d ++ '=' :: r) := by
        rw [List.append_assoc]
        exact Text.unblank_append_word hx _
      simp only [Signature.opening?, List.append_assoc w, Text.word?_append hw (Text.unword_append_blank hg hgn _),
        Option.bind_eq_bind, Option.bind_some, Text.blanks?_append hg hgn hu, Text.word?_equals hx hd,
        Text.skipBlanks_equals hd]
      rfl
  | @standalone f a hf ha =>
    simp only [Signature.opening?, List.append_assoc, List.cons_append]
    rw [Text.word?_append hf (by simp; decide)]
    simp only [Option.bind_eq_bind, Option.bind_some]
    rw [Text.blanks?_eq_none (by simp; decide)]
    rfl

lemma not_head {t : Text} (h : CallShape t) : Signature.isHead t = false ∧ Signature.opensHead t = false :=
  ⟨Signature.isHead_eq_false h.getLast?, by simp [Signature.opensHead, h.opening?_eq_none]⟩

end CallShape

lemma assigned?_eq_some_iff {t e : Text} : assigned? t = some e ↔
    ∃ d b, t = d ++ '=' :: b ++ e ++ [';'] ∧ Text.isBlankText d = true ∧ Text.isBlankText b = true ∧
      e ≠ [] ∧ '\n' ∉ e ∧ Text.Unblank e := by
  constructor
  · intro h
    obtain ⟨d, hd, ht⟩ := Text.exists_append_skipBlanks t
    unfold assigned? at h
    split at h
    · rename_i r hr
      obtain ⟨b, hb, hrb⟩ := Text.exists_append_skipBlanks r
      split at h
      · rename_i e' he
        rw [List.isSuffixOf?_eq_some_iff_append_eq] at he
        split_ifs at h with hc
        cases h
        rw [not_or] at hc
        have hu := Text.unblank_skipBlanks r
        rw [← he, Text.unblank_append_iff hc.1] at hu
        exact ⟨d, b, by rw [ht, hr, hrb, ← he]; simp, hd, hb, hc.1, hc.2, hu⟩
      · simp at h
    · simp at h
  · rintro ⟨d, b, rfl, hd, hb, hn, hf, hu⟩
    have hrest : Text.skipBlanks (b ++ (e ++ [';'])) = e ++ [';'] :=
      Text.skipBlanks_blank_append hb ((Text.unblank_append_iff hn _).2 hu)
    have hsuffix : [';'].isSuffixOf? (e ++ [';']) = some e := List.isSuffixOf?_eq_some_iff_append_eq.2 rfl
    simp only [assigned?, List.append_assoc, List.cons_append, Text.skipBlanks_equals hd, hrest, hsuffix]
    rw [if_neg (not_or.2 ⟨hn, hf⟩)]

def Assigns (x e t : Text) : Prop :=
  ∃ d b, t = x ++ d ++ '=' :: b ++ e ++ [';'] ∧ Text.isWordText x = true ∧ Text.isBlankText d = true ∧
    Text.isBlankText b = true ∧ e ≠ [] ∧ '\n' ∉ e ∧ Text.Unblank e

namespace Assigns

variable {x e t : Text}

lemma exists_rest (h : Assigns x e t) : ∃ r, Text.word? t = some (x, r) ∧ assigned? r = some e ∧
    Text.Unblank t ∧ ∀ q, r ≠ '(' :: q := by
  obtain ⟨d, b, rfl, hx, hd, hb, he⟩ := h
  simp only [List.append_assoc, List.cons_append]
  rw [← List.append_assoc x]
  refine ⟨_, Text.word?_equals hx hd _, assigned?_eq_some_iff.2 ⟨d, b, by simp, hd, hb, he⟩, ?_, ?_⟩
  · rw [List.append_assoc]
    exact Text.unblank_append_word hx _
  · intro q hq
    have hskip := Text.skipBlanks_equals hd (b ++ (e ++ [';']))
    rw [hq, Text.skipBlanks_of_unblank (by simp; decide)] at hskip
    simp at hskip

lemma of_rest {r : Text} (hx : Text.isWordText x = true) (h : assigned? r = some e) : Assigns x e (x ++ r) := by
  obtain ⟨d, b, rfl, hd, hb, he⟩ := assigned?_eq_some_iff.1 h
  exact ⟨d, b, by simp, hx, hd, hb, he⟩

end Assigns

namespace Assignment

inductive Spells : Assignment → Text → Prop
  | untyped {x e t : Text} : Assigns x e t → Spells ⟨none, x, e⟩ t
  | typed {w g x e t : Text} : Text.isWordText w = true → Text.isBlankText g = true → g ≠ [] → Assigns x e t →
      Spells ⟨some w, x, e⟩ (w ++ g ++ t)

lemma ofText?_eq_some_iff {a : Assignment} {t : Text} : ofText? t = some a ↔ a.Spells t := by
  constructor
  · intro h
    simp only [ofText?, Option.bind_eq_bind, Option.bind_eq_some_iff] at h
    obtain ⟨⟨w, r⟩, h₁, h⟩ := h
    obtain ⟨rfl, hw, -⟩ := Text.word?_eq_some h₁
    split at h
    · rename_i e he
      cases h
      exact .untyped (.of_rest hw he)
    · simp only [Option.bind_eq_some_iff] at h
      obtain ⟨⟨g, r₂⟩, h₂, ⟨x, r₃⟩, h₃, e, he, h⟩ := h
      cases h
      obtain ⟨rfl, hg, hgn, -⟩ := Text.blanks?_eq_some h₂
      obtain ⟨rfl, hx, -⟩ := Text.word?_eq_some h₃
      rw [← List.append_assoc]
      exact .typed hw hg hgn (.of_rest hx he)
  · intro h
    cases h with
    | untyped h =>
      obtain ⟨r, hw, hr, -⟩ := h.exists_rest
      simp only [ofText?, hw, Option.bind_eq_bind, Option.bind_some, hr]
    | @typed w g x e t hw hg hgn h =>
      obtain ⟨r, hx, hr, hu, -⟩ := h.exists_rest
      -- behind the type there is a word and no equals sign
      have hnone : assigned? (g ++ t) = none := by
        rw [Option.eq_none_iff_forall_ne_some]
        intro e' he'
        obtain ⟨d, b, ht, hd, -⟩ := assigned?_eq_some_iff.1 he'
        have hskip := congrArg Text.skipBlanks ht
        simp only [List.append_assoc, List.cons_append] at hskip
        rw [Text.skipBlanks_blank_append hg hu, Text.skipBlanks_equals hd] at hskip
        rw [hskip, Text.word?_eq_none (by simp; decide)] at hx
        simp at hx
      rw [List.append_assoc]
      simp only [ofText?, Text.word?_append hw (Text.unword_append_blank hg hgn t), Option.bind_eq_bind,
        Option.bind_some, hnone, Text.blanks?_append hg hgn hu, hx, hr]

end Assignment

lemma assignment_cases {t : Text} {a : Assignment} (h : Assignment.ofText? t = some a) :
    ∃ p d b, t = p ++ a.target ++ d ++ '=' :: b ++ a.expression ++ [';'] ∧
      (p = [] ∧ a.declared = none ∨ ∃ w g, p = w ++ g ∧ a.declared = some w ∧ Text.isWordText w = true ∧
        Text.isBlankText g = true ∧ g ≠ []) ∧
      Text.isWordText a.target = true ∧ Text.isBlankText d = true ∧ Text.isBlankText b = true ∧
      a.expression ≠ [] ∧ '\n' ∉ a.expression := by
  cases Assignment.ofText?_eq_some_iff.1 h with
  | untyped hs =>
    obtain ⟨d, b, rfl, hx, hd, hb, hn, hf, -⟩ := hs
    exact ⟨[], d, b, by simp, Or.inl ⟨rfl, rfl⟩, hx, hd, hb, hn, hf⟩
  | typed hw hg hgn hs =>
    obtain ⟨d, b, rfl, hx, hd, hb, hn, hf, -⟩ := hs
    exact ⟨_, d, b, by simp, Or.inr ⟨_, _, rfl, rfl, hw, hg, hgn⟩, hx, hd, hb, hn, hf⟩

lemma standalone?_eq_some_iff {t f a : Text} : standalone? t = some (f, a) ↔
    t = f ++ '(' :: a ++ [')', ';'] ∧ Text.isWordText f = true ∧ '\n' ∉ a := by
  constructor
  · intro h
    simp only [standalone?, Option.bind_eq_bind, Option.bind_eq_some_iff] at h
    obtain ⟨⟨f', r⟩, h₁, h⟩ := h
    obtain ⟨rfl, hw, -⟩ := Text.word?_eq_some h₁
    split at h
    · rename_i q hq
      obtain rfl : r = '(' :: q := hq
      simp only [Option.bind_eq_some_iff, List.isSuffixOf?_eq_some_iff_append_eq] at h
      obtain ⟨a', rfl, h⟩ := h
      split_ifs at h with hc
      cases h
      exact ⟨by rw [List.append_assoc]; rfl, hw, hc⟩
    · simp at h
  · rintro ⟨rfl, hf, ha⟩
    have hsuffix : ");".toList.isSuffixOf? (a ++ [')', ';']) = some a := List.isSuffixOf?_eq_some_iff_append_eq.2 rfl
    rw [List.append_assoc, List.cons_append]
    simp only [standalone?, Text.word?_append hf (show Text.Unword ('(' :: (a ++ [')', ';'])) by simp; decide),
      Option.bind_eq_bind, Option.bind_some, hsuffix, if_neg ha]

lemma standalone?_eq_none {t w r : Text} (hw : Text.word? t = some (w, r)) (hr : ∀ q, r ≠ '(' :: q) :
    standalone? t = none := by
  simp only [standalone?, hw, Option.bind_eq_bind, Option.bind_some]

lemma Assignment.Spells.standalone?_eq_none {a : Assignment} {t : Text} (h : a.Spells t) : standalone? t = none := by
  cases h with
  | untyped h =>
    obtain ⟨r, hw, -, -, hr⟩ := h.exists_rest
    exact CallStubs.standalone?_eq_none hw hr
  | typed hw hg hgn _ =>
    rw [List.append_assoc]
    refine CallStubs.standalone?_eq_none (Text.word?_append hw (Text.unword_append_blank hg hgn _)) ?_
    intro q hq
    obtain ⟨c, g, rfl⟩ := List.exists_cons_of_ne_nil hgn
    obtain ⟨rfl, -⟩ := List.cons.inj hq
    exact absurd (Text.isBlankText_iff.1 hg '(' (by simp)) (by decide)

namespace Call

/-- An assignment has a call for each opening parenthesis behind a word that is closed again, from left to right and
each once. Every other line has no calls, unless it is a call and nothing else. -/
theorem extract_finds_calls (typeOf : Text → Option Text) (t : Text) :
    (∀ a : Assignment, a.Spells t → ∃ sites : List (CallSite a.expression),
      (sites.map CallSite.position).Pairwise (· < ·) ∧ (∀ s, s ∈ sites) ∧
      extract typeOf t = sites.map fun s =>
        ⟨s.name, Arguments.split s.inner, a.declared.getD ((typeOf a.target).getD "int".toList)⟩) ∧
    ((∀ a : Assignment, ¬ a.Spells t) →
      (∀ f x, Text.isWordText f = true → '\n' ∉ x → t ≠ f ++ '(' :: x ++ [')', ';']) → extract typeOf t = []) := by
  refine ⟨fun a ha => ?_, fun ha hs => ?_⟩
  · obtain ⟨sites, ⟨hsorted, hmem⟩, hread⟩ := callsIn_eq_sites a.expression
    refine ⟨sites, hsorted, fun s => (hmem s).2 (Nat.zero_le _), ?_⟩
    rw [extract, Assignment.ofText?_eq_some_iff.2 ha, ha.standalone?_eq_none]
    simp only [Option.map_some, Option.getD_some, ofAssignment, hread, Option.toList_none, List.map_nil, List.append_nil,
      List.map_map]
    rfl
  · have hassign : Assignment.ofText? t = none :=
      Option.eq_none_iff_forall_ne_some.2 fun a h => ha a (Assignment.ofText?_eq_some_iff.1 h)
    have hstandalone : standalone? t = none := by
      rw [Option.eq_none_iff_forall_ne_some]
      rintro ⟨f, x⟩ h
      obtain ⟨ht, hf, hx⟩ := standalone?_eq_some_iff.1 h
      exact hs f x hf hx ht
    rw [extract, hassign, hstandalone]
    rfl

theorem extract_finds_calls_behind_lost_open :
    (Assignment.mk (some "T".toList) "y".toList "lost (f (g(1)), é(2) + h()".toList).Spells
      "T y =\n lost (f (g(1)), é(2) + h();".toList ∧
    (∃ sites : List (CallSite "lost (f (g(1)), é(2) + h()".toList), (∀ s, s ∈ sites) ∧
      sites.map CallSite.name = ["f".toList, "g".toList, "h".toList]) ∧
    extract (fun _ => none) "return f(1);".toList = [] := by
  have hspells : (Assignment.mk (some "T".toList) "y".toList "lost (f (g(1)), é(2) + h()".toList).Spells
      "T y =\n lost (f (g(1)), é(2) + h();".toList :=
    Assignment.ofText?_eq_some_iff.1 (by decide)
  obtain ⟨sites, -, hall, hextract⟩ := (extract_finds_calls (fun _ => none) _).1 _ hspells
  refine ⟨hspells, ⟨sites, hall, ?_⟩, (extract_finds_calls (fun _ => none) _).2 ?_ ?_⟩
  · have hnames := congrArg (List.map name) hextract
    rw [List.map_map] at hnames
    exact hnames.symm.trans (by decide)
  · intro a ha
    have hnone : Assignment.ofText? "return f(1);".toList = none := by decide
    rw [Assignment.ofText?_eq_some_iff.2 ha] at hnone
    simp at hnone
  · intro f x hf hx ht
    have hnone : standalone? "return f(1);".toList = none := by decide
    rw [standalone?_eq_some_iff.2 ⟨ht, hf, hx⟩] at hnone
    simp at hnone

end Call

lemma mem_extract {typeOf : Text → Option Text} {t : Text} {c : Call} (h : c ∈ Call.extract typeOf t) :
    (∃ a, Assignment.ofText? t = some a ∧ ∃ q ∈ callsIn a.expression,
      c = ⟨q.1, q.2, a.declared.getD ((typeOf a.target).getD Call.defaultType)⟩) ∨
    ∃ f a, standalone? t = some (f, a) ∧ c = ⟨f, Arguments.split a, Call.void⟩ := by
  rw [Call.extract, List.mem_append] at h
  rcases h with h | h
  · cases ha : Assignment.ofText? t with
    | none => simp [ha] at h
    | some a =>
      simp only [ha, Option.map_some, Option.getD_some, Call.ofAssignment, List.mem_map] at h
      obtain ⟨q, hq, rfl⟩ := h
      exact Or.inl ⟨a, rfl, q, hq, rfl⟩
  · rw [List.mem_map] at h
    obtain ⟨⟨f, a⟩, hq, rfl⟩ := h
    exact Or.inr ⟨f, a, by simpa using hq, rfl⟩

lemma shape_of_mem_extract {typeOf : Text → Option Text} {t : Text} {c : Call}
    (h : c ∈ Call.extract typeOf t) : CallShape t := by
  rcases mem_extract h with ⟨a, ha, -⟩ | ⟨f, a, ha, -⟩
  · obtain ⟨p, d, b, rfl, hp, hx, hd, hb, hn, hf⟩ := assignment_cases ha
    refine CallShape.assignment ?_ hx hd hb hn hf
    rcases hp with ⟨hp, -⟩ | ⟨w, g, hp, -, hg⟩
    · exact Or.inl hp
    · exact Or.inr ⟨w, g, hp, hg⟩
  · obtain ⟨rfl, hf, hn⟩ := standalone?_eq_some_iff.1 ha
    exact CallShape.standalone hf hn

namespace Arguments

lemma cut_subset {s : Nesting} {t p : Text} (h : p ∈ cut s t) : p ⊆ t := by
  induction t generalizing s p with
  | nil => simp_all [cut]
  | cons c t ih =>
    rw [cut] at h
    split_ifs at h
    · rcases List.mem_cons.1 h with rfl | h
      · simp
      · exact List.subset_cons_of_subset c (ih h)
    · cases hq : cut (s.step c) t with
      | nil => simp_all [consHead]
      | cons q qs =>
        rw [hq, consHead] at h
        rcases List.mem_cons.1 h with rfl | h
        · exact List.cons_subset_cons c (ih (hq ▸ List.mem_cons_self))
        · exact List.subset_cons_of_subset c (ih (hq ▸ List.mem_cons_of_mem _ h))

lemma mem_tidy {ps : List Text} {p : Text} (h : p ∈ tidy ps) : ∃ q ∈ ps, p = Text.trim q := by
  fun_induction tidy ps with
  | case1 => simp at h
  | case2 q hq => simp at h
  | case3 q hq => exact ⟨q, List.mem_singleton_self q, List.mem_singleton.1 h⟩
  | case4 q r rs ih =>
    rcases List.mem_cons.1 h with rfl | h
    · exact ⟨q, List.mem_cons_self, rfl⟩
    · obtain ⟨x, hx, rfl⟩ := ih h
      exact ⟨x, List.mem_cons_of_mem _ hx, rfl⟩

lemma split_subset {t p : Text} (h : p ∈ split t) : p ⊆ t := by
  obtain ⟨q, hq, rfl⟩ := mem_tidy h
  exact List.Subset.trans (Text.trim_subset q) (cut_subset hq)

end Arguments

lemma callsIn_spec {e : Text} {q : Text × List Text} (h : q ∈ callsIn e) :
    Text.isWordText q.1 = true ∧ ∀ a ∈ q.2, a ⊆ e := by
  obtain ⟨sites, -, hread⟩ := callsIn_eq_sites e
  rw [hread] at h
  obtain ⟨s, -, rfl⟩ := List.mem_map.1 h
  exact ⟨s.isWordText_name, fun a ha => List.Subset.trans (Arguments.split_subset ha) s.inner_subset⟩

lemma Call.isWordText_name {typeOf : Text → Option Text} {t : Text} {c : Call} (h : c ∈ extract typeOf t) :
    Text.isWordText c.name = true := by
  rcases mem_extract h with ⟨a, -, q, hq, rfl⟩ | ⟨f, a, ha, rfl⟩
  · exact (callsIn_spec hq).1
  · exact (standalone?_eq_some_iff.1 ha).2.1

lemma Call.argument_subset {typeOf : Text → Option Text} {t : Text} {c : Call} (h : c ∈ extract typeOf t)
    {x : Text} (hx : x ∈ c.arguments) : x ⊆ t := by
  rcases mem_extract h with ⟨a, ha, q, hq, rfl⟩ | ⟨f, a, ha, rfl⟩
  · obtain ⟨p, d, b, rfl, -⟩ := assignment_cases ha
    intro y hy
    simp [(callsIn_spec hq).2 x hx hy]
  · obtain ⟨rfl, -⟩ := standalone?_eq_some_iff.1 ha
    intro y hy
    simp [Arguments.split_subset hx hy]

lemma Call.returnType_cases {typeOf : Text → Option Text} {t : Text} {c : Call} (h : c ∈ extract typeOf t) :
    Text.isWordText c.returnType = true ∨ ∃ x, typeOf x = some c.returnType := by
  rcases mem_extract h with ⟨a, ha, q, -, rfl⟩ | ⟨f, a, -, rfl⟩
  · obtain ⟨p, d, b, -, ⟨-, hd⟩ | ⟨w, g, -, hd, hw, -⟩, -⟩ := assignment_cases ha
    · cases ht : typeOf a.target with
      | none => exact Or.inl (by simp only [hd]; decide)
      | some T => exact Or.inr ⟨a.target, by simp [hd, ht]⟩
    · exact Or.inl (by simpa [hd] using hw)
  · exact Or.inl (show Text.isWordText void = true by decide)

namespace Call

def firsts (cs : List Call) : List Call :=
  (cs.map name).eraseDups.filterMap fun f => cs.find? (·.name == f)

lemma find?_concat {cs : List Call} {f : Text} (h : f ∈ cs.map name) (c : Call) :
    (cs ++ [c]).find? (·.name == f) = cs.find? (·.name == f) := by
  obtain ⟨d, hd, rfl⟩ := List.mem_map.1 h
  have hsome : (cs.find? (·.name == d.name)).isSome = true := by
    rw [List.find?_isSome]
    exact ⟨d, hd, by simp⟩
  rw [List.find?_append, Option.or_of_isSome hsome]

lemma firsts_concat (cs : List Call) (c : Call) :
    firsts (cs ++ [c]) = if c.name ∈ cs.map name then firsts cs else firsts cs ++ [c] := by
  have hold : ((cs.map name).eraseDups.filterMap fun f => (cs ++ [c]).find? (·.name == f)) = firsts cs :=
    List.filterMap_congr fun f hf => find?_concat (List.mem_eraseDups.1 hf) c
  rw [firsts, List.map_append, List.map_singleton, eraseDups_concat]
  split_ifs with h
  · exact hold
  · have hnone : cs.find? (·.name == c.name) = none := by
      rw [List.find?_eq_none]
      intro d hd he
      exact h (beq_iff_eq.1 he ▸ List.mem_map_of_mem hd)
    rw [List.filterMap_append, hold, List.filterMap_cons, List.find?_append, hnone]
    simp

lemma firsts_subset (cs : List Call) : firsts cs ⊆ cs := by
  intro c hc
  obtain ⟨f, -, hf⟩ := List.mem_filterMap.1 hc
  exact List.mem_of_find?_eq_some hf

lemma find?_of_mem_firsts {cs : List Call} {c : Call} (h : c ∈ firsts cs) : cs.find? (·.name == c.name) = some c := by
  obtain ⟨f, -, hf⟩ := List.mem_filterMap.1 h
  have hname : c.name = f := by simpa using List.find?_some hf
  rwa [hname]

lemma map_name_firsts (cs : List Call) : (firsts cs).map name = (cs.map name).eraseDups := by
  induction cs using List.reverseRecOn with
  | nil => rfl
  | append_singleton cs c ih =>
    rw [firsts_concat, List.map_append, List.map_singleton, eraseDups_concat]
    split_ifs
    · exact ih
    · rw [List.map_append, ih, List.map_singleton]

end Call

end CallStubs
