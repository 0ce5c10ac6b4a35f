import CallStubs.Proofs.Recognition

/-! The pieces of an argument text: where it is cut, and that it can be cut in one way only. -/

namespace CallStubs

namespace Nesting

def Uncut (s : Nesting) (t : Text) : Prop :=
  ∀ q r, t = q ++ ',' :: r → s.run q ≠ .top

variable {s : Nesting} {c : Char} {t : Text}

lemma run_cons : s.run (c :: t) = (s.step c).run t := rfl

lemma run_append (q r : Text) : s.run (q ++ r) = (s.run q).run r :=
  List.foldl_append

def isQuote (c : Char) : Bool :=
  c == '"' || c == '\''

/-- A text read as quotations, each up to the next quote of its kind, and what stands outside of them. Its last quote
may be left open. -/
inductive Reads : Text → Text → Option Char → Prop
  | bare {b : Text} (hb : ∀ c ∈ b, isQuote c = false) : Reads b b none
  | opened {b u : Text} {q : Char} (hb : ∀ c ∈ b, isQuote c = false) (hq : isQuote q = true) (hu : q ∉ u) :
      Reads (b ++ q :: u) b (some q)
  | quoted {b u t outside : Text} {q : Char} {open? : Option Char} (hb : ∀ c ∈ b, isQuote c = false)
      (hq : isQuote q = true) (hu : q ∉ u) (ht : Reads t outside open?) : Reads (b ++ q :: (u ++ q :: t)) (b ++ outside) open?

lemma exists_reads (t : Text) : ∃ outside open?, Reads t outside open? := by
  -- by the length of the text: what is left behind the first quotation is shorter
  induction hl : t.length using Nat.strong_induction_on generalizing t with
  | _ n ih =>
    cases hfirst : t.find? isQuote with
    | none => exact ⟨t, none, .bare (by simpa using hfirst)⟩
    | some q =>
      obtain ⟨hq, b, r, rfl, hb⟩ := List.find?_eq_some_iff_append.1 hfirst
      have hb : ∀ c ∈ b, isQuote c = false := by simpa using hb
      by_cases hr : q ∈ r
      · obtain ⟨u, t, rfl, hu⟩ := List.eq_append_cons_of_mem hr
        obtain ⟨outside, open?, ht⟩ := ih t.length (by simp at hl; omega) t rfl
        exact ⟨_, _, .quoted hb hq hu ht⟩
      · exact ⟨b, some q, .opened hb hq hr⟩

lemma run_bare {b : Text} (hb : ∀ c ∈ b, isQuote c = false) (d : Int) :
    run ⟨none, d⟩ b = ⟨none, d + b.count '(' - b.count ')'⟩ := by
  induction b generalizing d with
  | nil => simp [run]
  | cons c b ih =>
    rw [List.forall_mem_cons] at hb
    have hc : ¬(c = '"' ∨ c = '\'') := by simpa [isQuote] using hb.1
    rw [run_cons, step]
    simp only [if_neg hc]
    split_ifs with ho hs
    · rw [ih hb.2, ho, List.count_cons_self, List.count_cons_of_ne (by decide)]
      congr 1
      push_cast
      ring
    · rw [ih hb.2, hs, List.count_cons_self, List.count_cons_of_ne (by decide)]
      congr 1
      push_cast
      ring
    · rw [ih hb.2, List.count_cons_of_ne ho, List.count_cons_of_ne hs]

lemma run_quotation {q : Char} {u : Text} (hu : q ∉ u) (d : Int) : run ⟨some q, d⟩ u = ⟨some q, d⟩ := by
  induction u with
  | nil => rfl
  | cons c u ih =>
    rw [List.mem_cons, not_or] at hu
    rw [run_cons, step]
    simp only [if_neg (Ne.symm hu.1)]
    exact ih hu.2

lemma step_quote {q : Char} (hq : isQuote q = true) (d : Int) : step ⟨none, d⟩ q = ⟨some q, d⟩ :=
  if_pos (by simpa [isQuote] using hq)

lemma Reads.run {outside : Text} {open? : Option Char} (h : Reads t outside open?) (d : Int) :
    run ⟨none, d⟩ t = ⟨open?, d + outside.count '(' - outside.count ')'⟩ := by
  induction h generalizing d with
  | bare hb => exact run_bare hb d
  | opened hb hq hu => rw [run_append, run_bare hb, run_cons, step_quote hq, run_quotation hu]
  | quoted hb hq hu _ ih =>
    rw [run_append, run_bare hb, run_cons, step_quote hq, run_append, run_quotation hu, run_cons]
    simp only [step, if_true]
    rw [ih]
    simp only [List.count_append]
    congr 1
    push_cast
    ring

lemma depth_step (s : Nesting) (c : Char) : (s.step c).depth = s.depth ∨ (s.step c).depth = s.depth + 1 ∨
    (s.step c).depth = s.depth - 1 := by
  unfold step
  split <;> split_ifs <;> simp

lemma natAbs_depth_run_le (s : Nesting) (t : Text) : (s.run t).depth.natAbs ≤ s.depth.natAbs + t.length := by
  induction t generalizing s with
  | nil => exact le_rfl
  | cons c t ih =>
    have hstep := depth_step s c
    have hrest := ih (s.step c)
    rw [run_cons, List.length_cons]
    omega

/-- What the scan of a text finds: the quote that is left open, and how many more parentheses are opened than closed
outside the quotations. -/
theorem run_top_eq_iff : top.run t = s ↔
    ∃ outside, Reads t outside s.quote ∧ s.depth = outside.count '(' - outside.count ')' := by
  constructor
  · rintro rfl
    obtain ⟨outside, open?, h⟩ := exists_reads t
    rw [top, h.run, zero_add]
    exact ⟨outside, h, rfl⟩
  · rintro ⟨outside, h, hdepth⟩
    rw [top, h.run, zero_add, ← hdepth]

lemma uncut_nil : s.Uncut [] := by
  simp [Uncut]

lemma uncut_cons_iff : s.Uncut (c :: t) ↔ ¬(c = ',' ∧ s = .top) ∧ (s.step c).Uncut t := by
  constructor
  · intro h
    refine ⟨fun ⟨hc, hs⟩ => h [] t (by rw [hc, List.nil_append]) hs, fun q r ht => ?_⟩
    rw [← run_cons]
    exact h (c :: q) r (by rw [ht, List.cons_append])
  · rintro ⟨hc, ht⟩ q r h
    cases q with
    | nil => exact fun hs => hc ⟨(List.cons.inj h).1, hs⟩
    | cons d q =>
      obtain ⟨rfl, hq⟩ := List.cons.inj h
      exact ht q r hq

instance decidableUncut : (s : Nesting) → (t : Text) → Decidable (s.Uncut t)
  | _, [] => .isTrue uncut_nil
  | s, c :: t =>
    have := decidableUncut (s.step c) t
    decidable_of_iff _ uncut_cons_iff.symm

lemma uncut_or_exists_cut (s : Nesting) (t : Text) :
    s.Uncut t ∨ ∃ p u, t = p ++ ',' :: u ∧ s.Uncut p ∧ s.run p = .top := by
  induction t generalizing s with
  | nil => exact Or.inl uncut_nil
  | cons c t ih =>
    by_cases hc : c = ',' ∧ s = .top
    · exact Or.inr ⟨[], t, by rw [hc.1, List.nil_append], uncut_nil, hc.2⟩
    · rcases ih (s.step c) with h | ⟨p, u, rfl, hp, hrun⟩
      · exact Or.inl (uncut_cons_iff.2 ⟨hc, h⟩)
      · exact Or.inr ⟨c :: p, u, rfl, uncut_cons_iff.2 ⟨hc, hp⟩, hrun⟩

end Nesting

namespace Arguments

lemma cut_of_uncut {s : Nesting} {t : Text} (h : s.Uncut t) : cut s t = [t] := by
  induction t generalizing s with
  | nil => rfl
  | cons c t ih =>
    rw [Nesting.uncut_cons_iff] at h
    rw [cut, if_neg h.1, ih h.2, consHead]

lemma cut_append {s : Nesting} {p : Text} (h : s.Uncut p) (hp : s.run p = .top) (u : Text) :
    cut s (p ++ ',' :: u) = p :: cut .top u := by
  induction p generalizing s with
  | nil =>
    obtain rfl : s = .top := hp
    rw [List.nil_append, cut, if_pos ⟨rfl, rfl⟩]
  | cons c p ih =>
    rw [Nesting.uncut_cons_iff] at h
    rw [List.cons_append, cut, if_neg h.1, ih h.2 hp, consHead]

/-- `ps` are the pieces of `t` between its commas at the top level: a scan of each piece from the top level meets no
such comma, and is back there where the piece ends at one. -/
structure Pieces (ps : List Text) (t : Text) : Prop where
  nonempty : ps ≠ []
  join : [','].intercalate ps = t
  closed : ∀ p ∈ ps.dropLast, Nesting.top.run p = .top
  uncut : ∀ p ∈ ps, Nesting.top.Uncut p

namespace Pieces

variable {p t u : Text} {ps : List Text}

lemma singleton_iff : Pieces [p] t ↔ t = p ∧ Nesting.top.Uncut p := by
  constructor
  · intro h
    exact ⟨by rw [← h.join, List.intercalate_singleton], h.uncut p (List.mem_singleton_self p)⟩
  · rintro ⟨rfl, h⟩
    exact ⟨List.cons_ne_nil _ _, List.intercalate_singleton, by simp, by simpa using h⟩

lemma cons_iff (hn : ps ≠ []) : Pieces (p :: ps) t ↔
    ∃ u, t = p ++ ',' :: u ∧ Nesting.top.run p = .top ∧ Nesting.top.Uncut p ∧ Pieces ps u := by
  have hjoin : [','].intercalate (p :: ps) = p ++ ',' :: [','].intercalate ps := by
    rw [List.intercalate_cons_of_ne_nil hn, List.append_assoc]
    rfl
  constructor
  · rintro ⟨-, rfl, hclosed, huncut⟩
    rw [List.dropLast_cons_of_ne_nil hn, List.forall_mem_cons] at hclosed
    rw [List.forall_mem_cons] at huncut
    exact ⟨_, hjoin, hclosed.1, huncut.1, hn, rfl, hclosed.2, huncut.2⟩
  · rintro ⟨u, rfl, hrun, hp, h⟩
    refine ⟨List.cons_ne_nil _ _, by rw [hjoin, h.join], ?_, List.forall_mem_cons.2 ⟨hp, h.uncut⟩⟩
    rw [List.dropLast_cons_of_ne_nil hn]
    exact List.forall_mem_cons.2 ⟨hrun, h.closed⟩

lemma cut_eq (h : Pieces ps t) : cut .top t = ps := by
  induction ps generalizing t with
  | nil => exact absurd rfl h.nonempty
  | cons p ps ih =>
    by_cases hn : ps = []
    · subst hn
      obtain ⟨rfl, hp⟩ := singleton_iff.1 h
      exact cut_of_uncut hp
    · obtain ⟨u, rfl, hrun, hp, hu⟩ := (cons_iff hn).1 h
      rw [cut_append hp hrun, ih hu]

end Pieces

lemma pieces_cut (t : Text) : Pieces (cut .top t) t := by
  -- by the length of the text: what is left behind the first comma is shorter
  induction hl : t.length using Nat.strong_induction_on generalizing t with
  | _ n ih =>
    rcases Nesting.uncut_or_exists_cut .top t with h | ⟨p, u, rfl, hp, hrun⟩
    · rw [cut_of_uncut h]
      exact Pieces.singleton_iff.2 ⟨rfl, h⟩
    · have hu : Pieces (cut .top u) u := ih u.length (by simp at hl; omega) u rfl
      rw [cut_append hp hrun]
      exact (Pieces.cons_iff hu.nonempty).2 ⟨u, rfl, hrun, hp, hu⟩

lemma tidy_concat (ps : List Text) (z : Text) :
    tidy (ps ++ [z]) = ps.map Text.trim ++ if Text.trim z = [] then [] else [Text.trim z] := by
  induction ps with
  | nil => rfl
  | cons p ps ih =>
    obtain ⟨q, qs, hq⟩ := List.exists_cons_of_ne_nil (List.append_ne_nil_of_right_ne_nil ps (List.cons_ne_nil z []))
    rw [List.cons_append, hq, tidy, ← hq, ih, List.map_cons, List.cons_append]

lemma split_of_blank {t : Text} (h : Text.trim t = []) : split t = [] := by
  have huncut : Nesting.top.Uncut t := by
    rintro q r rfl
    have hmem : ',' ∈ Text.trim (q ++ ',' :: r) := Text.mem_trim_of_mem (by simp) (by decide)
    simp [h] at hmem
  rw [split, cut_of_uncut huncut, tidy, if_pos h]

/-- There is one way to cut an argument text at the commas that stand at the top level outside quotes. Its arguments
are the pieces, trimmed, and a blank last piece is left out; so a blank text has none. -/
theorem split_cuts_uniquely (t : Text) : ∃ ps z, (∀ rs, Pieces rs t ↔ rs = ps ++ [z]) ∧
    let found := ps.map Text.trim ++ if Text.trim z = [] then [] else [Text.trim z]
    split t = found ∧ split t = if Text.trim t = [] then [] else found := by
  have hpieces := pieces_cut t
  obtain ⟨ps, z, hcut⟩ := (List.eq_nil_or_concat' (cut .top t)).resolve_left hpieces.nonempty
  have hsplit : split t = ps.map Text.trim ++ if Text.trim z = [] then [] else [Text.trim z] := by
    rw [split, hcut, tidy_concat]
  refine ⟨ps, z, fun rs => ⟨fun h => ?_, fun h => ?_⟩, hsplit, ?_⟩
  · rw [← hcut, h.cut_eq]
  · rw [h, ← hcut]
    exact hpieces
  · by_cases hblank : Text.trim t = []
    · rw [if_pos hblank, split_of_blank hblank]
    · rw [if_neg hblank, hsplit]

example : split "a,, '(,', f(b,c) , ".toList = ["a", "", "'(,'", "f(b,c)"].map String.toList := by decide

end Arguments

end CallStubs
