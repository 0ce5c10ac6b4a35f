import CallStubs.Declaration
import CallStubs.Proofs.CallSites

/-! How declarations are written, and the types that they bring into scope. -/

namespace CallStubs

namespace Text

def Names (x t : Text) : Prop :=
  ∃ g r, t = g ++ x ++ r ∧ isBlankText g = true ∧ g ≠ [] ∧ isWordText x = true ∧ Unword r

lemma names_iff {x t : Text} : Names x t ↔ ∃ p q, blanks? t = some p ∧ word? p.2 = some q ∧ q.1 = x := by
  constructor
  · rintro ⟨g, r, rfl, hg, hgn, hx, hr⟩
    have hu : Unblank (x ++ r) := unblank_append_word hx r
    exact ⟨(g, x ++ r), (x, r), by rw [List.append_assoc, blanks?_append hg hgn hu], word?_append hx hr, rfl⟩
  · rintro ⟨⟨g, _⟩, ⟨x, r⟩, hb, hw, rfl⟩
    obtain ⟨rfl, hg, hgn, -⟩ := blanks?_eq_some hb
    obtain ⟨hr, hx, hu⟩ := word?_eq_some hw
    exact ⟨g, r, by rw [List.append_assoc]; exact congrArg _ hr, hg, hgn, hx, hu⟩

lemma name_cancel {g x r b y s : Text} (hg : isBlankText g = true) (hx : isWordText x = true) (hr : Unword r)
    (hb : isBlankText b = true) (hy : isWordText y = true) (hs : Unword s) (h : g ++ x ++ r = b ++ y ++ s) :
    x = y ∧ r = s := by
  have hskip := congrArg skipBlanks h
  rw [List.append_assoc, List.append_assoc, skipBlanks_append hg, skipBlanks_append hb,
    skipBlanks_of_unblank (unblank_append_word hx r), skipBlanks_of_unblank (unblank_append_word hy s)] at hskip
  have hword := word?_append hx hr
  rw [hskip, word?_append hy hs, Option.some.injEq, Prod.mk.injEq] at hword
  exact ⟨hword.1.symm, hword.2.symm⟩

lemma not_unword_append {w : Text} (hw : isWordText w = true) (t : Text) : ¬Unword (w ++ t) := by
  obtain ⟨hn, hw⟩ := isWordText_iff.1 hw
  obtain ⟨c, w, rfl⟩ := List.exists_cons_of_ne_nil hn
  rw [List.cons_append, unword_cons, hw c List.mem_cons_self]
  simp

lemma Names.isWordText {x t : Text} (h : Names x t) : isWordText x = true := by
  obtain ⟨g, r, -, -, -, hx, -⟩ := h
  exact hx

lemma Names.unword {x t : Text} (h : Names x t) : Unword t := by
  obtain ⟨g, r, rfl, hg, hgn, -⟩ := h
  rw [List.append_assoc]
  exact unword_append_blank hg hgn _

lemma Names.not_unblank {x t : Text} (h : Names x t) : ¬Unblank t := by
  intro hu
  obtain ⟨p, q, hp, -⟩ := names_iff.1 h
  rw [blanks?_eq_none hu] at hp
  simp at hp

lemma Names.ne_angle {x t b q : Text} (h : Names x t) (hb : isBlankText b = true) : t ≠ b ++ '<' :: q := by
  rintro rfl
  obtain ⟨⟨g, s⟩, _, hg, hw, -⟩ := names_iff.1 h
  obtain ⟨ht, hgb, -, hu⟩ := blanks?_eq_some hg
  have hskip := congrArg skipBlanks ht
  rw [skipBlanks_blank_append hb ((unblank_cons _ _).2 (by decide)), skipBlanks_blank_append hgb hu] at hskip
  rw [← hskip, word?_eq_none ((unword_cons _ _).2 (by decide))] at hw
  simp at hw

lemma takeWhile_blanks {b t : Text} (hb : isBlankText b = true) (ht : Unblank t) : (b ++ t).takeWhile isBlank = b := by
  have hnone : t.takeWhile isBlank = [] := by
    cases t with
    | nil => rfl
    | cons c t => simp [(unblank_cons c t).1 ht]
  rw [List.takeWhile_append_of_pos (isBlankText_iff.1 hb), hnone, List.append_nil]

lemma blankWords_blank {b : Text} (hb : isBlankText b = true) (t : Text) : blankWords (b ++ t) = blankWords t := by
  induction b with
  | nil => rfl
  | cons c b ih =>
    rw [isBlankText_cons, Bool.and_eq_true] at hb
    rw [← ih hb.2, List.cons_append, blankWords, List.splitOnP_cons_eq_if_modifyHead, if_pos hb.1]
    rfl

lemma blankWords_word {w : Text} (hw : isWordText w = true) : blankWords w = [w] := by
  obtain ⟨hn, hw⟩ := isWordText_iff.1 hw
  rw [blankWords, List.splitOnP_eq_singleton fun c hc => isBlank_of_isWord (hw c hc)]
  simpa using hn

lemma blankWords_append {w b : Text} (hw : isWordText w = true) (hb : isBlankText b = true) (hn : b ≠ []) (t : Text) :
    blankWords (w ++ b ++ t) = w :: blankWords t := by
  obtain ⟨c, b, rfl⟩ := List.exists_cons_of_ne_nil hn
  rw [isBlankText_cons, Bool.and_eq_true] at hb
  have hsplit : blankWords (w ++ c :: (b ++ t)) = blankWords w ++ blankWords (b ++ t) := by
    rw [blankWords, List.splitOnP_append_cons _ _ hb.1, List.filter_append]
    rfl
  rw [List.append_assoc, List.cons_append, hsplit, blankWords_word hw, blankWords_blank hb.2]
  rfl

end Text

namespace TypeName

lemma isWordText_of_mem_containers : ∀ k ∈ containers, Text.isWordText k = true := by
  decide

def FitsAngles (s : Text) : Prop :=
  ∀ c ∈ s, c ≠ '=' ∧ c ≠ ';' ∧ c ≠ '('

instance : DecidablePred FitsAngles :=
  -- along the text: the instance that is found by itself runs over all characters there are
  fun s => List.decidableBAll (fun c => c ≠ '=' ∧ c ≠ ';' ∧ c ≠ '(') s

def IsContainer (t : Text) : Prop :=
  ∃ k ∈ containers, ∃ b s, t = k ++ b ++ '<' :: s ++ ['>'] ∧ Text.isBlankText b = true ∧ FitsAngles s

lemma isWordText_of_mem_abbreviations : ∀ p ∈ abbreviations, Text.isWordText p.1 = true := by
  decide +kernel

lemma expansion?_eq_none {t : Text} (h : Text.isWordText t = false) : expansion? t = none := by
  rw [expansion?, List.lookup_eq_none_iff]
  intro p hp
  rw [bne_iff_ne]
  rintro rfl
  rw [isWordText_of_mem_abbreviations p hp] at h
  simp at h

lemma not_word_of_mem {t : Text} {c : Char} (hm : c ∈ t) (hc : Text.isWord c = false) : Text.isWordText t = false := by
  rw [← Bool.not_eq_true, Text.isWordText_iff]
  rintro ⟨-, hall⟩
  simp [hall c hm] at hc

lemma expand_of_not_word {t : Text} (h : Text.isWordText t = false) : expand t = t := by
  rw [expand, expansion?_eq_none h]
  rfl

lemma isWordText_long {b : Text} (hb : Text.isBlankText b = true) (hn : b ≠ []) :
    Text.isWordText ("long".toList ++ b ++ "long".toList) = false := by
  obtain ⟨c, b, rfl⟩ := List.exists_cons_of_ne_nil hn
  rw [Text.isBlankText_cons, Bool.and_eq_true] at hb
  exact not_word_of_mem (c := c) (by simp) (Text.isWord_of_isBlank hb.1)

lemma isScalar_word {w : Text} (hw : Text.isWordText w = true) :
    isScalar w = true ↔ w ∈ basics ∨ isAbbreviation w = true := by
  simp [isScalar, Text.blankWords_word hw]

lemma isScalar_long {b : Text} (hb : Text.isBlankText b = true) (hn : b ≠ []) :
    isScalar ("long".toList ++ b ++ "long".toList) = true := by
  have hlong : Text.isWordText "long".toList = true := by decide
  have hwords : Text.blankWords ("long".toList ++ b ++ "long".toList) = ["long".toList, "long".toList] := by
    rw [Text.blankWords_append hlong hb hn, Text.blankWords_word hlong]
  rw [isScalar, hwords]
  simp

lemma IsContainer.isWordText_eq_false {t : Text} (h : IsContainer t) : Text.isWordText t = false := by
  obtain ⟨k, -, b, s, rfl, -⟩ := h
  exact not_word_of_mem (c := '<') (by simp) (by decide)

lemma IsContainer.expand_eq {t : Text} (h : IsContainer t) : expand t = t :=
  expand_of_not_word h.isWordText_eq_false

/-- Whether the text is the one spelling of a type that can be recorded: a container with its arguments, a basic type,
or `long long` with one space. -/
def IsCanonical (t : Text) : Prop :=
  IsContainer t ∨ t ∈ basics ∨ t = "long long".toList

lemma abbreviations_spelling : ∀ p ∈ abbreviations, '\n' ∉ p.2 ∧ (p.2 = "long long".toList ∨
    let k := p.2.takeWhile Text.isWord
    let s := ((p.2.dropWhile Text.isWord).drop 1).dropLast
    k ∈ containers ∧ p.2 = k ++ [] ++ '<' :: s ++ ['>'] ∧ FitsAngles s) := by
  decide +kernel

lemma expand_cases (t : Text) : isAbbreviation t = false ∧ expand t = t ∨ ∃ p ∈ abbreviations, expand t = p.2 := by
  unfold isAbbreviation expand expansion?
  cases h : abbreviations.lookup t with
  | none => exact Or.inl ⟨rfl, rfl⟩
  | some v =>
    obtain ⟨l, r, hl, -⟩ := List.lookup_eq_some_iff.1 h
    exact Or.inr ⟨(t, v), by simp [hl], rfl⟩

lemma isCanonical_of_mem_abbreviations {p : Text × Text} (hp : p ∈ abbreviations) : IsCanonical p.2 := by
  rcases (abbreviations_spelling p hp).2 with hlong | ⟨hk, hs, hfits⟩
  · exact Or.inr (Or.inr hlong)
  · exact Or.inl ⟨_, hk, [], _, hs, rfl, hfits⟩

lemma isCanonical_expand {w : Text} (hw : w ∈ basics ∨ isAbbreviation w = true) : IsCanonical (expand w) := by
  rcases expand_cases w with ⟨hno, he⟩ | ⟨p, hp, he⟩
  · rw [he]
    exact Or.inr (Or.inl (hw.resolve_right (by simp [hno])))
  · rw [he]
    exact isCanonical_of_mem_abbreviations hp

lemma expansion?_of_basic : ∀ t ∈ basics, Text.isWordText t = true ∧ expansion? t = none := by
  decide +kernel

lemma not_isContainer_long (b : Text) : ¬IsContainer ("long".toList ++ b ++ "long".toList) := by
  rintro ⟨k, -, c, s, ht, -⟩
  have hlast := congrArg List.getLast? ht
  rw [List.getLast?_append_of_ne_nil _ (by simp), List.getLast?_concat] at hlast
  revert hlast
  decide

lemma isCanonical_long_iff {b : Text} (hb : Text.isBlankText b = true) (hn : b ≠ []) :
    IsCanonical ("long".toList ++ b ++ "long".toList) ↔ b = [' '] := by
  constructor
  · rintro (hcontainer | hbasic | hlong)
    · exact absurd hcontainer (not_isContainer_long b)
    · have hword := (expansion?_of_basic _ hbasic).1
      rw [isWordText_long hb hn] at hword
      simp at hword
    · exact List.append_cancel_left (List.append_cancel_right (hlong : _ ++ b ++ _ = _ ++ [' '] ++ _))
  · rintro rfl
    exact Or.inr (Or.inr rfl)

end TypeName

def Encloses (s x t : Text) : Prop :=
  ∃ u r, s = u ++ ['>'] ∧ t = s ++ r ∧ TypeName.FitsAngles u ∧ Text.Names x r ∧ closeAngle? r = none

lemma not_encloses_nil (s x : Text) : ¬Encloses s x [] := by
  rintro ⟨u, r, rfl, h, -⟩
  simp at h

lemma encloses_cons_iff {s x t : Text} {c : Char} : Encloses s x (c :: t) ↔
    (c = '>' ∧ s = ['>'] ∧ Text.Names x t ∧ closeAngle? t = none) ∨
      (c ≠ '=' ∧ c ≠ ';' ∧ c ≠ '(') ∧ ∃ s', s = c :: s' ∧ Encloses s' x t := by
  constructor
  · rintro ⟨u, r, rfl, h, hu, hx, hr⟩
    cases u with
    | nil =>
      obtain ⟨rfl, rfl⟩ := List.cons.inj h
      exact Or.inl ⟨rfl, rfl, hx, hr⟩
    | cons d u =>
      obtain ⟨rfl, rfl⟩ := List.cons.inj h
      obtain ⟨hc, hu⟩ := List.forall_mem_cons.1 hu
      exact Or.inr ⟨hc, u ++ ['>'], rfl, u, r, rfl, rfl, hu, hx, hr⟩
  · rintro (⟨rfl, rfl, hx, hr⟩ | ⟨hc, _, rfl, u, r, rfl, rfl, hu, hx, hr⟩)
    · exact ⟨[], t, rfl, rfl, by simp [TypeName.FitsAngles], hx, hr⟩
    · exact ⟨c :: u, r, rfl, rfl, List.forall_mem_cons.2 ⟨hc, hu⟩, hx, hr⟩

lemma closeAngle?_eq_some_iff {t s x : Text} : closeAngle? t = some (s, x) ↔ Encloses s x t := by
  induction t generalizing s x with
  | nil => exact iff_of_false (by simp [closeAngle?]) (not_encloses_nil s x)
  | cons c t ih =>
    rw [closeAngle?, encloses_cons_iff]
    simp only [← ih]
    by_cases hc : c = '=' ∨ c = ';' ∨ c = '('
    · have hangle : c ≠ '>' := by
        rintro rfl
        simp at hc
      rw [if_pos hc]
      simp only [hangle, false_and, false_or]
      tauto
    · have hfits : c ≠ '=' ∧ c ≠ ';' ∧ c ≠ '(' := by simpa only [not_or] using hc
      rw [if_neg hc]
      cases closeAngle? t with
      | some p => simp [hfits, Prod.ext_iff, eq_comm]
      | none =>
        simp only [Option.bind_eq_bind, reduceCtorEq, and_false, exists_false, or_false, and_true]
        constructor
        · intro h
          split_ifs at h with hangle
          simp only [Option.bind_eq_some_iff] at h
          obtain ⟨p, hp, q, hq, h⟩ := h
          cases h
          exact ⟨hangle, by rw [hangle], Text.names_iff.2 ⟨p, q, hp, hq, rfl⟩⟩
        · rintro ⟨rfl, rfl, hx⟩
          obtain ⟨p, q, hp, hq, rfl⟩ := Text.names_iff.1 hx
          simp [hp, hq]

lemma closeAngle?_eq_none {t : Text} (ht : '>' ∉ t) (r : Text) : closeAngle? (t ++ '(' :: r) = none := by
  induction t with
  | nil => simp [closeAngle?]
  | cons c t ih =>
    rw [List.mem_cons, not_or] at ht
    rw [List.cons_append, closeAngle?, ih ht.2]
    simp [Ne.symm ht.1]

namespace Declaration

/-- How a declaration stands at the start of a line: its type, blanks and its name. The brackets of a container reach as
far as they can, and `long long` counts as one type if a name is left. -/
inductive Spells : Declaration → Text → Prop
  | container {k b s x t : Text} : k ∈ TypeName.containers → Text.isBlankText b = true → TypeName.FitsAngles s →
      Text.Names x t → closeAngle? t = none → Spells ⟨x, k ++ b ++ '<' :: s ++ ['>']⟩ (k ++ b ++ '<' :: s ++ ['>'] ++ t)
  | long {b x t : Text} : Text.isBlankText b = true → b ≠ [] → Text.Names x t →
      Spells ⟨x, "long".toList ++ b ++ "long".toList⟩ ("long".toList ++ b ++ "long".toList ++ t)
  | scalar {w x t : Text} : Text.isWordText w = true → TypeName.isScalar w = true → Text.Names x t →
      (∀ b y r, w = "long".toList → t = b ++ "long".toList ++ r → Text.isBlankText b = true → ¬Text.Names y r) →
      Spells ⟨x, TypeName.expand w⟩ (w ++ t)

lemma ofContainer?_eq_some_iff {k t : Text} {d : Declaration} : ofContainer? t k = some d ↔
    ∃ b s r, d.type = TypeName.expand (k ++ b ++ '<' :: s ++ ['>']) ∧ t = k ++ b ++ '<' :: s ++ ['>'] ++ r ∧
      Text.isBlankText b = true ∧ TypeName.FitsAngles s ∧ Text.Names d.name r ∧ closeAngle? r = none := by
  constructor
  · intro h
    simp only [ofContainer?, Option.bind_eq_bind, Option.bind_eq_some_iff, List.isPrefixOf?_eq_some_iff_append_eq] at h
    obtain ⟨r, rfl, h⟩ := h
    split at h
    · rename_i q hq
      simp only [Option.bind_eq_some_iff, Option.some.injEq] at h
      obtain ⟨⟨s, x⟩, hs, rfl⟩ := h
      obtain ⟨u, z, rfl, rfl, hu, hx, hz⟩ := closeAngle?_eq_some_iff.1 hs
      have hr : r = r.takeWhile Text.isBlank ++ '<' :: (u ++ ['>'] ++ z) := by
        rw [← hq, Text.skipBlanks, List.takeWhile_append_dropWhile]
      refine ⟨r.takeWhile Text.isBlank, u, z, by simp, ?_, by simp [Text.isBlankText], hu, hx, hz⟩
      conv_lhs => rw [hr]
      simp
    · simp at h
  · rintro ⟨b, s, r, hd, rfl, hb, hs, hx, hr⟩
    have hangle : Text.Unblank ('<' :: (s ++ ['>'] ++ r)) := (Text.unblank_cons _ _).2 (by decide)
    have hprefix : k.isPrefixOf? (k ++ b ++ '<' :: s ++ ['>'] ++ r) = some (b ++ '<' :: (s ++ ['>'] ++ r)) :=
      List.isPrefixOf?_eq_some_iff_append_eq.2 (by simp)
    have hskip : Text.skipBlanks (b ++ '<' :: (s ++ ['>'] ++ r)) = '<' :: (s ++ ['>'] ++ r) :=
      Text.skipBlanks_blank_append hb hangle
    have hclose := closeAngle?_eq_some_iff.2 ⟨s, r, rfl, rfl, hs, hx, hr⟩
    simp only [ofContainer?, hprefix, Option.bind_eq_bind, Option.bind_some, hskip, hclose,
      Text.takeWhile_blanks hb hangle]
    rw [← List.cons_append, ← List.append_assoc, ← hd]

lemma scalarParts?_long {b r x : Text} (hb : Text.isBlankText b = true) (hn : b ≠ []) (hx : Text.Names x r) :
    scalarParts? ("long".toList ++ b ++ "long".toList ++ r) = some ("long".toList ++ b ++ "long".toList, x) := by
  have hlong : Text.isWordText "long".toList = true := by decide
  have hu := Text.unblank_append_word hlong r
  obtain ⟨p, q, hp, hq, rfl⟩ := Text.names_iff.1 hx
  simp only [scalarParts?, List.append_assoc, Text.word?_append hlong (Text.unword_append_blank hb hn _),
    Option.bind_eq_bind, Option.bind_some, Text.blanks?_append hb hn hu, Text.word?_append hlong hx.unword, hp, hq]
  rfl

lemma scalarParts?_word {w r x : Text} (hw : Text.isWordText w = true) (hx : Text.Names x r)
    (hlast : ∀ b y z, w = "long".toList → r = b ++ "long".toList ++ z → Text.isBlankText b = true → ¬Text.Names y z) :
    scalarParts? (w ++ r) = some (w, x) := by
  obtain ⟨g, z, rfl, hg, hgn, hxw, hz⟩ := id hx
  have hu := Text.unblank_append_word hxw z
  have hnone : (if w = "long".toList ∧ x = "long".toList then (Text.blanks? z).bind fun p => Text.word? p.2
      else none) = none := by
    rw [ite_eq_right_iff]
    rintro ⟨rfl, rfl⟩
    rw [Option.eq_none_iff_forall_ne_some]
    intro q hq
    obtain ⟨p, hp, hq⟩ := Option.bind_eq_some_iff.1 hq
    exact hlast g q.1 z rfl rfl hg (Text.names_iff.2 ⟨p, q, hp, hq, rfl⟩)
  simp only [scalarParts?, List.append_assoc, Text.word?_append hw (Text.unword_append_blank hg hgn _),
    Option.bind_eq_bind, Option.bind_some, Text.blanks?_append hg hgn hu, Text.word?_append hxw hz, hnone]

lemma scalarParts?_cases {t type x : Text} (h : scalarParts? t = some (type, x)) :
    (∃ b r, type = "long".toList ++ b ++ "long".toList ∧ t = type ++ r ∧ Text.isBlankText b = true ∧ b ≠ [] ∧
      Text.Names x r) ∨
    ∃ r, t = type ++ r ∧ Text.isWordText type = true ∧ Text.Names x r ∧
      ∀ b y z, type = "long".toList → r = b ++ "long".toList ++ z → Text.isBlankText b = true → ¬Text.Names y z := by
  simp only [scalarParts?, Option.bind_eq_bind, Option.bind_eq_some_iff] at h
  obtain ⟨⟨w, r₁⟩, h₁, ⟨b, r₂⟩, h₂, ⟨y, r₃⟩, h₃, h⟩ := h
  obtain ⟨rfl, hw, -⟩ := Text.word?_eq_some h₁
  obtain ⟨rfl, hb, hn, hu⟩ := Text.blanks?_eq_some h₂
  obtain ⟨rfl, hy, hr⟩ := Text.word?_eq_some h₃
  split at h
  · rename_i z r₄ hz
    cases h
    split_ifs at hz with hl
    obtain ⟨rfl, rfl⟩ := hl
    obtain ⟨p, hp, hq⟩ := Option.bind_eq_some_iff.1 hz
    exact Or.inl ⟨b, r₃, rfl, by simp, hb, hn, Text.names_iff.2 ⟨p, _, hp, hq, rfl⟩⟩
  · rename_i hnone
    obtain ⟨rfl, rfl⟩ := Prod.mk.inj (Option.some.inj h)
    refine Or.inr ⟨b ++ (y ++ r₃), by simp, hw, ⟨b, r₃, by simp, hb, hn, hy, hr⟩, ?_⟩
    rintro b' z r' rfl hbr hb' hz
    -- the name is this `long` and stands in front of `r'`, so the type would have been `long long`
    rw [← List.append_assoc] at hbr
    obtain ⟨rfl, rfl⟩ := Text.name_cancel hb hy hr hb' (by decide) hz.unword hbr
    obtain ⟨p, q, hp, hq, -⟩ := Text.names_iff.1 hz
    simp [hp, hq] at hnone

lemma word?_of_ofContainer? {k t : Text} {d : Declaration} (hk : k ∈ TypeName.containers)
    (h : ofContainer? t k = some d) : ∃ b q, Text.word? t = some (k, b ++ '<' :: q) ∧ Text.isBlankText b = true := by
  obtain ⟨b, s, r, -, rfl, hb, -⟩ := ofContainer?_eq_some_iff.1 h
  refine ⟨b, s ++ '>' :: r, ?_, hb⟩
  have hangle : Text.Unword (b ++ '<' :: (s ++ '>' :: r)) :=
    Text.unword_blank_append hb ((Text.unword_cons _ _).2 (by decide))
  simpa using Text.word?_append (TypeName.isWordText_of_mem_containers k hk) hangle

lemma findSome?_containers {k t : Text} {d : Declaration} (hk : k ∈ TypeName.containers)
    (h : ofContainer? t k = some d) : TypeName.containers.findSome? (ofContainer? t) = some d := by
  have hsome : (TypeName.containers.findSome? (ofContainer? t)).isSome = true := by
    rw [List.isSome_findSome?, List.any_eq_true]
    exact ⟨k, hk, by rw [h]; rfl⟩
  obtain ⟨d', hd'⟩ := Option.isSome_iff_exists.1 hsome
  obtain ⟨k', hk', h'⟩ := List.exists_of_findSome?_eq_some hd'
  obtain ⟨b, q, hword, -⟩ := word?_of_ofContainer? hk h
  obtain ⟨b', q', hword', -⟩ := word?_of_ofContainer? hk' h'
  obtain rfl : k = k' := congrArg Prod.fst (Option.some.inj (hword.symm.trans hword'))
  rw [hd', ← h', h]

lemma findSome?_containers_eq_none {w t x : Text} (hw : Text.isWordText w = true) (h : Text.Names x t) :
    TypeName.containers.findSome? (ofContainer? (w ++ t)) = none := by
  rw [List.findSome?_eq_none_iff]
  intro k hk
  rw [Option.eq_none_iff_forall_ne_some]
  intro d hd
  obtain ⟨b, q, hword, hb⟩ := word?_of_ofContainer? hk hd
  rw [Text.word?_append hw h.unword] at hword
  exact h.ne_angle hb (congrArg Prod.snd (Option.some.inj hword))

lemma ofScalar?_eq_some {t type x : Text} (h : scalarParts? t = some (type, x)) (hs : TypeName.isScalar type = true) :
    ofScalar? t = some ⟨x, TypeName.expand type⟩ := by
  simp only [ofScalar?, h, Option.bind_eq_bind, Option.bind_some, if_pos hs]

lemma Spells.ofText? {d : Declaration} {t : Text} (h : d.Spells t) : ofText? t = some d := by
  cases h with
  | @container k b s x r hk hb hs hx hr =>
    have hself := TypeName.IsContainer.expand_eq ⟨k, hk, b, s, rfl, hb, hs⟩
    have hread := (ofContainer?_eq_some_iff (d := ⟨x, _⟩)).2 ⟨b, s, r, hself.symm, rfl, hb, hs, hx, hr⟩
    rw [Declaration.ofText?, findSome?_containers hk hread]
    rfl
  | @long b x r hb hn hx =>
    have hlong : Text.isWordText "long".toList = true := by decide
    have hnames : Text.Names "long".toList (b ++ ("long".toList ++ r)) := ⟨b, r, by simp, hb, hn, hlong, hx.unword⟩
    have hnone := findSome?_containers_eq_none hlong hnames
    rw [← List.append_assoc, ← List.append_assoc] at hnone
    rw [Declaration.ofText?, hnone, Option.none_or,
      ofScalar?_eq_some (scalarParts?_long hb hn hx) (TypeName.isScalar_long hb hn),
      TypeName.expand_of_not_word (TypeName.isWordText_long hb hn)]
  | @scalar w x r hw hs hx hlast =>
    have hparts := scalarParts?_word hw hx hlast
    rw [Declaration.ofText?, findSome?_containers_eq_none hw hx, Option.none_or, ofScalar?_eq_some hparts hs]

lemma ofText?_eq_some_iff {d : Declaration} {t : Text} : ofText? t = some d ↔ d.Spells t := by
  refine ⟨fun h => ?_, Spells.ofText?⟩
  rw [ofText?, Option.or_eq_some_iff] at h
  rcases h with h | ⟨-, h⟩
  · obtain ⟨k, hk, hd⟩ := List.exists_of_findSome?_eq_some h
    obtain ⟨b, s, r, htype, rfl, hb, hs, hx, hr⟩ := ofContainer?_eq_some_iff.1 hd
    rw [TypeName.IsContainer.expand_eq ⟨k, hk, b, s, rfl, hb, hs⟩] at htype
    obtain ⟨x, type⟩ := d
    obtain rfl : type = _ := htype
    exact .container hk hb hs hx hr
  · simp only [ofScalar?, Option.bind_eq_bind, Option.bind_eq_some_iff] at h
    obtain ⟨⟨type, x⟩, hp, h⟩ := h
    split_ifs at h with hscalar
    cases h
    rcases scalarParts?_cases hp with ⟨b, r, rfl, rfl, hb, hn, hx⟩ | ⟨r, rfl, hw, hx, hlast⟩
    · rw [TypeName.expand_of_not_word (TypeName.isWordText_long hb hn)]
      exact .long hb hn hx
    · exact .scalar hw hscalar hx hlast

lemma ofText?_of_unword {t : Text} (h : Text.Unword t) : ofText? t = none := by
  rw [Option.eq_none_iff_forall_ne_some]
  intro d hd
  cases ofText?_eq_some_iff.1 hd with
  | container hk =>
    simp only [List.append_assoc] at h
    exact Text.not_unword_append (TypeName.isWordText_of_mem_containers _ hk) _ h
  | long =>
    simp only [List.append_assoc] at h
    exact Text.not_unword_append (by decide) _ h
  | scalar hw => exact Text.not_unword_append hw _ h

lemma ofText?_of_not_scalar {w x t : Text} (hw : Text.isWordText w = true) (hs : TypeName.isScalar w = false)
    (hx : Text.Names x t) : ofText? (w ++ t) = none := by
  rw [ofText?, findSome?_containers_eq_none hw hx, Option.none_or, Option.eq_none_iff_forall_ne_some]
  intro d hd
  simp only [ofScalar?, Option.bind_eq_bind, Option.bind_eq_some_iff] at hd
  obtain ⟨⟨type, y⟩, hp, hd⟩ := hd
  split_ifs at hd with hscalar
  rcases scalarParts?_cases hp with ⟨b, r, rfl, ht, hb, hn, -⟩ | ⟨r, ht, htype, hy, -⟩
  · rw [List.append_assoc, List.append_assoc] at ht
    have hlong := (Text.name_cancel (g := []) (b := []) rfl hw hx.unword rfl (y := "long".toList) (by decide)
      (Text.unword_append_blank hb hn _) ht).1
    rw [hlong] at hs
    revert hs
    decide +kernel
  · rw [(Text.name_cancel (g := []) (b := []) rfl hw hx.unword rfl htype hy.unword ht).1, hscalar] at hs
    simp at hs

lemma Spells.isWordText_name {d : Declaration} {t : Text} (h : d.Spells t) : Text.isWordText d.name = true := by
  cases h with
  | container _ _ _ hx => exact hx.isWordText
  | long _ _ hx => exact hx.isWordText
  | scalar _ _ hx => exact hx.isWordText

def WritesLong (b x t : Text) : Prop :=
  ∃ r, t = "long".toList ++ b ++ "long".toList ++ r ∧ Text.isBlankText b = true ∧ b ≠ [] ∧ Text.Names x r

lemma WritesLong.ofText? {b x t : Text} (h : WritesLong b x t) :
    ofText? t = some ⟨x, "long".toList ++ b ++ "long".toList⟩ := by
  obtain ⟨r, rfl, hb, hn, hx⟩ := h
  exact Spells.ofText? (.long hb hn hx)

lemma Spells.type_cases {d : Declaration} {t : Text} (h : d.Spells t) : TypeName.IsCanonical d.type ∨
    ∃ b, WritesLong b d.name t ∧ d.type = "long".toList ++ b ++ "long".toList := by
  cases h with
  | container hk hb hs => exact Or.inl (Or.inl ⟨_, hk, _, _, rfl, hb, hs⟩)
  | long hb hn hx => exact Or.inr ⟨_, ⟨_, rfl, hb, hn, hx⟩, rfl⟩
  | scalar hw hs => exact Or.inl (TypeName.isCanonical_expand ((TypeName.isScalar_word hw).1 hs))

lemma Spells.expansion?_type {d : Declaration} {t : Text} (h : d.Spells t) : TypeName.expansion? d.type = none := by
  rcases h.type_cases with (hcontainer | hbasic | hlong) | ⟨b, ⟨r, -, hb, hn, -⟩, htype⟩
  · exact TypeName.expansion?_eq_none hcontainer.isWordText_eq_false
  · exact (TypeName.expansion?_of_basic _ hbasic).2
  · rw [hlong]
    exact TypeName.expansion?_eq_none (TypeName.not_word_of_mem (c := ' ') (by decide) (by decide))
  · rw [htype]
    exact TypeName.expansion?_eq_none (TypeName.isWordText_long hb hn)

end Declaration

namespace Scope

lemma ofLines_append (A B : List Text) : ofLines (A ++ B) = ofLines B ++ ofLines A := by
  rw [ofLines, List.filterMap_append, List.reverse_append]
  rfl

lemma ofLines_cons (l : Text) (ls : List Text) :
    ofLines (l :: ls) = ofLines ls ++ (Declaration.ofText? (Text.trim l)).toList := by
  rw [← List.singleton_append, ofLines_append]
  congr 1
  rw [ofLines, List.filterMap_cons]
  cases Declaration.ofText? (Text.trim l) <;> rfl

lemma typeOf?_append (s r : Scope) (x : Text) : (s ++ r).typeOf? x = (s.typeOf? x).or (r.typeOf? x) := by
  rw [typeOf?, List.find?_append, Option.map_or]
  rfl

lemma mem_entries_iff {s : Scope} {x t : Text} : (x, t) ∈ s.entries ↔ s.typeOf? x = some t := by
  rw [entries, List.mem_filterMap]
  constructor
  · rintro ⟨y, -, h⟩
    obtain ⟨t, ht, heq⟩ := Option.map_eq_some_iff.1 h
    cases heq
    exact ht
  · intro h
    refine ⟨x, ?_, by rw [h]; rfl⟩
    obtain ⟨d, hd, -⟩ := Option.map_eq_some_iff.1 h
    have hname : d.name = x := by simpa using List.find?_some hd
    rw [names, Text.sort, List.mem_mergeSort, List.mem_eraseDups, ← hname]
    exact List.mem_map_of_mem (List.mem_of_find?_eq_some hd)

lemma typeOf?_eq_none_iff {ls : List Text} {x : Text} : (ofLines ls).typeOf? x = none ↔
    ∀ l ∈ ls, ∀ d, Declaration.ofText? (Text.trim l) = some d → d.name ≠ x := by
  rw [typeOf?, Option.map_eq_none_iff, List.find?_eq_none]
  simp only [ofLines, List.mem_reverse, List.mem_filterMap, beq_iff_eq]
  constructor
  · intro h l hl d hd
    exact h d ⟨l, hl, hd⟩
  · rintro h d ⟨l, hl, hd⟩
    exact h l hl d hd

lemma typeOf?_toList {o : Option Declaration} {x t : Text} (h : typeOf? o.toList x = some t) : o = some ⟨x, t⟩ := by
  obtain ⟨d, hd, rfl⟩ := Option.map_eq_some_iff.1 h
  have hname : d.name = x := by simpa using List.find?_some hd
  rw [Option.mem_def.1 (Option.mem_toList.1 (List.mem_of_find?_eq_some hd)), ← hname]

lemma exists_of_typeOf?_ofLines {ls : List Text} {x t : Text} (h : (ofLines ls).typeOf? x = some t) :
    ∃ A l R, ls = A ++ l :: R ∧ Declaration.ofText? (Text.trim l) = some ⟨x, t⟩ ∧
      ∀ k ∈ R, ∀ d, Declaration.ofText? (Text.trim k) = some d → d.name ≠ x := by
  induction ls with
  | nil => simp [ofLines, typeOf?] at h
  | cons l ls ih =>
    rw [ofLines_cons, typeOf?_append, Option.or_eq_some_iff] at h
    rcases h with h | ⟨hnone, h⟩
    · obtain ⟨A, k, R, rfl, hk⟩ := ih h
      exact ⟨l :: A, k, R, rfl, hk⟩
    · exact ⟨[], l, ls, rfl, typeOf?_toList h, typeOf?_eq_none_iff.1 hnone⟩

/-- A variable has a word for its name, and its type is no abbreviation and stands for itself. The type is canonical
unless the last line that declares the variable writes `long` and `long` with other blanks than one space between them,
which are kept. -/
theorem recorded_type_canonical_iff (ls : List Text) {x t : Text} (h : (x, t) ∈ (ofLines ls).entries) :
    Text.isWordText x = true ∧ TypeName.isAbbreviation t = false ∧ TypeName.expand t = t ∧
    ∃ A l R, ls = A ++ l :: R ∧ Declaration.ofText? (Text.trim l) = some ⟨x, t⟩ ∧
      (∀ k ∈ R, ∀ d, Declaration.ofText? (Text.trim k) = some d → d.name ≠ x) ∧
      (∀ b, Declaration.WritesLong b x (Text.trim l) → t = "long".toList ++ b ++ "long".toList) ∧
      (TypeName.IsCanonical t ↔ ∀ b, Declaration.WritesLong b x (Text.trim l) → b = [' ']) := by
  obtain ⟨A, l, R, hls, hl, hlast⟩ := exists_of_typeOf?_ofLines (mem_entries_iff.1 h)
  have hspells := Declaration.ofText?_eq_some_iff.1 hl
  have hnone := hspells.expansion?_type
  have hlong : ∀ b, Declaration.WritesLong b x (Text.trim l) → t = "long".toList ++ b ++ "long".toList := by
    intro b hb
    have hread := hb.ofText?
    rw [hl, Option.some.injEq, Declaration.mk.injEq] at hread
    exact hread.2
  refine ⟨hspells.isWordText_name, ?_, ?_, A, l, R, hls, hl, hlast, hlong, fun hc b hb => ?_, fun hb => ?_⟩
  · rw [TypeName.isAbbreviation, hnone]
    rfl
  · rw [TypeName.expand, hnone]
    rfl
  · rw [hlong b hb] at hc
    obtain ⟨-, -, hblank, hn, -⟩ := hb
    exact (TypeName.isCanonical_long_iff hblank hn).1 hc
  · rcases hspells.type_cases with hc | ⟨b, hwrites, htype⟩
    · exact hc
    · rw [hb b hwrites] at htype
      exact Or.inr (Or.inr htype)

theorem recorded_type_canonical_of_redeclared :
    let ls := ["long\t long sum = 0;".toList, "map <int, vector<ll> > m (n);".toList, " long long sum;".toList]
    ("sum".toList, "long long".toList) ∈ (ofLines ls).entries ∧ TypeName.IsCanonical "long long".toList ∧
      ("m".toList, "map <int, vector<ll> >".toList) ∈ (ofLines ls).entries ∧
      TypeName.expand "map <int, vector<ll> >".toList = "map <int, vector<ll> >".toList := by
  intro ls
  have hsum : ("sum".toList, "long long".toList) ∈ (ofLines ls).entries := mem_entries_iff.2 (by decide +kernel)
  have hm : ("m".toList, "map <int, vector<ll> >".toList) ∈ (ofLines ls).entries :=
    mem_entries_iff.2 (by decide +kernel)
  obtain ⟨-, -, -, A, l, R, -, -, -, hlong, hcanonical⟩ := recorded_type_canonical_iff ls hsum
  refine ⟨hsum, hcanonical.2 fun b hb => ?_, hm, (recorded_type_canonical_iff ls hm).2.2.1⟩
  have htype : "long".toList ++ [' '] ++ "long".toList = "long".toList ++ b ++ "long".toList := hlong b hb
  exact (List.append_cancel_left (List.append_cancel_right htype)).symm

theorem long_long_keeps_blanks :
    let ls := ["long  long x;".toList]
    ("x".toList, "long  long".toList) ∈ (ofLines ls).entries ∧ (∀ l ∈ ls, '\n' ∉ l) ∧
      ¬TypeName.IsCanonical "long  long".toList := by
  intro ls
  refine ⟨mem_entries_iff.2 (by decide +kernel), by decide, fun hc => ?_⟩
  have hblanks := (TypeName.isCanonical_long_iff (b := "  ".toList) (by decide) (by decide)).1 hc
  revert hblanks
  decide

end Scope

end CallStubs
