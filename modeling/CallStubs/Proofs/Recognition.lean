import CallStubs.Placement
import CallStubs.Call
import CallStubs.Proofs.LineEditing

/-! Words, blanks and the shapes of lines: what the recognisers accept, said by how a text is put together. -/

namespace CallStubs

namespace Text

lemma isBlank_of_isWord {c : Char} (h : isWord c = true) : isBlank c = false := by
  have hn : 0x30 ≤ c.toNat ∧ c.toNat ≤ 0x7A := by
    delta isWord Char.isAlphanum Char.isAlpha Char.isUpper Char.isLower Char.isDigit at h
    simp only [Bool.or_eq_true, Bool.and_eq_true, decide_eq_true_eq, beq_iff_eq, ge_iff_le,
      UInt32.le_iff_toNat_le] at h
    rcases h with ((h | h) | h) | rfl
    · exact ⟨le_trans (by decide) h.1, le_trans h.2 (by decide)⟩
    · exact ⟨le_trans (by decide) h.1, h.2⟩
    · exact ⟨h.1, le_trans h.2 (by decide)⟩
    · decide
  simp only [isBlank, Bool.or_eq_false_iff, Bool.and_eq_false_iff, decide_eq_false_iff_not, beq_eq_false_iff_ne]
  omega

lemma isWordText_iff {w : Text} : isWordText w = true ↔ w ≠ [] ∧ ∀ c ∈ w, isWord c = true := by
  simp [isWordText]

lemma feedless_of_word {w : Text} (h : isWordText w = true) : '\n' ∉ w := by
  intro hm
  have hw := (isWordText_iff.1 h).2 _ hm
  revert hw
  decide

lemma isBlankText_iff {b : Text} : isBlankText b = true ↔ ∀ c ∈ b, isBlank c = true := by
  simp [isBlankText]

@[simp] lemma isBlankText_nil : isBlankText [] = true := rfl

@[simp] lemma isBlankText_cons (c : Char) (b : Text) :
    isBlankText (c :: b) = (isBlank c && isBlankText b) := rfl

def Unblank (t : Text) : Prop :=
  ∀ c ∈ t.head?, isBlank c = false

def Unword (t : Text) : Prop :=
  ∀ c ∈ t.head?, isWord c = false

@[simp] lemma unblank_cons (c : Char) (t : Text) : Unblank (c :: t) ↔ isBlank c = false := by simp [Unblank]

@[simp] lemma unword_cons (c : Char) (t : Text) : Unword (c :: t) ↔ isWord c = false := by simp [Unword]

lemma unword_append_blank {b : Text} (hb : isBlankText b = true) (hn : b ≠ []) (t : Text) :
    Unword (b ++ t) := by
  obtain ⟨c, b, rfl⟩ := List.exists_cons_of_ne_nil hn
  simp only [isBlankText_cons, Bool.and_eq_true] at hb
  rw [List.cons_append, unword_cons, ← Bool.not_eq_true]
  intro hw
  simp [isBlank_of_isWord hw] at hb

lemma unword_blank_append {b t : Text} (hb : isBlankText b = true) (ht : Unword t) : Unword (b ++ t) := by
  by_cases hn : b = []
  · rwa [hn, List.nil_append]
  · exact unword_append_blank hb hn t

lemma unblank_append_word {w : Text} (hw : isWordText w = true) (t : Text) : Unblank (w ++ t) := by
  obtain ⟨hn, hw⟩ := isWordText_iff.1 hw
  obtain ⟨c, w, rfl⟩ := List.exists_cons_of_ne_nil hn
  exact (unblank_cons c _).2 (isBlank_of_isWord (hw c List.mem_cons_self))

lemma skipBlanks_append {b : Text} (hb : isBlankText b = true) (t : Text) :
    skipBlanks (b ++ t) = skipBlanks t :=
  List.dropWhile_append_of_pos (isBlankText_iff.1 hb)

lemma skipBlanks_of_unblank {t : Text} (h : Unblank t) : skipBlanks t = t := by
  cases t with
  | nil => rfl
  | cons c t => simp [skipBlanks, (unblank_cons c t).1 h]

lemma skipBlanks_blank_append {b t : Text} (hb : isBlankText b = true) (ht : Unblank t) : skipBlanks (b ++ t) = t := by
  rw [skipBlanks_append hb, skipBlanks_of_unblank ht]

lemma unblank_skipBlanks (t : Text) : Unblank (skipBlanks t) := by
  induction t with
  | nil => simp [Unblank, skipBlanks]
  | cons c t ih =>
    by_cases hc : isBlank c = true
    · simpa [skipBlanks, hc] using ih
    · simp [skipBlanks, Unblank, hc]

lemma exists_append_skipBlanks (t : Text) : ∃ b, isBlankText b = true ∧ t = b ++ skipBlanks t :=
  ⟨t.takeWhile isBlank, by simp [isBlankText], List.takeWhile_append_dropWhile.symm⟩

lemma word?_append {w r : Text} (hw : isWordText w = true) (hr : Unword r) : word? (w ++ r) = some (w, r) := by
  obtain ⟨hn, hw⟩ := isWordText_iff.1 hw
  have ht : r.takeWhile isWord = [] ∧ r.dropWhile isWord = r := by
    cases r with
    | nil => simp
    | cons c r => simp [(unword_cons c r).1 hr]
  obtain ⟨c, w, rfl⟩ := List.exists_cons_of_ne_nil hn
  simp only [word?, List.takeWhile_append_of_pos hw, List.dropWhile_append_of_pos hw, ht, List.append_nil]

lemma word?_eq_some {t w r : Text} (h : word? t = some (w, r)) : t = w ++ r ∧ isWordText w = true ∧ Unword r := by
  unfold word? at h
  split at h
  · simp at h
  · rename_i c v hv
    simp only [Option.some.injEq, Prod.mk.injEq] at h
    obtain ⟨rfl, rfl⟩ := h
    refine ⟨?_, ?_, ?_⟩
    · rw [← hv, List.takeWhile_append_dropWhile]
    · rw [isWordText_iff, ← hv]
      exact ⟨by simp [hv], List.all_eq_true.1 List.all_takeWhile⟩
    · intro x hx
      have := List.head?_dropWhile_not isWord t
      simp_all

lemma word?_eq_none {t : Text} (h : Unword t) : word? t = none := by
  cases t with
  | nil => rfl
  | cons c t => simp [word?, (unword_cons c t).1 h]

lemma blanks?_append {b r : Text} (hb : isBlankText b = true) (hn : b ≠ []) (hr : Unblank r) :
    blanks? (b ++ r) = some (b, r) := by
  have hb := isBlankText_iff.1 hb
  have ht : r.takeWhile isBlank = [] ∧ r.dropWhile isBlank = r := by
    cases r with
    | nil => simp
    | cons c r => simp [(unblank_cons c r).1 hr]
  obtain ⟨c, b, rfl⟩ := List.exists_cons_of_ne_nil hn
  simp only [blanks?, List.takeWhile_append_of_pos hb, List.dropWhile_append_of_pos hb, ht, List.append_nil]

lemma blanks?_eq_some {t b r : Text} (h : blanks? t = some (b, r)) :
    t = b ++ r ∧ isBlankText b = true ∧ b ≠ [] ∧ Unblank r := by
  unfold blanks? at h
  split at h
  · simp at h
  · rename_i c v hv
    simp only [Option.some.injEq, Prod.mk.injEq] at h
    obtain ⟨rfl, rfl⟩ := h
    refine ⟨?_, ?_, by simp, unblank_skipBlanks t⟩
    · rw [← hv, List.takeWhile_append_dropWhile]
    · rw [← hv]
      simp [isBlankText]

lemma blanks?_eq_none {t : Text} (h : Unblank t) : blanks? t = none := by
  cases t with
  | nil => rfl
  | cons c t => simp [blanks?, (unblank_cons c t).1 h]

lemma trimEnd_append_blank {b : Text} (hb : isBlankText b = true) (t : Text) : trimEnd (t ++ b) = trimEnd t := by
  have hb : ∀ c ∈ b.reverse, isBlank c = true := fun c hc => isBlankText_iff.1 hb c (List.mem_reverse.1 hc)
  simp [trimEnd, List.dropWhile_append_of_pos hb]

lemma trim_blank_append {a : Text} (ha : isBlankText a = true) (t : Text) : trim (a ++ t) = trim t := by
  rw [trim, skipBlanks_append ha, trim]

lemma trim_append_blank {b : Text} (hb : isBlankText b = true) (t : Text) : trim (t ++ b) = trim t := by
  obtain ⟨a, ha, ht⟩ := exists_append_skipBlanks t
  cases hs : skipBlanks t with
  | nil =>
    have hab : isBlankText (a ++ b) = true := by simp_all [isBlankText]
    have hsb : skipBlanks (t ++ b) = [] := by
      rw [ht, hs, List.append_nil, ← List.append_nil (a ++ b), skipBlanks_append hab]
      rfl
    simp [trim, hs, hsb]
  | cons c r =>
    have hu : Unblank (c :: r ++ b) := by
      simpa [hs] using unblank_skipBlanks t
    rw [trim, trim, ht, hs, List.append_assoc, skipBlanks_append ha, skipBlanks_append ha,
      skipBlanks_of_unblank hu, skipBlanks_of_unblank (by simpa using hu), trimEnd_append_blank hb]

lemma trim_of_ends {t : Text} {c : Char} (ht : Unblank (t ++ [c])) (hc : isBlank c = false) :
    trim (t ++ [c]) = t ++ [c] := by
  simp [trim, skipBlanks_of_unblank ht, trimEnd, hc]

lemma trim_subset (t : Text) : trim t ⊆ t := by
  intro c hc
  have hd := (List.dropWhile_suffix (l := (skipBlanks t).reverse) isBlank).subset (List.mem_reverse.1 hc)
  exact (List.dropWhile_suffix (l := t) isBlank).subset (List.mem_reverse.1 hd)

lemma exists_trim (t : Text) :
    ∃ a b, isBlankText a = true ∧ isBlankText b = true ∧ t = a ++ trim t ++ b := by
  obtain ⟨a, ha, ht⟩ := exists_append_skipBlanks t
  refine ⟨a, ((skipBlanks t).reverse.takeWhile isBlank).reverse, ha, by simp [isBlankText], ?_⟩
  have hs : skipBlanks t = trim t ++ ((skipBlanks t).reverse.takeWhile isBlank).reverse := by
    rw [trim, trimEnd, ← List.reverse_append, List.takeWhile_append_dropWhile, List.reverse_reverse]
  rw [List.append_assoc, ← hs]
  exact ht

lemma mem_trim_of_mem {t : Text} {c : Char} (h : c ∈ t) (hc : isBlank c = false) : c ∈ trim t := by
  obtain ⟨a, b, ha, hb, ht⟩ := exists_trim t
  rw [ht, List.mem_append, List.mem_append] at h
  rcases h with (h | h) | h
  · simp [isBlankText_iff.1 ha c h] at hc
  · exact h
  · simp [isBlankText_iff.1 hb c h] at hc

lemma mem_concatSep {c : Char} {sep : Text} {ts : List Text} (h : c ∈ concatSep sep ts) :
    c ∈ sep ∨ ∃ t ∈ ts, c ∈ t := by
  induction ts with
  | nil => simp [concatSep] at h
  | cons t ts ih =>
    cases ts with
    | nil => exact Or.inr ⟨t, List.mem_singleton_self t, by simpa [concatSep] using h⟩
    | cons u us =>
      rw [concatSep, List.intercalate_cons_cons, List.mem_append, List.mem_append] at h
      rcases h with (h | h) | h
      · exact Or.inr ⟨t, List.mem_cons_self, h⟩
      · exact Or.inl h
      · rcases ih h with h | ⟨x, hx, hc⟩
        · exact Or.inl h
        · exact Or.inr ⟨x, List.mem_cons_of_mem _ hx, hc⟩

lemma trim_dropReturn (l : Text) : trim (dropReturn l) = trim l := by
  rcases dropReturn_eq l with h | h
  · rw [h]
  · conv_rhs => rw [h, trim_append_blank (by decide)]

end Text

lemma mem_dropReturn {c : Char} (hc : c ≠ '\r') (l : Text) : c ∈ dropReturn l ↔ c ∈ l := by
  rcases dropReturn_eq l with h | h
  · rw [h]
  · conv_rhs => rw [h]
    simp [hc]

namespace Signature

/-- The line pattern of a definition of `name`: blanks, one word, blanks, the name, and parentheses on one
line with an opening brace behind them. -/
def Defines (name t : Text) : Prop :=
  ∃ a w b d m e z, t = a ++ w ++ b ++ name ++ d ++ '(' :: m ++ ')' :: e ++ '{' :: z ∧
    Text.isBlankText a = true ∧ Text.isWordText w = true ∧ Text.isBlankText b = true ∧ b ≠ [] ∧
    Text.isBlankText d = true ∧ '\n' ∉ m ∧ Text.isBlankText e = true

lemma opensBody_iff {t : Text} : opensBody t = true ↔
    ∃ m e z, t = m ++ ')' :: e ++ '{' :: z ∧ '\n' ∉ m ∧ Text.isBlankText e = true := by
  constructor
  · intro h
    induction t with
    | nil => simp [opensBody] at h
    | cons c t ih =>
      simp only [opensBody, Bool.or_eq_true, Bool.and_eq_true, beq_iff_eq, bne_iff_ne] at h
      rcases h with ⟨rfl, h⟩ | ⟨hc, h⟩
      · obtain ⟨e, he, ht⟩ := Text.exists_append_skipBlanks t
        obtain ⟨z, hz⟩ := List.head?_eq_some_iff.1 h
        exact ⟨[], e, z, by rw [ht, hz]; simp, by simp, he⟩
      · obtain ⟨m, e, z, rfl, hm, he⟩ := ih h
        exact ⟨c :: m, e, z, rfl, by simp [hm, Ne.symm hc], he⟩
  · rintro ⟨m, e, z, rfl, hm, he⟩
    induction m with
    | nil =>
      have hs : Text.skipBlanks (e ++ '{' :: z) = '{' :: z :=
        Text.skipBlanks_blank_append he ((Text.unblank_cons _ _).2 (by decide))
      simp [opensBody, hs]
    | cons c m ih =>
      simp only [List.mem_cons, not_or] at hm
      have hr := ih hm.2
      simp [opensBody, Ne.symm hm.1]
      exact Or.inr (by simpa using hr)

lemma opensBodyOf_iff {name t : Text} : opensBodyOf name t = true ↔
    ∃ d m e z, t = name ++ d ++ '(' :: m ++ ')' :: e ++ '{' :: z ∧
      Text.isBlankText d = true ∧ '\n' ∉ m ∧ Text.isBlankText e = true := by
  unfold opensBodyOf
  constructor
  · intro h
    split at h
    · rename_i r hr
      rw [List.isPrefixOf?_eq_some_iff_append_eq] at hr
      subst hr
      obtain ⟨d, hd, ht⟩ := Text.exists_append_skipBlanks r
      split at h
      · rename_i q hq
        obtain ⟨m, e, z, rfl, hm, he⟩ := opensBody_iff.1 h
        exact ⟨d, m, e, z, by rw [ht, hq]; simp, hd, hm, he⟩
      · simp at h
    · simp at h
  · rintro ⟨d, m, e, z, rfl, hd, hm, he⟩
    have hp : name.isPrefixOf? (name ++ d ++ '(' :: m ++ ')' :: e ++ '{' :: z) =
        some (d ++ '(' :: (m ++ ')' :: e ++ '{' :: z)) := by
      rw [List.isPrefixOf?_eq_some_iff_append_eq]
      simp
    have hs : Text.skipBlanks (d ++ '(' :: (m ++ ')' :: e ++ '{' :: z)) = '(' :: (m ++ ')' :: e ++ '{' :: z) :=
      Text.skipBlanks_blank_append hd ((Text.unblank_cons _ _).2 (by decide))
    rw [hp]
    simp only [hs]
    exact opensBody_iff.2 ⟨m, e, z, rfl, hm, he⟩

lemma namesAfterBlanks_iff {name t : Text} : namesAfterBlanks name t = true ↔
    ∃ b r, t = b ++ r ∧ Text.isBlankText b = true ∧ b ≠ [] ∧ opensBodyOf name r = true := by
  induction t with
  | nil =>
    constructor
    · simp [namesAfterBlanks]
    · rintro ⟨b, r, h, -, hn, -⟩
      exact absurd (List.append_eq_nil_iff.1 h.symm).1 hn
  | cons c t ih =>
    simp only [namesAfterBlanks, Bool.and_eq_true, Bool.or_eq_true]
    constructor
    · rintro ⟨hc, h | h⟩
      · exact ⟨[c], t, rfl, by simp [hc], by simp, h⟩
      · obtain ⟨b, r, rfl, hb, -, hr⟩ := ih.1 h
        exact ⟨c :: b, r, rfl, by simp [hc, hb], by simp, hr⟩
    · rintro ⟨b, r, h, hb, hn, hr⟩
      obtain ⟨d, b, rfl⟩ := List.exists_cons_of_ne_nil hn
      simp only [List.cons_append, List.cons.injEq] at h
      obtain ⟨rfl, rfl⟩ := h
      simp only [Text.isBlankText_cons, Bool.and_eq_true] at hb
      refine ⟨hb.1, ?_⟩
      by_cases hn : b = []
      · exact Or.inl (by simpa [hn] using hr)
      · exact Or.inr (ih.2 ⟨b, r, rfl, hb.2, hn, hr⟩)

lemma defines_iff {name t : Text} : defines name t = true ↔ Defines name t := by
  unfold defines
  constructor
  · intro h
    obtain ⟨a, ha, ht⟩ := Text.exists_append_skipBlanks t
    split at h
    · rename_i w r hr
      obtain ⟨hs, hw, -⟩ := Text.word?_eq_some hr
      obtain ⟨b, q, rfl, hb, hn, hq⟩ := namesAfterBlanks_iff.1 h
      obtain ⟨d, m, e, z, rfl, hd, hm, he⟩ := opensBodyOf_iff.1 hq
      exact ⟨a, w, b, d, m, e, z, by rw [ht, hs]; simp, ha, hw, hb, hn, hd, hm, he⟩
    · simp at h
  · rintro ⟨a, w, b, d, m, e, z, rfl, ha, hw, hb, hn, hd, hm, he⟩
    have ho : opensBodyOf name (name ++ d ++ '(' :: m ++ ')' :: e ++ '{' :: z) = true :=
      opensBodyOf_iff.2 ⟨d, m, e, z, rfl, hd, hm, he⟩
    have hs : Text.word? (Text.skipBlanks (a ++ w ++ b ++ name ++ d ++ '(' :: m ++ ')' :: e ++ '{' :: z)) =
        some (w, b ++ (name ++ d ++ '(' :: m ++ ')' :: e ++ '{' :: z)) := by
      simp only [List.append_assoc]
      rw [Text.skipBlanks_blank_append ha (Text.unblank_append_word hw _),
        Text.word?_append hw (Text.unword_append_blank hb hn _)]
    rw [hs]
    exact namesAfterBlanks_iff.2 ⟨b, _, rfl, hb, hn, ho⟩

lemma Defines.append {name t : Text} (h : Defines name t) (u : Text) : Defines name (t ++ u) := by
  obtain ⟨a, w, b, d, m, e, z, rfl, hr⟩ := h
  exact ⟨a, w, b, d, m, e, z ++ u, by simp, hr⟩

lemma Defines.of_append_return {name t : Text} (h : Defines name (t ++ ['\r'])) : Defines name t := by
  obtain ⟨a, w, b, d, m, e, z, ht, hr⟩ := h
  rcases List.eq_nil_or_concat z with rfl | ⟨z, c, rfl⟩
  · have hl := List.append_inj_right' ht rfl
    simp at hl
  · have hl : t ++ ['\r'] = a ++ w ++ b ++ name ++ d ++ '(' :: m ++ ')' :: e ++ '{' :: z ++ [c] := by
      rw [ht]
      simp
    exact ⟨a, w, b, d, m, e, z, List.append_inj_left' hl rfl, hr⟩

@[simp] lemma defines_dropReturn (name l : Text) : defines name (dropReturn l) = defines name l := by
  rcases dropReturn_eq l with h | h
  · rw [h]
  · conv_rhs => rw [h]
    rw [Bool.eq_iff_iff, defines_iff, defines_iff]
    exact ⟨fun hd => hd.append _, Defines.of_append_return⟩

lemma Defines.paren_mem {name t : Text} (h : Defines name t) : '(' ∈ t := by
  obtain ⟨a, w, b, d, m, e, z, rfl, -⟩ := h
  simp

def named? (t : Text) : Option (Text × Text) := do
  let (_, r) ← Text.word? (Text.skipBlanks t)
  let (_, r) ← Text.blanks? r
  Text.word? r

lemma named?_append {a w b f r : Text} (ha : Text.isBlankText a = true) (hw : Text.isWordText w = true)
    (hb : Text.isBlankText b = true) (hn : b ≠ []) (hf : Text.isWordText f = true) (hr : Text.Unword r) :
    named? (a ++ w ++ b ++ f ++ r) = some (f, r) := by
  unfold named?
  simp only [List.append_assoc]
  rw [Text.skipBlanks_blank_append ha (Text.unblank_append_word hw _),
    Text.word?_append hw (Text.unword_append_blank hb hn _)]
  simp only [Option.bind_eq_bind, Option.bind_some]
  rw [Text.blanks?_append hb hn (Text.unblank_append_word hf _)]
  exact Text.word?_append hf hr

lemma named?_angle {k b : Text} (hk : Text.isWordText k = true) (hb : Text.isBlankText b = true) (r : Text) :
    named? (k ++ b ++ '<' :: r) = none := by
  have ha : Text.Unblank ('<' :: r) ∧ Text.Unword ('<' :: r) := by
    rw [Text.unblank_cons, Text.unword_cons]
    decide
  unfold named?
  rw [List.append_assoc, Text.skipBlanks_of_unblank (Text.unblank_append_word hk _)]
  by_cases hn : b = []
  · rw [hn, List.nil_append, Text.word?_append hk ha.2]
    simp only [Option.bind_eq_bind, Option.bind_some, Text.blanks?_eq_none ha.1]
    rfl
  · rw [Text.word?_append hk (Text.unword_append_blank hb hn _)]
    simp only [Option.bind_eq_bind, Option.bind_some, Text.blanks?_append hb hn ha.1, Text.word?_eq_none ha.2]

lemma Defines.named {f t : Text} (hf : Text.isWordText f = true) (h : Defines f t) :
    ∃ r q, named? t = some (f, r) ∧ Text.skipBlanks r = '(' :: q := by
  obtain ⟨a, w, b, d, m, e, z, rfl, ha, hw, hb, hn, hd, -, -⟩ := h
  have hs : Text.skipBlanks (d ++ '(' :: (m ++ ')' :: (e ++ '{' :: z))) = '(' :: (m ++ ')' :: (e ++ '{' :: z)) :=
    Text.skipBlanks_blank_append hd ((Text.unblank_cons _ _).2 (by decide))
  have hu : Text.Unword (d ++ '(' :: (m ++ ')' :: (e ++ '{' :: z))) :=
    Text.unword_blank_append hd ((Text.unword_cons _ _).2 (by decide))
  refine ⟨_, _, ?_, hs⟩
  rw [← named?_append ha hw hb hn hf hu]
  simp

lemma Defines.unique {f g t : Text} (hf : Text.isWordText f = true) (hg : Text.isWordText g = true)
    (h : Defines f t) (h' : Defines g t) : f = g := by
  obtain ⟨r, q, hr, -⟩ := h.named hf
  obtain ⟨r', q', hr', -⟩ := h'.named hg
  rw [hr] at hr'
  exact (Prod.mk.inj (Option.some.inj hr')).1

lemma endsHead_mem {t : Text} {c : Char} (h : endsHead t = true) (hc : c ∈ t) :
    Text.isBlank c = true ∨ c = '{' := by
  obtain ⟨b, hb, ht⟩ := Text.exists_append_skipBlanks t
  rw [ht, List.mem_append] at hc
  rcases hc with hc | hc
  · exact Or.inl (Text.isBlankText_iff.1 hb c hc)
  · unfold endsHead at h
    split at h
    · rename_i q hq
      rw [hq, List.mem_cons] at hc
      exact hc.symm.imp_left (Text.isBlankText_iff.1 h c)
    · rw [List.isEmpty_iff.1 h] at hc
      simp at hc

lemma closesHead_getLast {t : Text} (h : closesHead t = true) : t ≠ [] ∧ t.getLast? ≠ some ';' := by
  unfold closesHead at h
  split at h
  · rename_i r hr
    have ht : t = t.takeWhile (· != ')') ++ ')' :: r := by rw [← hr, List.takeWhile_append_dropWhile]
    rw [ht]
    refine ⟨by simp, fun hl => ?_⟩
    rw [List.getLast?_append_cons] at hl
    rcases List.mem_cons.1 (List.mem_of_getLast? hl) with he | he
    · simp at he
    · exact absurd (endsHead_mem h he) (by decide)
  · simp at h

lemma opening?_eq_some_iff {t m : Text} : opening? t = some m ↔
    ∃ w b f d, t = w ++ b ++ f ++ d ++ '(' :: m ∧ Text.isWordText w = true ∧ Text.isBlankText b = true ∧ b ≠ [] ∧
      Text.isWordText f = true ∧ Text.isBlankText d = true := by
  constructor
  · intro h
    simp only [opening?, Option.bind_eq_bind, Option.bind_eq_some_iff] at h
    obtain ⟨⟨w, r₁⟩, h₁, ⟨b, r₂⟩, h₂, ⟨f, r₃⟩, h₃, h⟩ := h
    obtain ⟨rfl, hw, -⟩ := Text.word?_eq_some h₁
    obtain ⟨rfl, hb, hn, -⟩ := Text.blanks?_eq_some h₂
    obtain ⟨rfl, hf, -⟩ := Text.word?_eq_some h₃
    obtain ⟨d, hd, hr⟩ := Text.exists_append_skipBlanks r₃
    split at h
    · rename_i q hq
      cases h
      exact ⟨w, b, f, d, by rw [hr, hq]; simp, hw, hb, hn, hf, hd⟩
    · simp at h
  · rintro ⟨w, b, f, d, rfl, hw, hb, hn, hf, hd⟩
    have hskip : Text.skipBlanks (d ++ '(' :: m) = '(' :: m :=
      Text.skipBlanks_blank_append hd ((Text.unblank_cons _ _).2 (by decide))
    have hunword : Text.Unword (d ++ '(' :: m) :=
      Text.unword_blank_append hd ((Text.unword_cons _ _).2 (by decide))
    simp only [opening?, List.append_assoc, Text.word?_append hw (Text.unword_append_blank hb hn _),
      Option.bind_eq_bind, Option.bind_some, Text.blanks?_append hb hn (Text.unblank_append_word hf _),
      Text.word?_append hf hunword, hskip]

lemma opening?_suffix {t r : Text} (h : opening? t = some r) : r <:+ t := by
  obtain ⟨w, b, f, d, rfl, -⟩ := opening?_eq_some_iff.1 h
  exact ⟨w ++ b ++ f ++ d ++ ['('], by simp⟩

/-- The line pattern of a head whose parameters go on below: a word, blanks, the name and an opening parenthesis with
no closing one behind it. -/
def OpensHead (t : Text) : Prop :=
  ∃ w b f d m, t = w ++ b ++ f ++ d ++ '(' :: m ∧ Text.isWordText w = true ∧ Text.isBlankText b = true ∧ b ≠ [] ∧
    Text.isWordText f = true ∧ Text.isBlankText d = true ∧ ')' ∉ m

lemma opensHead_iff {t : Text} : opensHead t = true ↔ OpensHead t := by
  simp only [opensHead, Option.any_eq_true, opening?_eq_some_iff, OpensHead]
  constructor
  · rintro ⟨m, ⟨w, b, f, d, ht, hw, hb, hn, hf, hd⟩, hm⟩
    exact ⟨w, b, f, d, m, ht, hw, hb, hn, hf, hd, by simpa using hm⟩
  · rintro ⟨w, b, f, d, m, ht, hw, hb, hn, hf, hd, hm⟩
    exact ⟨m, ⟨w, b, f, d, ht, hw, hb, hn, hf, hd⟩, by simpa using hm⟩

lemma OpensHead.paren_notMem {t : Text} (h : OpensHead t) : ')' ∉ t := by
  obtain ⟨w, b, f, d, m, rfl, hw, hb, -, hf, hd, hm⟩ := h
  simp only [List.mem_append, List.mem_cons, not_or]
  refine ⟨⟨⟨⟨fun hc => ?_, fun hc => ?_⟩, fun hc => ?_⟩, fun hc => ?_⟩, by decide, hm⟩
  · exact absurd ((Text.isWordText_iff.1 hw).2 _ hc) (by decide)
  · exact absurd (Text.isBlankText_iff.1 hb _ hc) (by decide)
  · exact absurd ((Text.isWordText_iff.1 hf).2 _ hc) (by decide)
  · exact absurd (Text.isBlankText_iff.1 hd _ hc) (by decide)

lemma opensMain_suffix {t : Text} (h : opensMain t = true) : ∃ q, q <:+ t ∧ closesHead q = true := by
  unfold opensMain at h
  split at h
  · rename_i r hr
    rw [List.isPrefixOf?_eq_some_iff_append_eq] at hr
    obtain ⟨d, -, hd⟩ := Text.exists_append_skipBlanks r
    split at h
    · rename_i q hq
      exact ⟨q, ⟨"main".toList ++ d ++ ['('], by rw [← hr, hd, hq]; simp⟩, h⟩
    · simp at h
  · simp at h

lemma hasMain_suffix {t : Text} {inWord : Bool} (h : hasMain inWord t = true) :
    ∃ q, q <:+ t ∧ closesHead q = true := by
  induction t generalizing inWord with
  | nil => simp [hasMain] at h
  | cons c t ih =>
    simp only [hasMain, Bool.or_eq_true, Bool.and_eq_true] at h
    rcases h with ⟨-, h⟩ | h
    · exact opensMain_suffix h
    · obtain ⟨q, hq, hc⟩ := ih h
      exact ⟨q, hq.trans (List.suffix_cons c t), hc⟩

lemma isHead_suffix {t : Text} (h : isHead t = true) : ∃ q, q <:+ t ∧ closesHead q = true := by
  rw [isHead, Bool.or_eq_true, Option.any_eq_true] at h
  rcases h with ⟨q, hq, hc⟩ | h
  · exact ⟨q, opening?_suffix hq, hc⟩
  · exact hasMain_suffix h

lemma isHead_eq_false {t : Text} (h : t.getLast? = some ';') : isHead t = false := by
  rw [← Bool.not_eq_true]
  intro hh
  obtain ⟨q, ⟨p, rfl⟩, hc⟩ := isHead_suffix hh
  obtain ⟨hn, hl⟩ := closesHead_getLast hc
  rw [List.getLast?_append_of_ne_nil _ hn] at h
  exact hl h

lemma closesHead_mem {t : Text} (h : closesHead t = true) : ')' ∈ t := by
  unfold closesHead at h
  split at h
  · rename_i r hr
    exact (List.dropWhile_suffix (· != ')')).subset (hr ▸ List.mem_cons_self)
  · simp at h

lemma OpensHead.isHead_eq_false {t : Text} (h : OpensHead t) : isHead t = false := by
  rw [← Bool.not_eq_true]
  intro hh
  obtain ⟨q, hq, hc⟩ := isHead_suffix hh
  exact h.paren_notMem (hq.subset (closesHead_mem hc))

lemma bodyFollows_dropReturn (ls : List Text) : bodyFollows (ls.map dropReturn) = bodyFollows ls := by
  have ho : ∀ l, '{' ∈ dropReturn l ↔ '{' ∈ l := mem_dropReturn (by decide)
  have hc : ∀ l, ')' ∈ dropReturn l ↔ ')' ∈ l := mem_dropReturn (by decide)
  induction ls with
  | nil => rfl
  | cons l ls ih => cases ls <;> simp_all [bodyFollows]

end Signature

end CallStubs
