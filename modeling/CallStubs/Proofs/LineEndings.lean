import CallStubs.Proofs.LineEditing

/-! Line endings: the lines that an edit leaves alone, and the texts that are read back as they were written. -/

namespace CallStubs

section Returns

lemma dropReturn_concat (l : Text) : dropReturn (l ++ ['\r']) = l := by simp [dropReturn]

lemma dropReturn_eq_self_iff {l : Text} : dropReturn l = l ↔ l.getLast? ≠ some '\r' := by
  constructor
  · intro h hl
    have hc := List.dropLast_append_getLast? _ hl
    rw [← hc, dropReturn_concat] at h
    simpa using congrArg List.length h
  · exact dropReturn_of_getLast l

lemma dropReturn_twice {l : Text} (h : ¬"\r\r".toList <:+ l) : dropReturn (dropReturn l) = dropReturn l := by
  rcases dropReturn_eq l with hl | hl
  · rw [hl, hl]
  · rcases dropReturn_eq (dropReturn l) with hd | hd
    · exact hd
    · refine absurd ⟨dropReturn (dropReturn l), ?_⟩ h
      conv_rhs => rw [hl, hd]
      simp

lemma dropReturn_thrice {l : Text} (h : ¬"\r\r\r".toList <:+ l) :
    dropReturn (dropReturn (dropReturn l)) = dropReturn (dropReturn l) := by
  rcases dropReturn_eq l with hl | hl
  · rw [hl, hl, hl]
  · apply dropReturn_twice
    rintro ⟨k, hk⟩
    refine h ⟨k, ?_⟩
    rw [hl, ← hk]
    simp

end Returns

def Tidy (l : Text) : Prop :=
  '\n' ∉ l ∧ dropReturn l = l

lemma tidy_dropReturn {t : Text} (ht : '\n' ∉ t) (hr : ¬"\r\r".toList <:+ t) : Tidy (dropReturn t) :=
  ⟨dropReturn_feedless ht, dropReturn_twice hr⟩

lemma tidy_ofText {t : Text} (ht : Text.includes "\r\r".toList t = false) :
    ∀ l ∈ (Buffer.ofText t).lines, Tidy l := by
  intro l hl
  obtain ⟨k, hk, rfl⟩ := List.mem_map.1 hl
  refine tidy_dropReturn (feedless_of_mem_splitOn hk) fun hs => ?_
  have hin := hs.isInfix.trans (infix_of_mem_splitOn hk)
  rw [← Text.includes_iff, ht] at hin
  simp at hin

def marked (mark : Text) : List Text → List Text
  | [] => []
  | [l] => [l]
  | l :: k :: ls => (l ++ mark) :: marked mark (k :: ls)

section Marked

variable (mark : Text)

lemma marked_ne_nil {ls : List Text} (h : ls ≠ []) : marked mark ls ≠ [] := by
  cases ls with
  | nil => exact absurd rfl h
  | cons l ls => cases ls <;> simp [marked]

lemma intercalate_marked (ls : List Text) :
    ['\n'].intercalate (marked mark ls) = (mark ++ ['\n']).intercalate ls := by
  induction ls with
  | nil => rfl
  | cons l ls ih =>
    cases ls with
    | nil => rfl
    | cons k ls =>
      have hne : marked mark (k :: ls) ≠ [] := marked_ne_nil mark (by simp)
      rw [marked, List.intercalate_cons_of_ne_nil hne, ih, List.intercalate_cons_cons]
      simp

lemma mem_marked {ls : List Text} {l : Text} (h : l ∈ marked mark ls) : l ∈ ls ∨ ∃ k ∈ ls, l = k ++ mark := by
  induction ls with
  | nil => simp [marked] at h
  | cons a ls ih =>
    cases ls with
    | nil => exact Or.inl h
    | cons k ls =>
      rw [marked, List.mem_cons] at h
      rcases h with rfl | h
      · exact Or.inr ⟨a, List.mem_cons_self, rfl⟩
      · rcases ih h with h | ⟨x, hx, h⟩
        · exact Or.inl (List.mem_cons_of_mem a h)
        · exact Or.inr ⟨x, List.mem_cons_of_mem a hx, h⟩

lemma dropLast_marked (ls : List Text) : (marked mark ls).dropLast = ls.dropLast.map (· ++ mark) := by
  induction ls with
  | nil => rfl
  | cons l ls ih =>
    cases ls with
    | nil => rfl
    | cons k ls =>
      have hne : marked mark (k :: ls) ≠ [] := marked_ne_nil mark (by simp)
      rw [marked, List.dropLast_cons_of_ne_nil hne, ih]
      rfl

lemma map_dropReturn_marked {ls : List Text} (hi : ∀ l ∈ ls, dropReturn (l ++ mark) = l)
    (hl : ∀ l ∈ ls.getLast?, dropReturn l = l) : (marked mark ls).map dropReturn = ls := by
  induction ls with
  | nil => rfl
  | cons l ls ih =>
    rw [List.forall_mem_cons] at hi
    cases ls with
    | nil => simpa [marked] using hl
    | cons k ls =>
      rw [List.getLast?_cons_cons] at hl
      rw [marked, List.map_cons, hi.1, ih hi.2 hl]

lemma modify_marked {ls : List Text} (hi : ∀ l ∈ ls, dropReturn (l ++ mark) = l) {j : Nat} (hj : j + 1 < ls.length)
    (u : Text) : (marked mark ls).modify j (fun l => u ++ l.drop (dropReturn l).length) = marked mark (ls.set j u) := by
  induction ls generalizing j with
  | nil => simp at hj
  | cons l ls ih =>
    rw [List.forall_mem_cons] at hi
    cases ls with
    | nil => simp at hj
    | cons k ls =>
      cases j with
      | zero => rw [marked, List.modify_zero_cons, hi.1, List.drop_left, List.set_cons_zero, marked]
      | succ j =>
        have ih := ih hi.2 (Nat.lt_of_succ_lt_succ hj)
        have hne : (k :: ls).set j u ≠ [] := by simp
        obtain ⟨k', ls', hset⟩ := List.exists_cons_of_ne_nil hne
        rw [marked, List.modify_succ_cons, ih, List.set_cons_succ, hset, marked]

end Marked

lemma getLast?_block (ls : List Text) : (block ls).getLast? = none ∨ (block ls).getLast? = some '\n' := by
  rcases List.eq_nil_or_concat' ls with rfl | ⟨A, l, rfl⟩
  · exact Or.inl rfl
  · refine Or.inr ?_
    simp [block]

lemma getLast?_block_append (A : List Text) (l : Text) :
    (block A ++ l).getLast? = some '\r' ↔ l.getLast? = some '\r' := by
  cases l with
  | nil =>
    rw [List.append_nil]
    rcases getLast?_block A with h | h
    · simp [h]
    · simp [h]
  | cons c l => rw [List.getLast?_append_of_ne_nil _ (List.cons_ne_nil c l)]

lemma getLast?_eq_return_iff {t z : Text} {A : List Text} (h : t.splitOn '\n' = A ++ [z]) :
    t.getLast? = some '\r' ↔ z.getLast? = some '\r' := by
  rw [eq_block_append h]
  exact getLast?_block_append A z

lemma splitOn_return (x y : Text) :
    ∃ l ∈ ((x ++ '\r' :: '\n' :: y).splitOn '\n').dropLast, l.getLast? = some '\r' := by
  have hsplit : (x ++ '\r' :: '\n' :: y).splitOn '\n' = (x ++ ['\r']).splitOn '\n' ++ y.splitOn '\n' := by
    rw [← List.splitOn_append_cons_self]
    simp
  obtain ⟨A, z, hz⟩ := exists_splitOn_eq (x ++ ['\r'])
  refine ⟨z, by rw [hsplit, List.dropLast_append_of_ne_nil (List.splitOn_ne_nil '\n' y), hz]; simp, ?_⟩
  rw [← getLast?_eq_return_iff hz, List.getLast?_concat]

lemma Text.includes_return_iff {t : Text} : includes "\r\n".toList t = true ↔
    ∃ l ∈ (t.splitOn '\n').dropLast, l.getLast? = some '\r' := by
  rw [includes_iff]
  constructor
  · rintro ⟨x, y, rfl⟩
    simpa using splitOn_return x y
  · rintro ⟨l, hl, hr⟩
    obtain ⟨A, R, hA⟩ := List.append_of_mem hl
    obtain ⟨B, z, hz⟩ := exists_splitOn_eq t
    rw [hz, List.dropLast_concat] at hA
    rw [hA, List.append_assoc] at hz
    rw [eq_block_append_intercalate hz (by simp), List.cons_append, List.intercalate_cons_of_ne_nil (by simp),
      ← List.dropLast_append_getLast? _ hr]
    exact ⟨block A ++ l.dropLast, ['\n'].intercalate (R ++ [z]), by simp⟩

namespace Buffer

def mark (b : Buffer) : Text :=
  if b.crlf then ['\r'] else []

lemma terminator_eq (b : Buffer) : b.terminator = b.mark ++ ['\n'] := by
  rw [terminator, mark]
  split_ifs <;> rfl

lemma toText_eq (b : Buffer) : b.toText = ['\n'].intercalate (marked b.mark b.lines) := by
  rw [intercalate_marked, ← terminator_eq, toText]

lemma WellFormed.splitOn_toText {b : Buffer} (hb : b.WellFormed) :
    b.toText.splitOn '\n' = marked b.mark b.lines := by
  rw [toText_eq]
  apply List.splitOn_intercalate '\n' _ (marked_ne_nil b.mark hb.nonempty)
  intro l hl
  rcases mem_marked b.mark hl with hl | ⟨k, hk, rfl⟩
  · exact hb.feedless l hl
  · have hm : '\n' ∉ b.mark := by
      unfold mark
      split_ifs <;> decide
    simp [hb.feedless k hk, hm]

lemma linesFrom_ne_nil (b : Buffer) (i : Nat) : b.linesFrom i ≠ [] := by
  rw [linesFrom]
  split_ifs with h
  · simpa [lineCount] using h
  · simp

lemma mem_linesFrom {b : Buffer} {p : Text → Prop} (h : ∀ l ∈ b.lines, p l) (hn : p []) {i : Nat} {l : Text}
    (hl : l ∈ b.linesFrom i) : p l := by
  rw [linesFrom] at hl
  split_ifs at hl
  · exact h l (List.mem_of_mem_drop hl)
  · rw [List.mem_singleton.1 hl]
    exact hn

/-- Whether the lines are found again in the text that is written for them. -/
structure Settled (b : Buffer) : Prop where
  inner : b.crlf = false → ∀ l ∈ b.lines, dropReturn l = l
  last : ∀ l ∈ b.lines.getLast?, dropReturn l = l

lemma Settled.dropReturn_mark {b : Buffer} (h : b.Settled) : ∀ l ∈ b.lines, dropReturn (l ++ b.mark) = l := by
  intro l hl
  cases hc : b.crlf with
  | true => simp [mark, hc, dropReturn_concat]
  | false => simp [mark, hc, h.inner hc l hl]

lemma Settled.lines_ofText {b : Buffer} (h : b.Settled) (hb : b.WellFormed) :
    (ofText b.toText).lines = b.lines := by
  rw [ofText, splitLines, hb.splitOn_toText]
  exact map_dropReturn_marked b.mark h.dropReturn_mark h.last

lemma Settled.crlf_ofText {b : Buffer} (h : b.Settled) (hb : b.WellFormed)
    (hn : b.crlf = true → 2 ≤ b.lineCount) : (ofText b.toText).crlf = b.crlf := by
  rw [ofText, Bool.eq_iff_iff, Text.includes_return_iff, hb.splitOn_toText, dropLast_marked]
  constructor
  · rintro ⟨l, hl, hr⟩
    obtain ⟨k, hk, rfl⟩ := List.mem_map.1 hl
    by_contra hc
    rw [Bool.not_eq_true] at hc
    rw [mark, hc, if_neg (by simp), List.append_nil] at hr
    exact dropReturn_eq_self_iff.1 (h.inner hc k (List.dropLast_subset _ hk)) hr
  · intro hc
    have hlen : b.lines.dropLast ≠ [] := by
      have := hn hc
      apply List.ne_nil_of_length_pos
      simp only [List.length_dropLast, lineCount] at this ⊢
      omega
    obtain ⟨l, ls, hl⟩ := List.exists_cons_of_ne_nil hlen
    exact ⟨l ++ b.mark, List.mem_map_of_mem (hl ▸ List.mem_cons_self), by simp [mark, hc]⟩

lemma withBlock_between {b : Buffer} {A M R : List Text} (hb : b.lines = A ++ M ++ R) (hA : ∀ l ∈ A, Tidy l)
    (hR : ∀ l ∈ R, Tidy l) (hne : R ≠ []) (ls : List Text) :
    b.withBlock A.length (A.length + M.length) ls = ⟨A ++ ls.map dropReturn ++ R, b.crlf⟩ := by
  rw [withBlock_of_append hb hne, List.map_append, List.map_append, map_dropReturn_eq fun l hl => (hA l hl).2,
    map_dropReturn_eq fun l hl => (hR l hl).2]

lemma withBlock_of_tidy {b : Buffer} {A M R : List Text} (hb : b.lines = A ++ M ++ R)
    (h : ∀ l ∈ b.lines, Tidy l) (hR : R ≠ []) (ls : List Text) :
    b.withBlock A.length (A.length + M.length) ls = ⟨A ++ ls.map dropReturn ++ R, b.crlf⟩ := by
  rw [hb, List.forall_mem_append, List.forall_mem_append] at h
  exact withBlock_between hb h.1.1 h.2 hR ls

lemma withBlock_eq_of_tidy {b : Buffer} (h : ∀ l ∈ b.lines, Tidy l) {ls : List Text} (hls : ∀ l ∈ ls, Tidy l)
    (s e : Nat) : b.withBlock s e ls = ⟨b.lines.take s ++ ls ++ b.linesFrom e, b.crlf⟩ := by
  rw [withBlock, map_dropReturn_eq]
  intro l hl
  simp only [List.mem_append] at hl
  rcases hl with (hl | hl) | hl
  · exact (h l (List.mem_of_mem_take hl)).2
  · exact (hls l hl).2
  · exact mem_linesFrom (p := fun l => dropReturn l = l) (fun l hl => (h l hl).2) rfl hl

/-- Whether the lines stay as they are whenever the text is edited or read anew. -/
structure Clean (b : Buffer) : Prop where
  nonempty : b.lines ≠ []
  tidy : ∀ l ∈ b.lines, Tidy l
  broken : b.crlf = true → 2 ≤ b.lineCount

namespace Clean

variable {b : Buffer}

lemma wellFormed (h : b.Clean) : b.WellFormed :=
  ⟨h.nonempty, fun l hl => (h.tidy l hl).1⟩

lemma settled (h : b.Clean) : b.Settled :=
  ⟨fun _ l hl => (h.tidy l hl).2, fun l hl => (h.tidy l (List.mem_of_getLast? hl)).2⟩

lemma ofText_toText (h : b.Clean) : ofText b.toText = b := by
  have hl := h.settled.lines_ofText h.wellFormed
  have hc := h.settled.crlf_ofText h.wellFormed h.broken
  cases b
  exact congrArg₂ Buffer.mk hl hc

lemma withBlock_eq (h : b.Clean) {ls : List Text} (hls : ∀ l ∈ ls, Tidy l) (s e : Nat) :
    b.withBlock s e ls = ⟨b.lines.take s ++ ls ++ b.linesFrom e, b.crlf⟩ :=
  withBlock_eq_of_tidy h.tidy hls s e

lemma withBlock (h : b.Clean) {ls : List Text} (hls : ∀ l ∈ ls, Tidy l) (hn : ls ≠ []) (s e : Nat) :
    (b.withBlock s e ls).Clean := by
  have hpos := List.length_pos_of_ne_nil hn
  have hfrom := List.length_pos_of_ne_nil (linesFrom_ne_nil b e)
  rw [h.withBlock_eq hls]
  refine ⟨by simp [hn], fun l hl => ?_, fun _ => ?_⟩
  · simp only [List.mem_append] at hl
    rcases hl with (hl | hl) | hl
    · exact h.tidy l (List.mem_of_mem_take hl)
    · exact hls l hl
    · exact mem_linesFrom h.tidy ⟨by simp, rfl⟩ hl
  · simp only [lineCount, List.length_append]
    omega

end Clean

lemma clean_ofText {t : Text} (ht : Text.includes "\r\r".toList t = false) : (ofText t).Clean where
  nonempty := (wellFormed_ofText t).nonempty
  tidy := tidy_ofText ht
  broken hc := by
    obtain ⟨l, hl, -⟩ := Text.includes_return_iff.1 hc
    have hpos := List.length_pos_of_mem hl
    simp only [List.length_dropLast] at hpos
    simp only [lineCount, ofText, splitLines, List.length_map]
    omega

/-- Whether the lines are settled once they are split another time. -/
def Settling (b : Buffer) : Prop :=
  Settled ⟨b.lines.map dropReturn, b.crlf⟩

lemma Settled.settling {b : Buffer} (h : b.Settled) : b.Settling := by
  refine ⟨fun hc l hl => ?_, fun l hl => ?_⟩
  · obtain ⟨k, hk, rfl⟩ := List.mem_map.1 hl
    rw [h.inner hc k hk, h.inner hc k hk]
  · rw [List.getLast?_map, Option.mem_map] at hl
    obtain ⟨k, hk, rfl⟩ := hl
    rw [h.last k hk, h.last k hk]

lemma Settling.withBlock {b : Buffer} (h : b.Settling) {ls : List Text} (hls : ∀ l ∈ ls, dropReturn l = l)
    (s e : Nat) : (b.withBlock s e ls).Settled := by
  refine ⟨fun hc l hl => ?_, fun l hl => ?_⟩
  · obtain ⟨k, hk, rfl⟩ := List.mem_map.1 hl
    have hall := fun j hj => h.inner hc (dropReturn j) (List.mem_map_of_mem hj)
    simp only [List.mem_append] at hk
    rcases hk with (hk | hk) | hk
    · exact hall k (List.mem_of_mem_take hk)
    · rw [hls k hk, hls k hk]
    · exact mem_linesFrom (p := fun l => dropReturn (dropReturn l) = dropReturn l) hall rfl hk
  · simp only [Buffer.withBlock, List.getLast?_map, Option.mem_map] at hl
    obtain ⟨k, hk, rfl⟩ := hl
    rw [List.getLast?_append_of_ne_nil _ (linesFrom_ne_nil b e), linesFrom] at hk
    split_ifs at hk with he
    · rw [List.getLast?_drop, if_neg (by simpa [lineCount] using he)] at hk
      exact h.last _ (by rw [List.getLast?_map]; exact Option.mem_map_of_mem _ hk)
    · rw [List.getLast?_singleton, Option.mem_some_iff] at hk
      rw [← hk]
      rfl

lemma suffix_of_getLast?_splitOn {t l : Text} (h : l ∈ (t.splitOn '\n').getLast?) : l <:+ t := by
  have hlast := List.dropLast_append_getLast? l h
  exact ⟨_, (eq_block_append hlast.symm).symm⟩

lemma dropReturn_of_mem_dropLast {t r : Text} (hc : (ofText t).crlf = false) (hr : r ∈ (t.splitOn '\n').dropLast) :
    dropReturn r = r := by
  rw [dropReturn_eq_self_iff]
  intro hret
  have hin := Text.includes_return_iff.2 ⟨r, hr, hret⟩
  rw [ofText, hin] at hc
  exact absurd hc (by simp)

lemma settling_ofText {t : Text} (ht : ¬"\r\r\r".toList <:+ t) : (ofText t).Settling := by
  have hlast : ∀ r ∈ (t.splitOn '\n').getLast?, dropReturn (dropReturn (dropReturn r)) = dropReturn (dropReturn r) :=
    fun r hr => dropReturn_thrice fun hs => ht (hs.trans (suffix_of_getLast?_splitOn hr))
  refine ⟨fun hc l hl => ?_, fun l hl => ?_⟩
  · simp only [ofText, splitLines, List.map_map, List.mem_map, Function.comp_apply] at hl
    obtain ⟨r, hr, rfl⟩ := hl
    obtain ⟨A, z, hz⟩ := exists_splitOn_eq t
    rw [hz, List.mem_append, List.mem_singleton] at hr
    rcases hr with hr | rfl
    · have hno : dropReturn r = r := dropReturn_of_mem_dropLast hc (by rwa [hz, List.dropLast_concat])
      rw [hno, hno, hno]
    · exact hlast r (by rw [hz, List.getLast?_concat]; rfl)
  · simp only [ofText, splitLines, List.getLast?_map, Option.mem_map] at hl
    obtain ⟨_, ⟨r, hr, rfl⟩, rfl⟩ := hl
    exact hlast r hr

end Buffer

end CallStubs
