import CallStubs.Buffer
import Mathlib.Tactic

/-! Edits at byte offsets of the joined text are edits of the list of lines. -/

namespace CallStubs

namespace Text

@[simp] lemma byteLength_append (a t : Text) : byteLength (a ++ t) = byteLength a + byteLength t := by
  induction a with
  | nil => simp [byteLength]
  | cons c a ih =>
    simp only [List.cons_append, byteLength, ih]
    omega

@[simp] lemma takeBytes_zero (t : Text) : takeBytes 0 t = [] := by
  cases t with
  | nil => rfl
  | cons c t =>
    have hc := c.utf8Size_pos
    simp [takeBytes]
    omega

@[simp] lemma dropBytes_zero (t : Text) : dropBytes 0 t = t := by
  simpa using takeBytes_append_dropBytes 0 t

lemma takeBytes_append (a t : Text) : takeBytes (byteLength a) (a ++ t) = a := by
  induction a with
  | nil => simp [byteLength]
  | cons c a ih => simp [takeBytes, byteLength, ih]

lemma dropBytes_append (a t : Text) : dropBytes (byteLength a) (a ++ t) = t := by
  have h := takeBytes_append_dropBytes (byteLength a) (a ++ t)
  rw [takeBytes_append] at h
  exact List.append_cancel_left h

lemma includes_iff {s t : Text} : includes s t = true ↔ s <:+: t := by
  induction t with
  | nil => simp [includes]
  | cons c t ih => rw [includes, Bool.or_eq_true, ih, List.isPrefixOf_iff_prefix, List.infix_cons_iff]

end Text

def block (ls : List Text) : Text :=
  ls.flatMap (· ++ ['\n'])

@[simp] lemma block_nil : block [] = [] := rfl

@[simp] lemma block_cons (l : Text) (ls : List Text) : block (l :: ls) = l ++ '\n' :: block ls := by
  simp [block]

lemma byteLength_block (ls : List Text) : Text.byteLength (block ls) = Buffer.lineBytes ls := by
  induction ls with
  | nil => rfl
  | cons l ls ih =>
    have hf : '\n'.utf8Size = 1 := by decide
    simp only [block_cons, Text.byteLength_append, Text.byteLength, Buffer.lineBytes, ih, hf]
    omega

lemma intercalate_append (A R : List Text) (hR : R ≠ []) :
    ['\n'].intercalate (A ++ R) = block A ++ ['\n'].intercalate R := by
  induction A with
  | nil => rfl
  | cons l A ih =>
    have hne : A ++ R ≠ [] := by simp [hR]
    rw [List.cons_append, List.intercalate_cons_of_ne_nil hne, ih]
    simp

lemma exists_splitOn_eq (t : Text) : ∃ A z, t.splitOn '\n' = A ++ [z] :=
  (List.eq_nil_or_concat' _).resolve_left (List.splitOn_ne_nil '\n' t)

lemma eq_block_append_intercalate {t : Text} {A R : List Text} (h : t.splitOn '\n' = A ++ R) (hR : R ≠ []) :
    t = block A ++ ['\n'].intercalate R := by
  rw [← intercalate_append A R hR, ← h]
  exact (List.intercalate_splitOn '\n').symm

lemma eq_block_append {t z : Text} {A : List Text} (h : t.splitOn '\n' = A ++ [z]) : t = block A ++ z := by
  rw [eq_block_append_intercalate h (by simp), List.intercalate_singleton]

lemma byteLength_intercalate (ls : List Text) :
    Text.byteLength (['\n'].intercalate ls) = Buffer.lineBytes ls - 1 := by
  rcases List.eq_nil_or_concat ls with rfl | ⟨A, l, rfl⟩
  · rfl
  · rw [List.concat_eq_append, intercalate_append A [l] (by simp)]
    have hb : Buffer.lineBytes (A ++ [l]) = Buffer.lineBytes A + (Text.byteLength l + 1) := by
      rw [← byteLength_block, ← byteLength_block]
      have hf : '\n'.utf8Size = 1 := by decide
      simp [block, Text.byteLength, hf]
    simp [hb, byteLength_block, List.intercalate]

section Returns

lemma dropReturn_eq (l : Text) : dropReturn l = l ∨ l = dropReturn l ++ ['\r'] := by
  unfold dropReturn
  split_ifs with h
  · exact Or.inr (List.dropLast_append_getLast? _ h).symm
  · exact Or.inl rfl

lemma dropReturn_of_getLast (l : Text) (h : l.getLast? ≠ some '\r') : dropReturn l = l := by
  simp [dropReturn, h]

lemma dropReturn_subset (l : Text) : dropReturn l ⊆ l := by
  intro c hc
  rcases dropReturn_eq l with h | h
  · rwa [h] at hc
  · rw [h]
    exact List.mem_append_left _ hc

lemma dropReturn_feedless {l : Text} (h : '\n' ∉ l) : '\n' ∉ dropReturn l :=
  fun hm => h (dropReturn_subset l hm)

lemma map_dropReturn_eq {ls : List Text} (h : ∀ l ∈ ls, dropReturn l = l) : ls.map dropReturn = ls := by
  conv_rhs => rw [← List.map_id ls]
  exact List.map_congr_left h

end Returns

lemma splitOn_block {ls : List Text} (h : ∀ l ∈ ls, '\n' ∉ l) (u : Text) :
    (block ls ++ u).splitOn '\n' = ls ++ u.splitOn '\n' := by
  induction ls with
  | nil => rfl
  | cons l ls ih =>
    rw [List.forall_mem_cons] at h
    rw [block_cons, List.append_assoc, List.cons_append, List.splitOn_append_cons_self,
      List.splitOn_eq_singleton h.1, ih h.2]
    rfl

lemma splitLines_block {ls : List Text} (h : ∀ l ∈ ls, '\n' ∉ l) (u : Text) :
    splitLines (block ls ++ u) = ls.map dropReturn ++ splitLines u := by
  rw [splitLines, splitOn_block h, List.map_append]
  rfl

lemma splitLines_intercalate {ls : List Text} (h : ∀ l ∈ ls, '\n' ∉ l) (hn : ls ≠ []) :
    splitLines (['\n'].intercalate ls) = ls.map dropReturn := by
  rw [splitLines, List.splitOn_intercalate '\n' h hn]

lemma infix_of_mem_splitOn {t l : Text} (h : l ∈ t.splitOn '\n') : l <:+: t := by
  obtain ⟨A, R, hA⟩ := List.append_of_mem h
  rw [eq_block_append_intercalate hA (by simp)]
  refine List.IsInfix.trans ?_ (List.suffix_append _ _).isInfix
  cases R with
  | nil => simp
  | cons r R => exact ⟨[], _, by rw [List.intercalate_cons_cons]; simp; rfl⟩

lemma feedless_of_mem_splitOn {t l : Text} (h : l ∈ t.splitOn '\n') : '\n' ∉ l := by
  induction t generalizing l with
  | nil => simp_all
  | cons c t ih =>
    rw [List.splitOn_cons_eq_if_modifyHead] at h
    obtain ⟨r, rs, hr⟩ := List.exists_cons_of_ne_nil (List.splitOn_ne_nil '\n' t)
    rw [hr] at h ih
    split_ifs at h with hc
    · rcases List.mem_cons.1 h with rfl | h
      · simp
      · exact ih h
    · rcases List.mem_cons.1 h with rfl | h
      · have hr' : '\n' ∉ r := ih List.mem_cons_self
        simp only [beq_iff_eq] at hc
        simp [hr', Ne.symm hc]
      · exact ih (List.mem_cons_of_mem _ h)

namespace Buffer

structure WellFormed (b : Buffer) : Prop where
  nonempty : b.lines ≠ []
  feedless : ∀ l ∈ b.lines, '\n' ∉ l

lemma WellFormed.lineCount_pos {b : Buffer} (h : b.WellFormed) : 0 < b.lineCount :=
  List.length_pos_of_ne_nil h.nonempty

lemma wellFormed_splitLines (t : Text) (crlf : Bool) : WellFormed ⟨splitLines t, crlf⟩ where
  nonempty := by simp [splitLines]
  feedless l hl := by
    obtain ⟨k, hk, rfl⟩ := List.mem_map.1 hl
    exact dropReturn_feedless (feedless_of_mem_splitOn hk)

lemma wellFormed_ofText (t : Text) : (ofText t).WellFormed :=
  wellFormed_splitLines t _

lemma exists_splice_of_apply {b b' : Buffer} {e : Edit} (h : b.apply e = .ok b') :
    ∃ start stop t, b' = b.splice start stop t := by
  cases e with
  | insert i t =>
    simp only [apply] at h
    split_ifs at h
    exact ⟨_, _, _, (Except.ok.inj h).symm⟩
  | replace r t =>
    simp only [apply] at h
    split_ifs at h
    exact ⟨_, _, _, (Except.ok.inj h).symm⟩

lemma WellFormed.apply {b b' : Buffer} {e : Edit} (h : b.apply e = .ok b') : b'.WellFormed := by
  obtain ⟨start, stop, t, rfl⟩ := exists_splice_of_apply h
  exact wellFormed_splitLines _ _

lemma crlf_apply {b b' : Buffer} {e : Edit} (h : b.apply e = .ok b') : b'.crlf = b.crlf := by
  obtain ⟨start, stop, t, rfl⟩ := exists_splice_of_apply h
  rfl

lemma joined_split {b : Buffer} {i : Nat} (hi : i < b.lineCount) :
    b.joined = block (b.lines.take i) ++ ['\n'].intercalate (b.lines.drop i) := by
  have hd : b.lines.drop i ≠ [] := by simpa [lineCount] using hi
  rw [← intercalate_append _ _ hd, List.take_append_drop, joined]

lemma takeBytes_joined {b : Buffer} {i : Nat} (hi : i < b.lineCount) :
    Text.takeBytes (b.offsetOf i) b.joined = block (b.lines.take i) := by
  rw [offsetOf, if_neg (by omega), ← byteLength_block, joined_split hi, Text.takeBytes_append]

lemma dropBytes_joined (b : Buffer) (i : Nat) :
    Text.dropBytes (b.offsetOf i) b.joined = ['\n'].intercalate (b.lines.drop i) := by
  by_cases hi : i < b.lineCount
  · rw [offsetOf, if_neg (by omega), ← byteLength_block, joined_split hi, Text.dropBytes_append]
  · have hd : b.lines.drop i = [] := List.drop_eq_nil_of_le (by simpa [lineCount] using hi)
    have hj := Text.dropBytes_append b.joined []
    rw [offsetOf, if_pos (by omega), ← byteLength_intercalate, hd]
    simpa [joined] using hj

lemma splice_lines {b : Buffer} (hb : b.WellFormed) {s : Nat} (hs : s < b.lineCount) (e : Nat) (t : Text) :
    (b.splice (b.offsetOf s) (b.offsetOf e) t).lines =
      (b.lines.take s).map dropReturn ++ splitLines (t ++ ['\n'].intercalate (b.lines.drop e)) := by
  have hf : ∀ l ∈ b.lines.take s, '\n' ∉ l := fun l hl => hb.feedless l (List.mem_of_mem_take hl)
  simp only [splice, Text.spliceBytes]
  rw [takeBytes_joined hs, dropBytes_joined, List.append_assoc, splitLines_block hf]

/-- The lines with the text `t` in the place of those from `s` up to `e`. Its last piece runs on into line `e`, or
stands alone where the text ends before that line. -/
def edited (b : Buffer) (s e : Nat) (t : Text) : List Text :=
  b.lines.take s ++ (t.splitOn '\n').dropLast ++
    [(t.splitOn '\n').getLast (List.splitOn_ne_nil '\n' t) ++ (b.line? e).getD []] ++ b.lines.drop (e + 1)

lemma edited_of_pieces {t z : Text} {A : List Text} (h : t.splitOn '\n' = A ++ [z]) (b : Buffer) (s e : Nat) :
    b.edited s e t = b.lines.take s ++ A ++ [z ++ (b.line? e).getD []] ++ b.lines.drop (e + 1) := by
  simp only [edited, h, List.dropLast_concat, List.getLast_concat]

lemma splitLines_append_rest {b : Buffer} (hb : b.WellFormed) {z : Text} (hz : '\n' ∉ z) (e : Nat) :
    splitLines (z ++ ['\n'].intercalate (b.lines.drop e)) =
      ([z ++ (b.line? e).getD []] ++ b.lines.drop (e + 1)).map dropReturn := by
  by_cases he : e < b.lineCount
  · have hline : b.line? e = some b.lines[e] := List.getElem?_eq_getElem he
    have hfeedless : ∀ l ∈ (z ++ b.lines[e]) :: b.lines.drop (e + 1), '\n' ∉ l := by
      rw [List.forall_mem_cons, List.mem_append, not_or]
      exact ⟨⟨hz, hb.feedless _ (List.getElem_mem he)⟩, fun l hl => hb.feedless l (List.mem_of_mem_drop hl)⟩
    have hjoin : z ++ ['\n'].intercalate (b.lines.drop e) =
        ['\n'].intercalate ((z ++ b.lines[e]) :: b.lines.drop (e + 1)) := by
      rw [List.drop_eq_getElem_cons he]
      cases b.lines.drop (e + 1) with
      | nil => simp
      | cons l R => simp [List.intercalate_cons_cons]
    rw [hjoin, splitLines_intercalate hfeedless (by simp), hline]
    rfl
  · have hline : b.line? e = none := List.getElem?_eq_none (Nat.le_of_not_lt he)
    have hdrop : ∀ i, e ≤ i → b.lines.drop i = [] := fun i hi =>
      List.drop_eq_nil_of_le (by simp only [lineCount] at he; omega)
    rw [hdrop e le_rfl, hdrop (e + 1) (Nat.le_succ e), hline, splitLines, List.intercalate_nil, List.append_nil,
      List.splitOn_eq_singleton hz]
    simp

lemma splice_eq {b : Buffer} (hb : b.WellFormed) {s : Nat} (hs : s < b.lineCount) (e : Nat) (t : Text) :
    b.splice (b.offsetOf s) (b.offsetOf e) t = ⟨(b.edited s e t).map dropReturn, b.crlf⟩ := by
  obtain ⟨A, z, hA⟩ := exists_splitOn_eq t
  have hpieces : ∀ l ∈ A ++ [z], '\n' ∉ l := fun l hl => feedless_of_mem_splitOn (hA ▸ hl)
  rw [List.forall_mem_append, List.forall_mem_singleton] at hpieces
  have hlines : (b.splice (b.offsetOf s) (b.offsetOf e) t).lines = (b.edited s e t).map dropReturn := by
    rw [splice_lines hb hs, edited_of_pieces hA]
    conv_lhs => rw [eq_block_append hA, List.append_assoc, splitLines_block hpieces.1,
      splitLines_append_rest hb hpieces.2]
    simp only [List.map_append, List.append_assoc]
  exact congrArg (Buffer.mk · b.crlf) hlines

def linesFrom (b : Buffer) (i : Nat) : List Text :=
  if i < b.lineCount then b.lines.drop i else [[]]

lemma linesFrom_eq (b : Buffer) (i : Nat) : b.linesFrom i = [(b.line? i).getD []] ++ b.lines.drop (i + 1) := by
  by_cases hi : i < b.lineCount
  · have hline : b.line? i = some b.lines[i] := List.getElem?_eq_getElem hi
    rw [linesFrom, if_pos hi, hline, List.drop_eq_getElem_cons hi]
    rfl
  · have hline : b.line? i = none := List.getElem?_eq_none (Nat.le_of_not_lt hi)
    have hdrop : b.lines.drop (i + 1) = [] :=
      List.drop_eq_nil_of_le (by simp only [lineCount] at hi; omega)
    rw [linesFrom, if_neg hi, hline, hdrop]
    rfl

/-- The buffer with the lines from `s` up to `e` replaced by `ls`. All lines are split anew, so each loses
a carriage return at its end. -/
def withBlock (b : Buffer) (s e : Nat) (ls : List Text) : Buffer :=
  ⟨(b.lines.take s ++ ls ++ b.linesFrom e).map dropReturn, b.crlf⟩

lemma withBlock_of_append {b : Buffer} {A M R : List Text} (hb : b.lines = A ++ M ++ R) (hR : R ≠ [])
    (ls : List Text) :
    b.withBlock A.length (A.length + M.length) ls = ⟨(A ++ ls ++ R).map dropReturn, b.crlf⟩ := by
  have hlt : A.length + M.length < b.lineCount := by
    have := List.length_pos_of_ne_nil hR
    simp [lineCount, hb]
    omega
  have hdrop : b.lines.drop (A.length + M.length) = R := by rw [hb, ← List.length_append, List.drop_left]
  have htake : b.lines.take A.length = A := by rw [hb, List.append_assoc, List.take_left]
  rw [withBlock, linesFrom, if_pos hlt, hdrop, htake]

lemma lineCount_withBlock {b : Buffer} {i : Nat} (hi : i < b.lineCount) (ls : List Text) :
    (b.withBlock i i ls).lineCount = b.lineCount + ls.length := by
  rw [withBlock, linesFrom, if_pos hi]
  simp only [lineCount, List.length_map, List.length_append, List.length_take, List.length_drop] at hi ⊢
  omega

lemma edited_block {ls : List Text} (hls : ∀ l ∈ ls, '\n' ∉ l) (b : Buffer) (s e : Nat) :
    b.edited s e (block ls) = b.lines.take s ++ ls ++ b.linesFrom e := by
  have hsplit : (block ls).splitOn '\n' = ls ++ [[]] := by
    have h := splitOn_block hls []
    rwa [List.append_nil] at h
  rw [edited_of_pieces hsplit, linesFrom_eq, List.nil_append, ← List.append_assoc]

lemma splice_block {b : Buffer} (hb : b.WellFormed) {s : Nat} (hs : s < b.lineCount) (e : Nat)
    {ls : List Text} (hls : ∀ l ∈ ls, '\n' ∉ l) :
    b.splice (b.offsetOf s) (b.offsetOf e) (block ls) = b.withBlock s e ls := by
  rw [splice_eq hb hs, edited_block hls, withBlock]

lemma apply_insert_block {b : Buffer} (hb : b.WellFormed) {i : Nat} (hi : i < b.lineCount)
    {ls : List Text} (hls : ∀ l ∈ ls, '\n' ∉ l) :
    b.apply (.insert i (block ls)) = .ok (b.withBlock i i ls) := by
  rw [Buffer.apply, if_neg (by omega), splice_block hb hi i hls]

lemma apply_replace_block {b : Buffer} (hb : b.WellFormed) {r : LineRange} (hr : r.start ≤ r.stop)
    (hi : r.start < b.lineCount) {ls : List Text} (hls : ∀ l ∈ ls, '\n' ∉ l) :
    b.apply (.replace r (block ls)) = .ok (b.withBlock r.start r.stop ls) := by
  rw [Buffer.apply, if_neg (by omega), if_neg (by omega), splice_block hb hi r.stop hls]

def attempt (b : Buffer) (e : Edit) : Except EditError Unit × Buffer :=
  match b.apply e with
  | .ok b' => (.ok (), b')
  | .error err => (.error err, b)

/-- An edit at byte offsets edits the list of lines, each of which loses a carriage return at its end. An inverted
range is refused first, then a place beyond the last line, and what is refused changes nothing. -/
theorem attempt_edits_lines (b : Buffer) (hb : b.WellFormed) (t : Text) :
    (∀ s, b.attempt (.insert s t) =
      if s < b.lineCount then (.ok (), ⟨(b.edited s s t).map dropReturn, b.crlf⟩)
      else (.error (.lineOutOfRange s b.lineCount), b)) ∧
    ∀ r : LineRange, b.attempt (.replace r t) =
      if r.stop < r.start then (.error (.invertedRange r), b)
      else if r.start < b.lineCount then (.ok (), ⟨(b.edited r.start r.stop t).map dropReturn, b.crlf⟩)
      else (.error (.lineOutOfRange r.start b.lineCount), b) := by
  constructor
  · intro s
    rw [attempt, Buffer.apply]
    by_cases hs : s < b.lineCount
    · rw [if_neg (Nat.not_le.2 hs), if_pos hs, splice_eq hb hs]
    · rw [if_pos (Nat.not_lt.1 hs), if_neg hs]
  · intro r
    rw [attempt, Buffer.apply]
    by_cases hr : r.stop < r.start
    · rw [if_pos hr, if_pos hr]
    · rw [if_neg hr, if_neg hr]
      by_cases hs : r.start < b.lineCount
      · rw [if_neg (Nat.not_le.2 hs), if_pos hs, splice_eq hb hs]
      · rw [if_pos (Nat.not_lt.1 hs), if_neg hs]

theorem attempt_edits_lines_past_end :
    let b : Buffer := ⟨["é".toList, "b\r".toList, "c".toList], true⟩
    let t : Text := "x\r\n→".toList
    b.WellFormed ∧ b.attempt (.insert 1 t) = (.ok (), ⟨["é".toList, "x".toList, "→b".toList, "c".toList], true⟩) ∧
      b.attempt (.replace ⟨1, 7⟩ t) = (.ok (), ⟨["é".toList, "x".toList, "→".toList], true⟩) ∧
      b.attempt (.replace ⟨9, 8⟩ t) = (.error (.invertedRange ⟨9, 8⟩), b) ∧
      b.attempt (.insert 3 t) = (.error (.lineOutOfRange 3 3), b) := by
  intro b t
  have hb : b.WellFormed := ⟨by decide, by decide⟩
  obtain ⟨hinsert, hreplace⟩ := attempt_edits_lines b hb t
  refine ⟨hb, (hinsert 1).trans ?_, (hreplace ⟨1, 7⟩).trans ?_, (hreplace ⟨9, 8⟩).trans ?_, (hinsert 3).trans ?_⟩
  · decide +kernel
  · decide +kernel
  · rfl
  · rfl

end Buffer

end CallStubs
