import CallStubs.Proofs.StubText

/-! Where functions start and where definitions stand, in terms of the list of lines. -/

namespace CallStubs.Placement

lemma startsFunction_append (A R : List Text) (crlf crlf' : Bool) (d : Nat) :
    startsFunction ⟨A ++ R, crlf⟩ (A.length + d) = startsFunction ⟨R, crlf'⟩ d := by
  have hg : (A ++ R)[A.length + d]? = R[d]? := by
    rw [List.getElem?_append_right (by omega), Nat.add_sub_cancel_left]
  have hd : (A ++ R).drop (A.length + d + 1) = R.drop (d + 1) := by
    rw [Nat.add_assoc, List.drop_append]
    simp
  simp only [startsFunction, Buffer.trimmed, Buffer.line?, hg, hd]

lemma startsFunction_dropReturn (ls : List Text) (crlf crlf' : Bool) (i : Nat) :
    startsFunction ⟨ls.map dropReturn, crlf⟩ i = startsFunction ⟨ls, crlf'⟩ i := by
  have ht : ((ls.map dropReturn)[i]?).map Text.trim = (ls[i]?).map Text.trim := by
    cases h : ls[i]? <;> simp [h, Text.trim_dropReturn]
  simp only [startsFunction, Buffer.trimmed, Buffer.line?, ht, ← List.map_drop, Signature.bodyFollows_dropReturn]

lemma nearestStart_le (b : Buffer) (i : Nat) : nearestStart b i ≤ i := by
  induction i with
  | zero => exact le_rfl
  | succ i ih =>
    rw [nearestStart]
    split_ifs <;> omega

lemma nearestStart_spec (b : Buffer) (i : Nat) :
    (startsFunction b (nearestStart b i) = true ∨ nearestStart b i = 0) ∧
      ∀ j, nearestStart b i < j → j ≤ i → startsFunction b j = false := by
  induction i with
  | zero => exact ⟨Or.inr rfl, fun j h₁ h₂ => absurd (h₁.trans_le h₂) (lt_irrefl _)⟩
  | succ i ih =>
    rw [nearestStart]
    split_ifs with h
    · exact ⟨Or.inl h, fun j h₁ h₂ => absurd (h₁.trans_le h₂) (lt_irrefl _)⟩
    · refine ⟨ih.1, fun j h₁ h₂ => ?_⟩
      rcases Nat.lt_or_eq_of_le h₂ with h₂ | rfl
      · exact ih.2 j h₁ (by omega)
      · simpa using h

lemma nearestStart_eq {b : Buffer} {i k : Nat} (hk : startsFunction b k = true ∨ k = 0) (hi : k ≤ i)
    (h : ∀ j, k < j → j ≤ i → startsFunction b j = false) : nearestStart b i = k := by
  obtain ⟨hn, hs⟩ := nearestStart_spec b i
  have hle := nearestStart_le b i
  rcases Nat.lt_trichotomy (nearestStart b i) k with hlt | heq | hgt
  · rcases hk with hk | hk
    · simp [hs k hlt hi] at hk
    · omega
  · exact heq
  · rcases hn with hn | hn
    · simp [h _ hgt hle] at hn
    · omega

lemma le_nearestStart {b : Buffer} {i j : Nat} (h : startsFunction b j = true) (hj : j ≤ i) :
    j ≤ nearestStart b i := by
  by_contra hlt
  rw [(nearestStart_spec b i).2 j (by omega) hj] at h
  simp at h

lemma insertionPoint_le (b : Buffer) (i : Nat) : insertionPoint b i ≤ i :=
  (nearestStart_le b _).trans (Nat.min_le_left _ _)

lemma insertionPoint_lt {b : Buffer} (hb : b.WellFormed) (i : Nat) : insertionPoint b i < b.lineCount := by
  have h := nearestStart_le b (min i (b.lineCount - 1))
  have hp := hb.lineCount_pos
  rw [insertionPoint]
  omega

lemma insertionPoint_of_lt {b : Buffer} {i : Nat} (hi : i < b.lineCount) :
    insertionPoint b i = nearestStart b i := by
  rw [insertionPoint, Nat.min_eq_left (by omega)]

section Below

variable {b : Buffer} {A R : List Text} (hb : b.lines = A ++ R) {d : Nat} (hd : d < R.length)
  (hquiet : ∀ j, 0 < j → j ≤ d → startsFunction ⟨R, b.crlf⟩ j = false)

include hb

lemma startsFunction_of_append (j : Nat) : startsFunction b (A.length + j) = startsFunction ⟨R, b.crlf⟩ j := by
  rw [← startsFunction_append A R b.crlf b.crlf, ← hb]

include hd hquiet

lemma insertionPoint_of_start (hs : startsFunction ⟨R, b.crlf⟩ 0 = true) :
    insertionPoint b (A.length + d) = A.length := by
  rw [insertionPoint_of_lt (by simpa [Buffer.lineCount, hb] using hd)]
  refine nearestStart_eq (Or.inl ?_) (by omega) fun k hk hkd => ?_
  · exact (startsFunction_of_append hb 0).trans hs
  · obtain ⟨j, rfl⟩ := Nat.exists_eq_add_of_lt hk
    rw [Nat.add_assoc, startsFunction_of_append hb]
    exact hquiet _ (by omega) (by omega)

lemma insertionPoint_le_of_quiet : insertionPoint b (A.length + d) ≤ A.length := by
  rw [insertionPoint_of_lt (by simpa [Buffer.lineCount, hb] using hd)]
  by_contra hlt
  have hle := nearestStart_le b (A.length + d)
  obtain ⟨j, hj⟩ := Nat.exists_eq_add_of_lt (Nat.lt_of_not_le hlt)
  rcases (nearestStart_spec b (A.length + d)).1 with hs | hs
  · rw [hj, Nat.add_assoc, startsFunction_of_append hb, hquiet _ (by omega) (by omega)] at hs
    simp at hs
  · omega

end Below

lemma startsFunction_drop {b : Buffer} {i : Nat} (hi : i ≤ b.lineCount) (crlf : Bool) (j : Nat) :
    startsFunction b (i + j) = startsFunction ⟨b.lines.drop i, crlf⟩ j := by
  have happ := startsFunction_append (b.lines.take i) (b.lines.drop i) b.crlf crlf j
  rwa [List.take_append_drop, List.length_take_of_le hi] at happ

section Insertion

variable {b : Buffer} {i : Nat} (hi : i < b.lineCount) (ls : List Text)

include hi

lemma startsFunction_withBlock (d : Nat) :
    startsFunction (b.withBlock i i ls) (i + d) = startsFunction ⟨ls ++ b.lines.drop i, b.crlf⟩ d := by
  have hlen : (b.lines.take i).length = i := List.length_take_of_le hi.le
  have happ := startsFunction_append (b.lines.take i) (ls ++ b.lines.drop i) b.crlf b.crlf d
  rw [hlen] at happ
  rw [Buffer.withBlock, Buffer.linesFrom, if_pos hi, startsFunction_dropReturn _ _ b.crlf, List.append_assoc, happ]

lemma startsFunction_below (d : Nat) :
    startsFunction (b.withBlock i i ls) (i + (ls.length + d)) = startsFunction b (i + d) := by
  rw [startsFunction_withBlock hi, startsFunction_append ls _ b.crlf b.crlf, ← startsFunction_drop hi.le]

end Insertion

lemma insertionPoint_drop {b : Buffer} {l : Nat} (hl : l < b.lineCount) (crlf : Bool) :
    let i := insertionPoint b l
    (startsFunction ⟨b.lines.drop i, crlf⟩ 0 = true ∨ i = 0) ∧
      ∀ j, 0 < j → j ≤ l - i → startsFunction ⟨b.lines.drop i, crlf⟩ j = false := by
  have hle := insertionPoint_le b l
  obtain ⟨hstart, hquiet⟩ := nearestStart_spec b l
  rw [← insertionPoint_of_lt hl] at hstart hquiet
  have hfrom := startsFunction_drop (hle.trans hl.le) crlf
  refine ⟨hstart.imp_left fun hs => (hfrom 0).symm.trans hs, fun j hj hjl => ?_⟩
  rw [← hfrom]
  exact hquiet _ (by omega) (by omega)

lemma findIdx?_eq_some_iff_append {p : Text → Bool} {ls : List Text} {k : Nat} : ls.findIdx? p = some k ↔
    ∃ I z R, ls = I ++ z :: R ∧ I.length = k ∧ (∀ l ∈ I, p l = false) ∧ p z = true := by
  rw [List.findIdx?_eq_some_iff_getElem]
  constructor
  · rintro ⟨h, hz, hI⟩
    refine ⟨ls.take k, ls[k], ls.drop (k + 1), by simp, by simp; omega, fun l hl => ?_, hz⟩
    obtain ⟨j, hj, rfl⟩ := List.mem_take_iff_getElem.1 hl
    simpa using hI j (by omega)
  · rintro ⟨I, z, R, rfl, rfl, hI, hz⟩
    refine ⟨by simp, by simpa using hz, fun j hj => ?_⟩
    simp [List.getElem_append_left hj, hI _ (List.getElem_mem hj)]

/-- A list of lines with a definition of `name` in it: the head, the lines inside and the line that closes
the body, between the lines above and below. -/
structure Definition (name : Text) where
  above : List Text
  head : Text
  inside : List Text
  close : Text
  below : List Text
  defines : Signature.defines name head = true
  inside_open : ∀ l ∈ inside, closesBody l = false
  closes : closesBody close = true

namespace Definition

variable {name : Text}

def lines (D : Definition name) : List Text :=
  D.above ++ D.head :: (D.inside ++ D.close :: D.below)

def range (D : Definition name) : LineRange :=
  ⟨D.above.length, D.above.length + D.inside.length + 2⟩

lemma getElem?_close (D : Definition name) : D.lines[D.above.length + D.inside.length + 1]? = some D.close := by
  have hi : D.above.length + D.inside.length + 1 = D.above.length + (D.inside.length + 1) := by omega
  rw [lines, List.getElem?_append_right (by omega), hi, Nat.add_sub_cancel_left]
  simp

lemma mem_inside (D : Definition name) {i : Nat} {l : Text} (hl : D.lines[i]? = some l)
    (hi : D.above.length < i) (hs : i < D.above.length + D.inside.length + 1) : l ∈ D.inside := by
  obtain ⟨k, rfl⟩ : ∃ k, i = D.above.length + (k + 1) := ⟨i - D.above.length - 1, by omega⟩
  rw [lines, List.getElem?_append_right (by omega), Nat.add_sub_cancel_left, List.getElem?_cons_succ,
    List.getElem?_append_left (by omega)] at hl
  exact List.mem_of_getElem? hl

lemma stop_le (D : Definition name) : D.range.stop ≤ D.lines.length := by
  simp [range, lines]
  omega

end Definition

lemma definitionAt?_eq_some_iff {b : Buffer} {name : Text} {i : Nat} {r : LineRange} :
    definitionAt? b name i = some r ↔
      ∃ D : Definition name, D.lines = b.lines ∧ D.above.length = i ∧ D.range = r := by
  constructor
  · intro h
    rw [definitionAt?] at h
    split_ifs at h with hd
    rw [Option.any_eq_true] at hd
    obtain ⟨l, hl, hd⟩ := hd
    simp only [closingLine?, Option.map_eq_some_iff] at h
    obtain ⟨j, ⟨k, hk, rfl⟩, rfl⟩ := h
    obtain ⟨I, z, R, hls, rfl, hI, hz⟩ := findIdx?_eq_some_iff_append.1 hk
    obtain ⟨hi, rfl⟩ := List.getElem?_eq_some_iff.1 hl
    refine ⟨⟨b.lines.take i, b.lines[i], I, z, R, hd, hI, hz⟩, ?_, by simp; omega, ?_⟩
    · simp [Definition.lines, ← hls]
    · simp [Definition.range]
      omega
  · rintro ⟨D, hD, rfl, rfl⟩
    have hd : (b.line? D.above.length).any (Signature.defines name) = true := by
      rw [Buffer.line?, ← hD]
      simp [Definition.lines, D.defines]
    have hf : (b.lines.drop (D.above.length + 1)).findIdx? closesBody = some D.inside.length := by
      refine findIdx?_eq_some_iff_append.2 ⟨D.inside, D.close, D.below, ?_, rfl, D.inside_open, D.closes⟩
      simp [← hD, Definition.lines, List.drop_append]
    rw [definitionAt?, if_pos hd, closingLine?, hf]
    simp [Definition.range]
    omega

lemma findSome?_range_eq_some_iff {f : Nat → Option LineRange} {n : Nat} {r : LineRange} :
    (List.range n).findSome? f = some r ↔ ∃ i < n, f i = some r ∧ ∀ j < i, f j = none := by
  induction n with
  | zero => simp
  | succ n ih =>
    rw [List.range_succ, List.findSome?_append, Option.or_eq_some_iff, ih, List.findSome?_eq_none_iff]
    simp only [List.mem_range, List.findSome?_singleton]
    constructor
    · rintro (⟨i, hi, h⟩ | ⟨hn, hr⟩)
      · exact ⟨i, by omega, h⟩
      · exact ⟨n, by omega, hr, hn⟩
    · rintro ⟨i, hi, hr, hn⟩
      rcases Nat.lt_or_eq_of_le (Nat.le_of_lt_succ hi) with hi | rfl
      · exact Or.inl ⟨i, hi, hr, hn⟩
      · exact Or.inr ⟨hn, hr⟩

lemma existingStub?_eq_some_iff {b : Buffer} {before : Nat} {name : Text} {r : LineRange} :
    existingStub? b before name = some r ↔
      ∃ D : Definition name, D.lines = b.lines ∧ D.above.length < before ∧
        (∀ l ∈ D.above, Signature.defines name l = false) ∧ D.range = r := by
  rw [existingStub?, findSome?_range_eq_some_iff]
  constructor
  · rintro ⟨i, hi, hr, hn⟩
    obtain ⟨D, hD, rfl, rfl⟩ := definitionAt?_eq_some_iff.1 hr
    refine ⟨D, hD, by omega, fun l hl => ?_, rfl⟩
    by_contra hd
    -- The closing line of `D` would also close the earlier definition.
    obtain ⟨A, B, hA⟩ := List.append_of_mem hl
    have hnone := hn A.length (by simp [hA])
    have hclose : ∃ k, (b.lines.drop (A.length + 1)).findIdx? closesBody = some k := by
      rw [← Option.isSome_iff_exists, List.findIdx?_isSome, List.any_eq_true]
      refine ⟨D.close, ?_, D.closes⟩
      simp [← hD, Definition.lines, hA, List.drop_append]
    obtain ⟨k, hk⟩ := hclose
    have hline : b.line? A.length = some l := by simp [Buffer.line?, ← hD, Definition.lines, hA]
    rw [definitionAt?, hline, Option.any_some, if_pos (by simpa using hd), closingLine?, hk] at hnone
    simp at hnone
  · rintro ⟨D, hD, hb, hn, rfl⟩
    refine ⟨D.above.length, ?_, definitionAt?_eq_some_iff.2 ⟨D, hD, rfl, rfl⟩, fun j hj => ?_⟩
    · rw [Buffer.lineCount, ← hD, lt_min_iff]
      exact ⟨hb, by simp [Definition.lines]⟩
    · have hline : b.line? j = some D.above[j] := by
        simp [Buffer.line?, ← hD, Definition.lines, List.getElem?_append_left hj]
      rw [definitionAt?, hline, Option.any_some, hn _ (List.getElem_mem hj)]
      rfl

lemma existingStub?_eq_none_iff {b : Buffer} {before : Nat} {name : Text} :
    existingStub? b before name = none ↔
      ∀ D : Definition name, D.lines = b.lines → before ≤ D.above.length := by
  rw [existingStub?, List.findSome?_eq_none_iff]
  constructor
  · intro h D hD
    by_contra hb
    have hlt : D.above.length < b.lineCount := by simp [Buffer.lineCount, ← hD, Definition.lines]
    have hn := h D.above.length (List.mem_range.2 (by omega))
    rw [definitionAt?_eq_some_iff.2 ⟨D, hD, rfl, rfl⟩] at hn
    simp at hn
  · intro h i hi
    rw [List.mem_range] at hi
    cases hd : definitionAt? b name i with
    | none => rfl
    | some r =>
      obtain ⟨D, hD, rfl, -⟩ := definitionAt?_eq_some_iff.1 hd
      have := h D hD
      omega

lemma existingStub?_eq_none_of_append {b : Buffer} {A R : List Text} {name : Text} (hb : b.lines = A ++ R)
    (hA : ∀ l ∈ A, Signature.defines name l = false) : existingStub? b A.length name = none := by
  rw [existingStub?_eq_none_iff]
  intro D hD
  by_contra hlt
  have hhead : (A ++ R)[D.above.length]? = some D.head := by simp [← hb, ← hD, Definition.lines]
  rw [List.getElem?_append_left (by omega)] at hhead
  simpa [D.defines] using hA _ (List.mem_of_getElem? hhead)

end CallStubs.Placement
