import CallStubs.Proofs.AcceptedEdits

/-! Whole lines that are written into a buffer move the lines below them, and the places for stubs there. -/

namespace CallStubs

lemma exists_block_of_getLast? {t : Text} (h : t.getLast? = some '\n') :
    ∃ ls, (∀ l ∈ ls, '\n' ∉ l) ∧ t = block ls ∧ t.count '\n' = ls.length := by
  obtain ⟨A, z, hA⟩ := exists_splitOn_eq t
  have hpieces : ∀ l ∈ A ++ [z], '\n' ∉ l := fun l hl => feedless_of_mem_splitOn (hA ▸ hl)
  rw [List.forall_mem_append, List.forall_mem_singleton] at hpieces
  have ht := eq_block_append hA
  cases z with
  | nil =>
    rw [List.append_nil] at ht
    exact ⟨A, hpieces.1, ht, ht ▸ Stub.span_block hpieces.1⟩
  | cons c z =>
    rw [ht, List.getLast?_append_of_ne_nil _ (List.cons_ne_nil c z)] at h
    exact absurd (List.mem_of_getLast? h) hpieces.2

namespace Placement

variable {b : Buffer}

lemma insertionPoint_min (b : Buffer) (l : Nat) :
    insertionPoint b (min l (b.lineCount - 1)) = insertionPoint b l := by
  rw [insertionPoint, insertionPoint, min_assoc, min_self]

lemma nearestStart_mono (b : Buffer) {i j : Nat} (hij : i ≤ j) : nearestStart b i ≤ nearestStart b j := by
  rcases (nearestStart_spec b i).1 with hs | hs
  · exact le_nearestStart hs ((nearestStart_le b i).trans hij)
  · rw [hs]
    exact Nat.zero_le _

lemma nearestStart_nearestStart (b : Buffer) (i : Nat) : nearestStart b (nearestStart b i) = nearestStart b i :=
  nearestStart_eq (nearestStart_spec b i).1 le_rfl fun _ hj hji => absurd (hj.trans_le hji) (lt_irrefl _)

lemma insertionPoint_mono (b : Buffer) {l l' : Nat} (hl : l ≤ l') : insertionPoint b l ≤ insertionPoint b l' :=
  nearestStart_mono b (min_le_min_right _ hl)

lemma insertionPoint_insertionPoint (b : Buffer) (l : Nat) :
    insertionPoint b (insertionPoint b l) = insertionPoint b l := by
  have hle := nearestStart_le b (min l (b.lineCount - 1))
  rw [insertionPoint, insertionPoint, Nat.min_eq_left (hle.trans (Nat.min_le_right _ _)), nearestStart_nearestStart]

lemma insertionPoint_withBlock {l : Nat} (hl : l < b.lineCount) (hs : startsFunction b (insertionPoint b l) = true)
    (ls : List Text) :
    let i := insertionPoint b l
    insertionPoint (b.withBlock i i ls) (l + ls.length) = i + ls.length := by
  intro i
  have hle : i ≤ l := insertionPoint_le b l
  have hi : i < b.lineCount := hle.trans_lt hl
  have hbelow := startsFunction_below hi ls
  have hquiet := (nearestStart_spec b l).2
  rw [← insertionPoint_of_lt hl] at hquiet
  rw [insertionPoint_of_lt (by rw [Buffer.lineCount_withBlock hi]; omega)]
  apply nearestStart_eq
  · exact Or.inl ((hbelow 0).trans hs)
  · omega
  · intro j hj hjl
    obtain ⟨d, rfl⟩ : ∃ d, j = i + (ls.length + d) := ⟨j - i - ls.length, by omega⟩
    rw [hbelow]
    exact hquiet _ (by omega) (by omega)

/-- The place for a stub is at or above the line, moves with it in the same direction, and is its own place. Whole lines
that are inserted there in front of a function move it by their number, for the line that has moved with them. -/
theorem insertion_point_stable (b : Buffer) (hb : b.WellFormed) :
    (∀ l, insertionPoint b l ≤ min l (b.lineCount - 1)) ∧
    (∀ l l', l ≤ l' → insertionPoint b l ≤ insertionPoint b l') ∧
    (∀ l, insertionPoint b (insertionPoint b l) = insertionPoint b l) ∧
    ∀ l t, startsFunction b (insertionPoint b l) = true → t.getLast? = some '\n' →
      ∃ b', b.apply (.insert (insertionPoint b l) t) = .ok b' ∧
        insertionPoint b' (min l (b.lineCount - 1) + t.count '\n') = insertionPoint b l + t.count '\n' := by
  refine ⟨fun l => nearestStart_le b _, fun l l' => insertionPoint_mono b, insertionPoint_insertionPoint b, ?_⟩
  intro l t hs ht
  obtain ⟨ls, hls, rfl, hcount⟩ := exists_block_of_getLast? ht
  refine ⟨_, Buffer.apply_insert_block hb (insertionPoint_lt hb l) hls, ?_⟩
  have hl : min l (b.lineCount - 1) < b.lineCount := by
    have hpos := hb.lineCount_pos
    omega
  rw [← insertionPoint_min] at hs
  have hmoved := insertionPoint_withBlock hl hs ls
  rw [insertionPoint_min] at hmoved
  rw [hcount]
  exact hmoved

theorem insertion_point_stable_past_edited_line :
    let b : Buffer := ⟨["x".toList, "int solve(int n,".toList, "  int m)".toList, "\x7b".toList, "\x7d".toList], true⟩
    let t : Text := "void f() \x7b\r\n\x7d\n\n".toList
    b.WellFormed ∧ startsFunction b (insertionPoint b 2) = true ∧ t.getLast? = some '\n' ∧
      insertionPoint b 2 = 1 ∧ insertionPoint b 2 ≤ insertionPoint b 40 ∧
      ∃ b', b.apply (.insert 1 t) = .ok b' ∧ insertionPoint b' 5 = 4 := by
  intro b t
  have hb : b.WellFormed := ⟨by decide, by decide⟩
  have hs : startsFunction b (insertionPoint b 2) = true := by decide +kernel
  have ht : t.getLast? = some '\n' := by decide
  obtain ⟨-, hmono, -, hinsert⟩ := insertion_point_stable b hb
  obtain ⟨b', happly, hpoint⟩ := hinsert 2 t hs ht
  exact ⟨hb, hs, ht, by decide +kernel, hmono 2 40 (by decide), b', happly, hpoint⟩

end Placement

namespace Action

variable {b : Buffer} {a : Action}

lemma range_of_apply {b' : Buffer} {t : Text} (h : b.apply (a.edit t) = .ok b') :
    a.range.start ≤ a.range.stop ∧ a.range.start < b.lineCount := by
  cases a with
  | inserted f i =>
    simp only [edit, Buffer.apply] at h
    split_ifs at h with hi
    exact ⟨le_rfl, Nat.lt_of_not_le hi⟩
  | replaced f r =>
    simp only [edit, Buffer.apply] at h
    split_ifs at h with hr hs
    exact ⟨Nat.le_of_not_lt hr, Nat.lt_of_not_le hs⟩

section Accepted

variable (hr : a.range.start ≤ a.range.stop) (hs : a.range.start < b.lineCount)

include hr hs

lemma apply_edit_block (hb : b.WellFormed) {ls : List Text} (hls : ∀ l ∈ ls, '\n' ∉ l) :
    b.apply (a.edit (block ls)) = .ok (a.result b ls) := by
  rw [apply_edit hr hs, Buffer.splice_block hb hs _ hls, result]

lemma line?_result (ls : List Text) {c : Nat} (hc : c < b.lineCount) (hout : c < a.range.start ∨ a.range.stop ≤ c) :
    (a.result b ls).line? (a.shift ls.length c) = (b.line? c).map dropReturn := by
  rcases hout with habove | hbelow
  · have hspare : ¬a.Spares c := Nat.not_le.2 (habove.trans_le hr)
    rw [shift_of_not_spares hspare, result, Buffer.line?_withBlock_above habove hs]
  · rw [Spares.shift_eq hbelow hr, result, Buffer.line?_withBlock hr hbelow hc]

end Accepted

/-- A stub is accepted for any range that is not inverted and starts at a line, and the shifted number of a line outside
of that range is where the line is found afterwards. The size of a range is taken only from the number of a line
below it. -/
theorem shift_follows_line (hb : b.WellFormed) (hreturn : ∀ l ∈ b.lines, l.getLast? ≠ some '\r') {c : Nat}
    (hc : c < b.lineCount) (style : Stub.Style) (h : Stub.Head) :
    let stub := Stub.render style h
    (∀ a : Action, (∃ b', b.apply (a.edit stub) = .ok b') ↔
      a.range.start ≤ a.range.stop ∧ a.range.start < b.lineCount) ∧
    ∀ (a : Action) (b' : Buffer), b.apply (a.edit stub) = .ok b' → c < a.range.start ∨ a.range.stop ≤ c →
      b'.line? (a.shift (Stub.span stub) c) = b.line? c ∧ (a.range.stop ≤ c → a.range.size ≤ c) := by
  intro stub
  have hlast : stub.getLast? = some '\n' := by
    simp only [stub, Stub.render_eq]
    exact (getLast?_block (Stub.lines style h)).resolve_left fun hnone => by simp [Stub.lines_eq] at hnone
  obtain ⟨ls, hls, hstub, hspan⟩ := exists_block_of_getLast? hlast
  have hline : (b.line? c).map dropReturn = b.line? c := by
    have hget : b.line? c = some b.lines[c] := List.getElem?_eq_getElem hc
    rw [hget, Option.map_some, dropReturn_of_getLast _ (hreturn _ (List.getElem_mem hc))]
  refine ⟨fun a => ⟨fun ⟨_, happly⟩ => range_of_apply happly, fun ⟨hr, hs⟩ => ⟨_, apply_edit hr hs stub⟩⟩, ?_⟩
  intro a b' happly hout
  obtain ⟨hr, hs⟩ := range_of_apply happly
  constructor
  · rw [hstub, apply_edit_block hr hs hb hls, Except.ok.injEq] at happly
    rw [← happly, Stub.span, hspan, line?_result hr hs ls hc hout, hline]
  · intro hbelow
    exact (Nat.sub_le _ _).trans hbelow

theorem shift_follows_line_around_range :
    let b : Buffer := ⟨["void f()\x7b".toList, "\x7d".toList, "é".toList, "int g() \x7b".toList, "\x7d".toList], true⟩
    let stub := Stub.render ⟨"\t\r\n\x7d".toList⟩ ⟨"f\r\n".toList, ["int x".toList], "void".toList⟩
    b.WellFormed ∧ (∀ l ∈ b.lines, l.getLast? ≠ some '\r') ∧ 2 < b.lineCount ∧
      (∃ b', b.apply (.replace ⟨0, 2⟩ stub) = .ok b' ∧ b'.line? 7 = some "é".toList ∧ 2 ≤ 2) ∧
      (∃ b', b.apply (.replace ⟨3, 5⟩ stub) = .ok b' ∧ b'.line? 2 = some "é".toList) ∧
      ∃ b', b.apply (.insert 2 stub) = .ok b' ∧ b'.line? 9 = some "é".toList := by
  intro b stub
  have hb : b.WellFormed := ⟨by decide, by decide⟩
  have hreturn : ∀ l ∈ b.lines, l.getLast? ≠ some '\r' := by decide
  have hc : 2 < b.lineCount := by decide
  obtain ⟨haccepted, hline⟩ :=
    shift_follows_line hb hreturn hc ⟨"\t\r\n\x7d".toList⟩ ⟨"f\r\n".toList, ["int x".toList], "void".toList⟩
  obtain ⟨b₁, h₁⟩ := (haccepted (.replaced [] ⟨0, 2⟩)).2 (by decide)
  obtain ⟨b₂, h₂⟩ := (haccepted (.replaced [] ⟨3, 5⟩)).2 (by decide)
  obtain ⟨b₃, h₃⟩ := (haccepted (.inserted [] 2)).2 (by decide)
  obtain ⟨hline₁, hsize⟩ := hline _ b₁ h₁ (by decide)
  exact ⟨hb, hreturn, hc, ⟨b₁, h₁, hline₁, hsize le_rfl⟩, ⟨b₂, h₂, (hline _ b₂ h₂ (by decide)).1⟩,
    ⟨b₃, h₃, (hline _ b₃ h₃ (by decide)).1⟩⟩

end Action

end CallStubs
