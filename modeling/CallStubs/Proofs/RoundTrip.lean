import CallStubs.Proofs.LineEndings

/-! Which texts are written again as they were read, and which buffers are read again as they were written. -/

namespace CallStubs

lemma map_eq_self_iff {f : Text → Text} {ls : List Text} : ls.map f = ls ↔ ∀ l ∈ ls, f l = l := by
  conv_lhs => rhs; rw [← List.map_id ls]
  exact List.map_inj_left

lemma marked_concat (mark : Text) (A : List Text) (z : Text) : marked mark (A ++ [z]) = A.map (· ++ mark) ++ [z] := by
  induction A with
  | nil => rfl
  | cons l A ih =>
    obtain ⟨k, ls, hk⟩ := List.exists_cons_of_ne_nil (List.append_ne_nil_of_right_ne_nil A (List.cons_ne_nil z []))
    rw [List.cons_append, hk, marked, ← hk, ih]
    rfl

namespace Buffer

section Pieces

variable {t : Text} {A : List Text} {z : Text} (h : t.splitOn '\n' = A ++ [z])

include h

lemma toText_ofText_iff_pieces :
    (ofText t).toText = t ↔ (∀ l ∈ A, dropReturn l ++ (ofText t).mark = l) ∧ dropReturn z = z := by
  have hsplit : (ofText t).toText.splitOn '\n' =
      A.map (fun l => dropReturn l ++ (ofText t).mark) ++ [dropReturn z] := by
    have hlines : (ofText t).lines = A.map dropReturn ++ [dropReturn z] := by
      rw [ofText, splitLines, h, List.map_append, List.map_singleton]
    rw [(wellFormed_ofText t).splitOn_toText, hlines, marked_concat, List.map_map]
    rfl
  have hinj : (ofText t).toText = t ↔ (ofText t).toText.splitOn '\n' = t.splitOn '\n' := by
    refine ⟨fun he => by rw [he], fun he => ?_⟩
    have hjoin := congrArg (['\n'].intercalate ·) he
    simpa only [List.intercalate_splitOn] using hjoin
  rw [hinj, hsplit, h, List.append_singleton_inj, map_eq_self_iff]

lemma forall_feed_iff : (∀ x y, t = x ++ '\n' :: y → x.getLast? = some '\r') ↔ ∀ l ∈ A, l.getLast? = some '\r' := by
  constructor
  · intro hfeed l hl
    obtain ⟨B, C, rfl⟩ := List.append_of_mem hl
    refine (getLast?_block_append B l).1 (hfeed _ (block C ++ z) ?_)
    rw [eq_block_append h]
    simp [block]
  · rintro hA x y rfl
    rw [List.splitOn_append_cons_self] at h
    obtain ⟨B, w, hw⟩ := exists_splitOn_eq x
    have hmem : w ∈ A := by
      have hdrop := congrArg List.dropLast h
      rw [List.dropLast_concat, List.dropLast_append_of_ne_nil (List.splitOn_ne_nil '\n' y), hw] at hdrop
      rw [← hdrop]
      simp
    exact (getLast?_eq_return_iff hw).2 (hA w hmem)

end Pieces

lemma toText_ofText_iff (t : Text) : (ofText t).toText = t ↔
    (¬"\r\n".toList <:+: t ∨ ∀ x y, t = x ++ '\n' :: y → x.getLast? = some '\r') ∧ t.getLast? ≠ some '\r' := by
  obtain ⟨A, z, h⟩ := exists_splitOn_eq t
  have hcrlf : "\r\n".toList <:+: t ↔ ∃ l ∈ A, l.getLast? = some '\r' := by
    rw [← Text.includes_iff, Text.includes_return_iff, h, List.dropLast_concat]
  rw [toText_ofText_iff_pieces h, forall_feed_iff h, Ne, getLast?_eq_return_iff h, dropReturn_eq_self_iff]
  refine and_congr_left fun _ => ?_
  by_cases hc : "\r\n".toList <:+: t
  · have hmark : (ofText t).mark = ['\r'] := if_pos (Text.includes_iff.2 hc)
    rw [hmark, or_iff_right (not_not_intro hc)]
    refine forall₂_congr fun l _ => ⟨fun hl => ?_, fun hl => ?_⟩
    · rw [← hl, List.getLast?_concat]
    · rw [dropReturn, if_pos hl, List.dropLast_append_getLast? _ hl]
  · have hmark : (ofText t).mark = [] := if_neg (mt Text.includes_iff.1 hc)
    rw [hmark, iff_true_right (Or.inl hc)]
    intro l hl
    rw [List.append_nil, dropReturn_eq_self_iff]
    exact fun hr => hc (hcrlf.2 ⟨l, hl, hr⟩)

lemma crlf_infix_iff {t : Text} :
    "\r\n".toList <:+: t ↔ ∃ x y, t = x ++ '\n' :: y ∧ x.getLast? = some '\r' := by
  constructor
  · rintro ⟨x, y, rfl⟩
    exact ⟨x ++ ['\r'], y, by simp, List.getLast?_concat⟩
  · rintro ⟨x, y, rfl, hx⟩
    refine ⟨x.dropLast, y, ?_⟩
    conv_rhs => rw [← List.dropLast_append_getLast? _ hx]
    simp

lemma lines_ofText_iff {b : Buffer} (hb : b.WellFormed) : (ofText b.toText).lines = b.lines ↔ b.Settled := by
  refine ⟨fun h => ?_, fun h => h.lines_ofText hb⟩
  obtain ⟨A, z, hA⟩ := (List.eq_nil_or_concat' b.lines).resolve_left hb.nonempty
  rw [ofText, splitLines, hb.splitOn_toText, hA, marked_concat, List.map_append, List.map_singleton, List.map_map,
    List.append_singleton_inj, map_eq_self_iff] at h
  refine ⟨fun hc l hl => ?_, fun l hl => ?_⟩
  · rw [hA, List.mem_append, List.mem_singleton] at hl
    rcases hl with hl | rfl
    · have hmark : b.mark = [] := if_neg (by simp [hc])
      simpa only [Function.comp_apply, hmark, List.append_nil] using h.1 l hl
    · exact h.2
  · rw [hA, List.getLast?_concat, Option.mem_some_iff] at hl
    exact hl ▸ h.2

lemma Settled.crlf_ofText_iff {b : Buffer} (h : b.Settled) (hb : b.WellFormed) :
    (ofText b.toText).crlf = b.crlf ↔ (b.crlf = true → 2 ≤ b.lineCount) := by
  refine ⟨fun he hc => ?_, h.crlf_ofText hb⟩
  rw [← he, ofText, Text.includes_return_iff, hb.splitOn_toText, dropLast_marked] at hc
  obtain ⟨_, hl, -⟩ := hc
  have hpos := List.length_pos_of_mem hl
  rw [List.length_map, List.length_dropLast] at hpos
  exact Nat.add_lt_of_lt_sub hpos

lemma ofText_toText_iff {b : Buffer} (hb : b.WellFormed) :
    ofText b.toText = b ↔ b.Settled ∧ (b.crlf = true → 2 ≤ b.lineCount) := by
  have hparts : ofText b.toText = b ↔ (ofText b.toText).lines = b.lines ∧ (ofText b.toText).crlf = b.crlf := by
    refine ⟨fun h => ⟨congrArg Buffer.lines h, congrArg Buffer.crlf h⟩, fun ⟨hl, hc⟩ => ?_⟩
    cases b
    exact congrArg₂ Buffer.mk hl hc
  rw [hparts, lines_ofText_iff hb]
  exact and_congr_right fun h => h.crlf_ofText_iff hb

lemma settled_iff {b : Buffer} : b.Settled ↔ (∀ l ∈ b.lines.getLast?, l.getLast? ≠ some '\r') ∧
    (b.crlf = false → ∀ l ∈ b.lines, l.getLast? ≠ some '\r') := by
  simp only [← dropReturn_eq_self_iff]
  exact ⟨fun h => ⟨h.last, h.inner⟩, fun h => ⟨h.2, h.1⟩⟩

/-- A text comes back if no line ending has a carriage return, or every one has, and none stands at the end of the
text. A buffer comes back if its last line ends in no carriage return, and no line does so without the flag; with the
flag a line ending must be there to show it. -/
theorem round_trip_iff :
    (∀ t : Text, (ofText t).toText = t ↔ t.getLast? ≠ some '\r' ∧
      ((∀ x y, t = x ++ '\n' :: y → x.getLast? ≠ some '\r') ∨ ∀ x y, t = x ++ '\n' :: y → x.getLast? = some '\r')) ∧
    ∀ b : Buffer, b.WellFormed → (ofText b.toText = b ↔ (∀ l ∈ b.lines.getLast?, l.getLast? ≠ some '\r') ∧
      (b.crlf = true ∧ 2 ≤ b.lineCount ∨ b.crlf = false ∧ ∀ l ∈ b.lines, l.getLast? ≠ some '\r')) := by
  refine ⟨fun t => ?_, fun b hb => ?_⟩
  · rw [toText_ofText_iff, and_comm, crlf_infix_iff]
    simp only [not_exists, not_and]
  · rw [ofText_toText_iff hb, settled_iff, and_assoc]
    refine and_congr_right fun _ => ?_
    cases b.crlf with
    | true => simp
    | false => simp

theorem round_trip_iff_of_spare_returns :
    let t : Text := "a\r\r\nb".toList
    let b : Buffer := ⟨["a\r".toList, "b".toList], true⟩
    let c : Buffer := ⟨["a".toList], true⟩
    (ofText t).toText = t ∧ b.WellFormed ∧ ofText b.toText = b ∧ c.WellFormed ∧ ofText c.toText ≠ c := by
  intro t b c
  have hb : b.WellFormed := ⟨by decide, by decide⟩
  have hc : c.WellFormed := ⟨by decide, by decide⟩
  obtain ⟨htext, hbuffer⟩ := round_trip_iff
  have hsplit : t.splitOn '\n' = ["a\r\r".toList] ++ ["b".toList] := by decide
  refine ⟨(htext t).2 ⟨by decide, Or.inr ((forall_feed_iff hsplit).2 (by decide))⟩, hb,
    (hbuffer b hb).2 ⟨by decide, Or.inl (by decide)⟩, hc, fun h => ?_⟩
  exact absurd ((hbuffer c hc).1 h).2 (by decide)

end Buffer

end CallStubs
