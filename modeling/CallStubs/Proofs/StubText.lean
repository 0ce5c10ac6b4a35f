import CallStubs.Proofs.LineEndings
import CallStubs.Proofs.TypeSpelling

/-! The lines of a stub, seen by the recognisers that look for it again. -/

namespace CallStubs

namespace Placement

@[simp] lemma closesBody_dropReturn (l : Text) : closesBody (dropReturn l) = closesBody l := by
  rw [closesBody, closesBody, Text.trim_dropReturn]

lemma closesBody_iff {l : Text} : closesBody l = true ↔ Text.trim l = "\x7d".toList :=
  beq_iff_eq

lemma eq_of_closesBody {l : Text} (h : closesBody l = true) {c : Char} (hc : c ∈ l) (hb : Text.isBlank c = false) :
    c = '\x7d' := by
  have hm := Text.mem_trim_of_mem hc hb
  rw [closesBody_iff.1 h] at hm
  exact List.mem_singleton.1 hm

lemma defines_of_closesBody {l : Text} (h : closesBody l = true) (name : Text) :
    Signature.defines name l = false := by
  rw [← Bool.not_eq_true, Signature.defines_iff]
  intro hd
  exact absurd (eq_of_closesBody h hd.paren_mem (by decide)) (by decide)

lemma defines_nil (name : Text) : Signature.defines name [] = false := rfl

lemma defines_blank_append {b : Text} (hb : Text.isBlankText b = true) (name t : Text) :
    Signature.defines name (b ++ t) = Signature.defines name t := by
  rw [Signature.defines, Signature.defines, Text.skipBlanks_append hb]

lemma closesBody_blank_append {b : Text} (hb : Text.isBlankText b = true) (t : Text) :
    closesBody (b ++ t) = closesBody t := by
  rw [closesBody, closesBody, Text.trim_blank_append hb]

end Placement

namespace Stub

namespace Style

variable (s : Style)

/-- An indent that holds line feeds puts lines of its own above each line that it indents. -/
def above : List Text :=
  (s.indent.splitOn '\n').dropLast

def margin : Text :=
  (s.indent.splitOn '\n').getLast (List.splitOn_ne_nil '\n' s.indent)

lemma splitOn_indent : s.indent.splitOn '\n' = s.above ++ [s.margin] :=
  (List.dropLast_append_getLast _).symm

lemma indent_eq : s.indent = block s.above ++ s.margin :=
  eq_block_append s.splitOn_indent

lemma feedless_above : ∀ l ∈ s.above, '\n' ∉ l :=
  fun _ hl => feedless_of_mem_splitOn (List.mem_of_mem_dropLast hl)

lemma feedless_margin : '\n' ∉ s.margin :=
  feedless_of_mem_splitOn (List.getLast_mem _)

variable {s}

section Blank

variable (hi : Text.isBlankText s.indent = true)

include hi

lemma blank_of_mem_splitOn {l : Text} (hl : l ∈ s.indent.splitOn '\n') : Text.isBlankText l = true :=
  Text.isBlankText_iff.2 fun c hc => Text.isBlankText_iff.1 hi c ((infix_of_mem_splitOn hl).subset hc)

lemma blank_above : ∀ l ∈ s.above, Text.isBlankText l = true :=
  fun _ hl => blank_of_mem_splitOn hi (List.mem_of_mem_dropLast hl)

lemma blank_margin : Text.isBlankText s.margin = true :=
  blank_of_mem_splitOn hi (List.getLast_mem _)

end Blank

lemma trim_of_mem_above (hi : Text.isBlankText s.indent = true) {l : Text} (hl : l ∈ s.above) : Text.trim l = [] := by
  rw [← List.append_nil l, Text.trim_blank_append (blank_above hi l hl)]
  rfl

lemma dropReturn_above (hr : Text.includes "\r\n".toList s.indent = false) : ∀ l ∈ s.above, dropReturn l = l := by
  intro l hl
  refine dropReturn_of_getLast l fun hc => ?_
  exact absurd (Text.includes_return_iff.2 ⟨l, hl, hc⟩) (ne_true_of_eq_false hr)

/-- The indents that settings lead to are blank and break no line. -/
lemma indent_ofWidth (n : Nat) : Text.isBlankText (ofWidth n).indent = true ∧
    Text.includes "\r\n".toList (ofWidth n).indent = false := by
  have hmem : ∀ c ∈ (ofWidth n).indent, c = ' ' := fun c hc => List.eq_of_mem_replicate hc
  constructor
  · rw [Text.isBlankText_iff]
    intro c hc
    rw [hmem c hc]
    decide
  · rw [← Bool.not_eq_true, Text.includes_iff]
    exact fun h => absurd (hmem '\n' (h.subset (by simp))) (by decide)

end Style

def indented (style : Style) (t : Text) : List Text :=
  style.above ++ [style.margin ++ t]

def headLine (h : Head) : Text :=
  h.text ++ " \x7b".toList

def innerLines (style : Style) (h : Head) : List Text :=
  (inner h).flatMap (indented style)

def lines (style : Style) (h : Head) : List Text :=
  headLine h :: (innerLines style h ++ ["\x7d".toList, []])

lemma lines_eq (style : Style) (h : Head) :
    lines style h = headLine h :: (innerLines style h ++ ["\x7d".toList, []]) := rfl

lemma block_indented (style : Style) (t : Text) : block (indented style t) = style.indent ++ t ++ ['\n'] := by
  rw [style.indent_eq]
  simp [indented, block]

lemma render_eq (style : Style) (h : Head) : render style h = block (lines style h) := by
  have hinner : block (innerLines style h) = (inner h).flatMap fun t => style.indent ++ t ++ ['\n'] := by
    simp only [← block_indented]
    exact List.flatMap_assoc
  rw [render, ← hinner]
  simp [lines, headLine, block]

lemma length_lines (style : Style) (h : Head) : (lines style h).length = (innerLines style h).length + 3 := by
  simp [lines_eq]

def values : List Value :=
  [⟨"0".toList, none⟩, ⟨"0.0".toList, none⟩, ⟨"false".toList, none⟩, ⟨"'\\0'".toList, none⟩,
    ⟨"\"\"".toList, none⟩, ⟨"0".toList, some "Change this based on actual return type needed".toList⟩,
    ⟨"\x7b\x7d".toList, none⟩, ⟨"\x7b\x7d".toList, some "Default initialization".toList⟩]

lemma valueOf_mem (type : Text) : valueOf type ∈ values := by
  unfold valueOf valueOfName?
  simp only
  split_ifs <;> decide

lemma returnText_spec : ∀ v ∈ values, '\n' ∉ returnText v ∧ '(' ∉ returnText v ∧
    (returnText v).getLast? ≠ some '\r' ∧ 'r' ∈ returnText v ∧ returnText v ≠ [] := by
  decide +kernel

lemma todo_eq (name : Text) : todo name = "// TODO: implement ".toList ++ (name ++ "()".toList) :=
  List.append_assoc _ _ _

lemma trim_todo (name : Text) : Text.trim (todo name) = todo name := by
  have hend := Text.trim_of_ends (t := "// TODO: implement ".toList ++ name ++ ['(']) (c := ')')
    ((Text.unblank_cons '/' _).2 (by decide)) (by decide)
  rwa [List.append_assoc, List.append_assoc] at hend

lemma todo_mem_inner (h : Head) : todo h.name ∈ inner h :=
  List.mem_cons_self

lemma mem_inner {h : Head} {t : Text} (ht : t ∈ inner h) : t = todo h.name ∨ ∃ v ∈ values, t = returnText v := by
  rw [inner, List.mem_cons] at ht
  rcases ht with rfl | ht
  · exact Or.inl rfl
  · split_ifs at ht
    · simp at ht
    · exact Or.inr ⟨_, valueOf_mem _, List.mem_singleton.1 ht⟩

lemma mem_innerLines {style : Style} {h : Head} {l : Text} :
    l ∈ innerLines style h ↔ l ∈ style.above ∨ ∃ t ∈ inner h, l = style.margin ++ t := by
  simp only [innerLines, indented, List.mem_flatMap, List.mem_append, List.mem_singleton]
  constructor
  · rintro ⟨t, ht, hl | rfl⟩
    · exact Or.inl hl
    · exact Or.inr ⟨t, ht, rfl⟩
  · rintro (hl | ⟨t, ht, rfl⟩)
    · exact ⟨_, todo_mem_inner h, Or.inl hl⟩
    · exact ⟨t, ht, Or.inr rfl⟩

def parameterText (h : Head) : Text :=
  Text.concatSep ", ".toList h.parameters

lemma headLine_eq (h : Head) :
    headLine h = h.returnType ++ [' '] ++ h.name ++ '(' :: parameterText h ++ ')' :: [' '] ++ '{' :: [] := by
  simp [headLine, Head.text, parameterText]

lemma feedless_parameterText {h : Head} (hf : h.Feedless) : '\n' ∉ parameterText h := by
  intro hm
  rcases Text.mem_concatSep hm with hm | ⟨p, hp, hm⟩
  · revert hm
    decide
  · exact hf.parameters p hp hm

lemma feedless_inner {h : Head} (hf : h.Feedless) : ∀ t ∈ inner h, '\n' ∉ t := by
  intro t ht
  rcases mem_inner ht with rfl | ⟨v, hv, rfl⟩
  · have h₁ : '\n' ∉ "// TODO: implement ".toList := by decide
    have h₂ : '\n' ∉ "()".toList := by decide
    simp only [todo_eq, List.mem_append, not_or]
    exact ⟨h₁, hf.name, h₂⟩
  · exact (returnText_spec v hv).1

lemma feedless_lines (style : Style) {h : Head} (hf : h.Feedless) : ∀ l ∈ lines style h, '\n' ∉ l := by
  intro l hl
  rw [lines_eq, List.mem_cons, List.mem_append] at hl
  rcases hl with rfl | hl | hl
  · simp [headLine_eq, hf.returnType, hf.name, feedless_parameterText hf]
  · rcases mem_innerLines.1 hl with hl | ⟨t, ht, rfl⟩
    · exact style.feedless_above l hl
    · rw [List.mem_append, not_or]
      exact ⟨style.feedless_margin, feedless_inner hf t ht⟩
  · revert l
    decide

lemma span_block {ls : List Text} (h : ∀ l ∈ ls, '\n' ∉ l) : span (block ls) = ls.length := by
  induction ls with
  | nil => rfl
  | cons l ls ih =>
    have hl : l.count '\n' = 0 := List.count_eq_zero.2 (h l List.mem_cons_self)
    have hr := ih fun k hk => h k (List.mem_cons_of_mem _ hk)
    simp only [span] at hr
    simp [span, List.count_append, hl, hr]

lemma span_render (style : Style) {h : Head} (hf : h.Feedless) :
    span (render style h) = (lines style h).length := by
  rw [render_eq, span_block (feedless_lines style hf)]

lemma dropReturn_headLine (h : Head) : dropReturn (headLine h) = headLine h := by
  refine dropReturn_of_getLast _ ?_
  rw [headLine_eq, List.getLast?_append_of_ne_nil _ (by simp)]
  decide

lemma inner_end {h : Head} {t : Text} (ht : t ∈ inner h) : t ≠ [] ∧ t.getLast? ≠ some '\r' := by
  rcases mem_inner ht with rfl | ⟨v, hv, rfl⟩
  · have hne : "()".toList ≠ [] := by decide
    rw [todo_eq, ← List.append_assoc, List.getLast?_append_of_ne_nil _ hne]
    exact ⟨List.append_ne_nil_of_right_ne_nil _ hne, by decide⟩
  · exact ⟨(returnText_spec v hv).2.2.2.2, (returnText_spec v hv).2.2.1⟩

lemma map_dropReturn_lines (style : Style) (h : Head) : (lines style h).map dropReturn =
    headLine h :: ((innerLines style h).map dropReturn ++ ["\x7d".toList, []]) := by
  rw [lines_eq, List.map_cons, List.map_append, dropReturn_headLine]
  rfl

section Tidy

variable {style : Style} (hr : Text.includes "\r\n".toList style.indent = false)

include hr

lemma dropReturn_lines (h : Head) : ∀ l ∈ lines style h, dropReturn l = l := by
  intro l hl
  rw [lines_eq, List.mem_cons, List.mem_append] at hl
  rcases hl with rfl | hl | hl
  · exact dropReturn_headLine h
  · rcases mem_innerLines.1 hl with hl | ⟨t, ht, rfl⟩
    · exact Style.dropReturn_above hr l hl
    · refine dropReturn_of_getLast _ ?_
      rw [List.getLast?_append_of_ne_nil _ (inner_end ht).1]
      exact (inner_end ht).2
  · revert l
    decide

lemma tidy_lines {h : Head} (hf : h.Feedless) : ∀ l ∈ lines style h, Tidy l :=
  fun l hl => ⟨feedless_lines style hf l hl, dropReturn_lines hr h l hl⟩

end Tidy

lemma defines_headLine {h : Head} (hf : h.Feedless) (hT : Text.isWordText h.returnType = true) :
    Signature.Defines h.name (headLine h) :=
  ⟨[], h.returnType, [' '], [], parameterText h, [' '], [], by simp [headLine_eq], rfl, hT, by decide,
    by simp, rfl, feedless_parameterText hf, by decide⟩

lemma defines_headLine_iff {h : Head} (hf : h.Feedless) (hs : TypeName.Spelling h.returnType)
    (hn : Text.isWordText h.name = true) {f : Text} (hw : Text.isWordText f = true) :
    Signature.defines f (headLine h) = true ↔ f = h.name ∧ Text.isWordText h.returnType = true := by
  rw [Signature.defines_iff]
  refine ⟨fun hd => ?_, fun hd => hd.1 ▸ defines_headLine hf hd.2⟩
  by_cases hT : Text.isWordText h.returnType = true
  · exact ⟨hd.unique hw hn (defines_headLine hf hT), hT⟩
  obtain ⟨r, q, hr, hq⟩ := hd.named hw
  rw [headLine_eq] at hr
  generalize h.returnType = T at hr hs hT ⊢
  cases hs with
  | word hT' => exact absurd hT' hT
  | @long b hb hbn =>
    -- The name would have to be the second `long`, and no parenthesis follows that.
    have hu : Text.Unword ([' '] ++ (h.name ++ '(' :: parameterText h ++ ')' :: [' '] ++ '{' :: [])) :=
      Text.unword_append_blank (by decide) (by simp) _
    have hlong : Text.isWordText "long".toList = true := by decide
    have hl := Signature.named?_append (a := []) rfl hlong hb hbn hlong hu
    simp only [List.nil_append, List.append_assoc] at hl hr
    rw [hl] at hr
    obtain ⟨-, rfl⟩ := Prod.mk.inj (Option.some.inj hr)
    rw [Text.skipBlanks_blank_append (by decide) (Text.unblank_append_word hn _)] at hq
    obtain ⟨hne, hall⟩ := Text.isWordText_iff.1 hn
    obtain ⟨c, v, hc⟩ := List.exists_cons_of_ne_nil hne
    rw [hc] at hq hall
    obtain rfl : c = '(' := (List.cons.inj hq).1
    exact absurd (hall '(' List.mem_cons_self) (by decide)
  | @angle k b s hk hb =>
    have hnone := Signature.named?_angle hk hb
      (s ++ [' '] ++ h.name ++ '(' :: parameterText h ++ ')' :: [' '] ++ '{' :: [])
    simp only [List.append_assoc, List.cons_append] at hnone hr
    rw [hnone] at hr
    simp at hr

lemma inner_spec {h : Head} {t : Text} (ht : t ∈ inner h) :
    (∀ name, Signature.defines name t = false) ∧ Placement.closesBody t = false := by
  have hclose : ∀ {c : Char}, c ∈ t → Text.isBlank c = false → c ≠ '\x7d' → Placement.closesBody t = false := by
    intro c hc hb hne
    rw [← Bool.not_eq_true]
    exact fun h => hne (Placement.eq_of_closesBody h hc hb)
  rcases mem_inner ht with rfl | ⟨v, hv, rfl⟩
  · obtain ⟨r, hr⟩ : ∃ r, todo h.name = '/' :: r := ⟨_, rfl⟩
    rw [hr] at hclose ⊢
    refine ⟨fun name => ?_, hclose List.mem_cons_self (by decide) (by decide)⟩
    rw [Signature.defines, Text.skipBlanks_of_unblank ((Text.unblank_cons _ _).2 (by decide)),
      Text.word?_eq_none ((Text.unword_cons _ _).2 (by decide))]
  · obtain ⟨-, hp, -, hr, -⟩ := returnText_spec v hv
    refine ⟨fun name => ?_, hclose (c := 'r') hr (by decide) (by decide)⟩
    rw [← Bool.not_eq_true, Signature.defines_iff]
    exact fun hd => hp hd.paren_mem

section Blank

variable {style : Style} (hi : Text.isBlankText style.indent = true)

include hi

lemma innerLines_spec {h : Head} {l : Text} (hl : l ∈ innerLines style h) :
    (∀ name, Signature.defines name l = false) ∧ Placement.closesBody l = false := by
  rcases mem_innerLines.1 hl with hl | ⟨t, ht, rfl⟩
  · have hb := Style.blank_above hi l hl
    rw [← List.append_nil l, Placement.closesBody_blank_append hb]
    refine ⟨fun name => ?_, by decide⟩
    rw [Placement.defines_blank_append hb]
    rfl
  · have hb := Style.blank_margin hi
    simp only [Placement.defines_blank_append hb, Placement.closesBody_blank_append hb]
    exact inner_spec ht

lemma trim_of_mem_tail {h : Head} {l : Text} (hl : l ∈ innerLines style h ++ ["\x7d".toList, []]) :
    (∃ t ∈ inner h, Text.trim l = Text.trim t) ∨ Text.trim l ∈ ["\x7d".toList, []] := by
  rcases List.mem_append.1 hl with hl | hl
  · rcases mem_innerLines.1 hl with hl | ⟨t, ht, rfl⟩
    · rw [Style.trim_of_mem_above hi hl]
      exact Or.inr (by decide)
    · exact Or.inl ⟨t, ht, Text.trim_blank_append (Style.blank_margin hi) t⟩
  · have htrim : ∀ l ∈ ["\x7d".toList, []], Text.trim l ∈ ["\x7d".toList, []] := by decide
    exact Or.inr (htrim l hl)

lemma defines_lines {h : Head} (hf : h.Feedless) (hs : TypeName.Spelling h.returnType)
    (hn : Text.isWordText h.name = true) {f : Text} (hw : Text.isWordText f = true)
    (hne : h.name ≠ f) : ∀ l ∈ lines style h, Signature.defines f l = false := by
  intro l hl
  rw [lines_eq, List.mem_cons, List.mem_append] at hl
  rcases hl with rfl | hl | hl
  · rw [← Bool.not_eq_true, defines_headLine_iff hf hs hn hw]
    exact fun hd => hne hd.1.symm
  · exact (innerLines_spec hi hl).1 f
  · rcases List.mem_pair.1 hl with rfl | rfl
    · exact Placement.defines_of_closesBody (by decide) f
    · exact Placement.defines_nil f

end Blank

end Stub

end CallStubs
