import CallStubs.Proofs.StubText

/-! What a stub brings into scope for the lines below it: its own name at most. -/

namespace CallStubs

namespace Stub

def headRest (h : Head) : Text :=
  [' '] ++ h.name ++ '(' :: (parameterText h ++ ')' :: [' '] ++ '{' :: [])

lemma headLine_eq_append (h : Head) : headLine h = h.returnType ++ headRest h := by
  simp [headLine_eq, headRest]

section HeadLine

variable {h : Head} (hn : Text.isWordText h.name = true)

include hn

lemma names_headRest : Text.Names h.name (headRest h) :=
  ⟨[' '], _, rfl, by decide, by decide, hn, (Text.unword_cons _ _).2 (by decide)⟩

lemma closeAngle?_headRest : closeAngle? (headRest h) = none := by
  refine closeAngle?_eq_none (fun hm => ?_) _
  rw [List.mem_append] at hm
  rcases hm with hm | hm
  · revert hm
    decide
  · have hw := (Text.isWordText_iff.1 hn).2 _ hm
    revert hw
    decide

lemma not_long_in_headRest {b y r : Text} (ht : headRest h = b ++ "long".toList ++ r) (hb : Text.isBlankText b = true) :
    ¬Text.Names y r := by
  intro hy
  have hparen : Text.Unword ('(' :: (parameterText h ++ ')' :: [' '] ++ '{' :: [])) :=
    (Text.unword_cons _ _).2 (by decide)
  obtain ⟨-, rfl⟩ := Text.name_cancel (by decide) hn hparen hb (by decide) hy.unword ht
  exact hy.not_unblank ((Text.unblank_cons _ _).2 (by decide))

lemma ofText?_headLine_of_word (hT : Text.isWordText h.returnType = true) :
    Declaration.ofText? (headLine h) =
      if TypeName.isScalar h.returnType then some ⟨h.name, TypeName.expand h.returnType⟩ else none := by
  rw [headLine_eq_append]
  split_ifs with hs
  · refine Declaration.Spells.ofText? (.scalar hT hs (names_headRest hn) ?_)
    exact fun _ _ _ _ ht hb => not_long_in_headRest hn ht hb
  · exact Declaration.ofText?_of_not_scalar hT (by simpa using hs) (names_headRest hn)

lemma ofText?_headLine_of_container (hT : TypeName.IsContainer h.returnType) :
    Declaration.ofText? (headLine h) = some ⟨h.name, TypeName.expand h.returnType⟩ := by
  have hself := hT.expand_eq
  obtain ⟨k, hk, b, s, hT, hb, hs⟩ := hT
  rw [headLine_eq_append, hself, hT]
  exact Declaration.Spells.ofText? (.container hk hb hs (names_headRest hn) (closeAngle?_headRest hn))

lemma ofText?_headLine_of_long {b : Text} (hT : h.returnType = "long".toList ++ b ++ "long".toList)
    (hb : Text.isBlankText b = true) (hbn : b ≠ []) :
    Declaration.ofText? (headLine h) = some ⟨h.name, TypeName.expand h.returnType⟩ := by
  have hself := TypeName.expand_of_not_word (TypeName.isWordText_long hb hbn)
  rw [headLine_eq_append, hT, hself]
  exact Declaration.Spells.ofText? (.long hb hbn (names_headRest hn))

lemma ofText?_headLine (hT : Text.isWordText h.returnType = true ∨ TypeName.IsContainer h.returnType ∨
      ∃ b, h.returnType = "long".toList ++ b ++ "long".toList ∧ Text.isBlankText b = true ∧ b ≠ []) :
    (TypeName.isScalar h.returnType = true ∨ TypeName.IsContainer h.returnType →
      Declaration.ofText? (headLine h) = some ⟨h.name, TypeName.expand h.returnType⟩) ∧
    (¬(TypeName.isScalar h.returnType = true ∨ TypeName.IsContainer h.returnType) →
      Declaration.ofText? (headLine h) = none) := by
  rcases hT with hword | hcontainer | ⟨b, hT, hb, hbn⟩
  · rw [ofText?_headLine_of_word hn hword]
    refine ⟨fun hs => ?_, fun hs => if_neg (not_or.1 hs).1⟩
    rcases hs with hs | hcontainer
    · exact if_pos hs
    · rw [hcontainer.isWordText_eq_false] at hword
      simp at hword
  · exact ⟨fun _ => ofText?_headLine_of_container hn hcontainer, fun hs => absurd (Or.inr hcontainer) hs⟩
  · refine ⟨fun _ => ofText?_headLine_of_long hn hT hb hbn, fun hs => absurd (Or.inl ?_) hs⟩
    rw [hT]
    exact TypeName.isScalar_long hb hbn

end HeadLine

lemma returnText_declares_nothing : ∀ v ∈ values, Declaration.ofText? (Text.trim (returnText v)) = none := by
  decide +kernel

lemma inner_declares_nothing {h : Head} {t : Text} (ht : t ∈ inner h) : Declaration.ofText? (Text.trim t) = none := by
  rcases mem_inner ht with rfl | ⟨v, hv, rfl⟩
  · rw [trim_todo]
    exact Declaration.ofText?_of_unword ((Text.unword_cons '/' _).2 (by decide))
  · exact returnText_declares_nothing v hv

lemma tail_declares_nothing {style : Style} (hi : Text.isBlankText style.indent = true) {h : Head} {l : Text}
    (hl : l ∈ innerLines style h ++ ["\x7d".toList, []]) : Declaration.ofText? (Text.trim l) = none := by
  rcases trim_of_mem_tail hi hl with ⟨t, ht, htrim⟩ | hend
  · rw [htrim]
    exact inner_declares_nothing ht
  · have hno : ∀ t ∈ ["\x7d".toList, []], Declaration.ofText? t = none := by decide +kernel
    exact hno _ hend

lemma trim_headLine {h : Head} (hT : TypeName.Spelling h.returnType) : Text.trim (headLine h) = headLine h := by
  have hline : headLine h = (h.text ++ [' ']) ++ ['{'] := by
    rw [List.append_assoc]
    rfl
  have hu := hT.unblank (headRest h)
  rw [← headLine_eq_append, hline] at hu
  rw [hline]
  exact Text.trim_of_ends hu (by decide)

lemma ofLines_lines {style : Style} (hi : Text.isBlankText style.indent = true) {h : Head}
    (hT : TypeName.Spelling h.returnType) :
    Scope.ofLines (lines style h) = (Declaration.ofText? (headLine h)).toList := by
  have hnone : ∀ l ∈ innerLines style h ++ ["\x7d".toList, []], Declaration.ofText? (Text.trim l) = none :=
    fun l hl => tail_declares_nothing hi hl
  rw [lines_eq, Scope.ofLines_cons, trim_headLine hT, Scope.ofLines, List.filterMap_eq_nil_iff.2 hnone]
  rfl

end Stub

namespace Scope

variable {h : Stub.Head}

lemma type_forms {ls : List Text} {x T : Text} (hx : (ofLines ls).typeOf? x = some T) :
    Text.isWordText T = true ∨ TypeName.IsContainer T ∨
      ∃ b, T = "long".toList ++ b ++ "long".toList ∧ Text.isBlankText b = true ∧ b ≠ [] := by
  obtain ⟨A, l, R, -, hl, -⟩ := exists_of_typeOf?_ofLines hx
  rcases (Declaration.ofText?_eq_some_iff.1 hl).type_cases with
    (hcontainer | hbasic | hlong) | ⟨b, ⟨r, -, hb, hn, -⟩, hlong⟩
  · exact Or.inr (Or.inl hcontainer)
  · exact Or.inl (TypeName.expansion?_of_basic T hbasic).1
  · exact Or.inr (Or.inr ⟨[' '], hlong, by decide, by decide⟩)
  · exact Or.inr (Or.inr ⟨b, hlong, hb, hn⟩)

lemma typeOf?_around_stub (L₁ L₂ : List Text) {style : Stub.Style} (hi : Text.isBlankText style.indent = true)
    (hT : TypeName.Spelling h.returnType) (y : Text) :
    (ofLines (L₁ ++ Stub.lines style h ++ L₂)).typeOf? y =
      ((ofLines L₂).typeOf? y).or ((typeOf? (Declaration.ofText? (Stub.headLine h)).toList y).or
        ((ofLines L₁).typeOf? y)) := by
  rw [ofLines_append, ofLines_append, Stub.ofLines_lines hi hT, typeOf?_append, typeOf?_append]

/-- A stub between lines, indented by blanks, brings nothing into scope but its own name. The lines below it still
decide on that name; if they do not, its type is the return type where that can stand in a declaration, and otherwise
it is as without the stub. -/
theorem stub_declares_own_name (hname : Text.isWordText h.name = true) (hparameters : ∀ p ∈ h.parameters, '\n' ∉ p)
    (htype : Text.isWordText h.returnType = true ∨
      ∃ ls x, (∀ l ∈ ls, '\n' ∉ l) ∧ (x, h.returnType) ∈ (ofLines ls).entries)
    (style : Stub.Style) (hi : Text.isBlankText style.indent = true) (L₁ L₂ : List Text) :
    let stub := ((Stub.render style h).splitOn '\n').dropLast
    let around := ofLines (L₁ ++ stub ++ L₂)
    (∀ y, y ≠ h.name → around.typeOf? y = (ofLines (L₁ ++ L₂)).typeOf? y) ∧
    (∀ t, (ofLines L₂).typeOf? h.name = some t → around.typeOf? h.name = some t) ∧
    ((ofLines L₂).typeOf? h.name = none →
      (TypeName.isScalar h.returnType = true ∨ TypeName.IsContainer h.returnType →
        around.typeOf? h.name = some (TypeName.expand h.returnType)) ∧
      (¬(TypeName.isScalar h.returnType = true ∨ TypeName.IsContainer h.returnType) →
        around.typeOf? h.name = (ofLines L₁).typeOf? h.name)) := by
  intro stub around
  have hforms : Text.isWordText h.returnType = true ∨ TypeName.IsContainer h.returnType ∨
      ∃ b, h.returnType = "long".toList ++ b ++ "long".toList ∧ Text.isBlankText b = true ∧ b ≠ [] := by
    rcases htype with hword | ⟨ls, x, -, hx⟩
    · exact Or.inl hword
    · exact type_forms (mem_entries_iff.1 hx)
  have hspelling : TypeName.Spelling h.returnType ∧ '\n' ∉ h.returnType := by
    rcases htype with hword | ⟨ls, x, hls, hx⟩
    · exact ⟨.word hword, Text.feedless_of_word hword⟩
    · obtain ⟨hs, hf⟩ := typeOf?_ofLines (mem_entries_iff.1 hx)
      exact ⟨hs, hf hls⟩
  have hstub : stub = Stub.lines style h := by
    have hsplit := splitOn_block (Stub.feedless_lines style ⟨Text.feedless_of_word hname, hparameters, hspelling.2⟩) []
    rw [List.append_nil, List.splitOn_nil, ← Stub.render_eq] at hsplit
    simp only [stub, hsplit, List.dropLast_concat]
  have haround := typeOf?_around_stub L₁ L₂ hi hspelling.1
  rw [← hstub] at haround
  obtain ⟨hsome, hnone⟩ := Stub.ofText?_headLine hname hforms
  refine ⟨fun y hy => ?_, fun t ht => ?_, fun hL₂ => ⟨fun hT => ?_, fun hT => ?_⟩⟩
  · have hother : typeOf? (Declaration.ofText? (Stub.headLine h)).toList y = none := by
      by_cases hT : TypeName.isScalar h.returnType = true ∨ TypeName.IsContainer h.returnType
      · rw [hsome hT]
        simp [typeOf?, Ne.symm hy]
      · rw [hnone hT]
        rfl
    rw [haround, hother, Option.none_or, ofLines_append, typeOf?_append]
  · rw [haround, ht, Option.some_or]
  · rw [haround, hL₂, hsome hT]
    simp [typeOf?]
  · rw [haround, hL₂, hnone hT]
    rfl

theorem stub_declares_own_name_of_container :
    let h : Stub.Head := ⟨"total".toList, ["string a".toList, "int x = (1)".toList], "map <int, vi>".toList⟩
    let above := ["double total;".toList, "char a;".toList]
    let stub := ((Stub.render .standard h).splitOn '\n').dropLast
    ("m".toList, h.returnType) ∈ (ofLines ["map <int, vi> m;".toList]).entries ∧
      (ofLines (above ++ stub ++ [])).typeOf? "total".toList = some "map <int, vi>".toList ∧
      (ofLines (above ++ stub ++ [])).typeOf? "a".toList = some "char".toList := by
  intro h above stub
  have hentry : ("m".toList, h.returnType) ∈ (ofLines ["map <int, vi> m;".toList]).entries :=
    mem_entries_iff.2 (by decide +kernel)
  obtain ⟨hother, -, hown⟩ := stub_declares_own_name (h := h) (by decide) (by decide)
    (Or.inr ⟨_, _, by decide, hentry⟩) .standard (by decide) above []
  have hcontainer : TypeName.IsContainer h.returnType :=
    ⟨"map".toList, by decide, [' '], "int, vi".toList, rfl, by decide, by decide⟩
  refine ⟨hentry, ((hown rfl).1 (Or.inr hcontainer)).trans ?_, (hother "a".toList (by decide)).trans ?_⟩
  · decide +kernel
  · decide +kernel

/-- An indent that holds a declaration brings its name into scope. -/
theorem indent_declares :
    let stub := ((Stub.render ⟨"int y; ".toList⟩ ⟨"f".toList, [], "int".toList⟩).splitOn '\n').dropLast
    (ofLines ([] ++ stub ++ [])).typeOf? "y".toList = some "int".toList ∧
      (ofLines ([] ++ [])).typeOf? "y".toList = none := by
  decide +kernel

end Scope

end CallStubs
