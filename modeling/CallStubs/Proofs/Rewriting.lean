import CallStubs.Proofs.Turns

/-! A stub that is rewritten is found again as a whole, and takes up the place of the one before it. -/

namespace CallStubs

structure Stub.Head.Suits (name : Text) (h : Head) : Prop where
  name_eq : h.name = name
  returnType : Text.isWordText h.returnType = true
  parameters : ∀ p ∈ h.parameters, '\n' ∉ p

lemma Stub.Head.Suits.feedless {name : Text} {h : Head} (hs : h.Suits name) (hn : Text.isWordText name = true) :
    h.Feedless :=
  ⟨hs.name_eq ▸ Text.feedless_of_word hn, hs.parameters, Text.feedless_of_word hs.returnType⟩

namespace Buffer

def rewrite (b : Buffer) (r : LineRange) (stub : Text) : Except EditError Buffer :=
  b.apply (.replace (withSeparator b r) stub)

variable {b : Buffer}

lemma rewrite_eq (hb : b.WellFormed) {r : LineRange} (hs : r.start < b.lineCount) (hle : r.start ≤ r.stop)
    (style : Stub.Style) {h : Stub.Head} (hf : h.Feedless) : b.rewrite r (Stub.render style h) =
      .ok (b.withBlock r.start (withSeparator b r).stop (Stub.lines style h)) := by
  have hle : (withSeparator b r).start ≤ (withSeparator b r).stop := by
    have hstop := withSeparator_stop b r
    rw [withSeparator_start]
    omega
  rw [rewrite, Stub.render_eq,
    apply_replace_block hb hle (by rwa [withSeparator_start]) (Stub.feedless_lines style hf), withSeparator_start]

lemma rewrite_definition (hb : ∀ l ∈ b.lines, Tidy l) {name : Text} {D : Placement.Definition name}
    (hD : D.lines = b.lines) (style : Stub.Style) {h : Stub.Head} (hf : h.Feedless) :
    b.rewrite D.range (Stub.render style h) = .ok ⟨D.above ++ (Stub.lines style h).map dropReturn ++
      b.linesFrom (withSeparator b D.range).stop, b.crlf⟩ := by
  have hstart : D.range.start < b.lineCount := by
    rw [lineCount, ← hD]
    simp [Placement.Definition.lines, Placement.Definition.range]
  have hrange : D.range.start ≤ D.range.stop := by
    simp only [Placement.Definition.range]
    omega
  have hwf : b.WellFormed := ⟨List.ne_nil_of_length_pos (Nat.zero_lt_of_lt hstart), fun l hl => (hb l hl).1⟩
  have htake : b.lines.take D.range.start = D.above := by
    rw [← hD, Placement.Definition.lines]
    exact List.take_left
  have habove : D.above.map dropReturn = D.above :=
    map_dropReturn_eq fun l hl => (hb l (hD ▸ List.mem_append_left _ hl)).2
  have hfrom := map_dropReturn_eq fun l (hl : l ∈ b.linesFrom (withSeparator b D.range).stop) =>
    mem_linesFrom (p := fun l => dropReturn l = l) (fun l hl => (hb l hl).2) rfl hl
  rw [rewrite_eq hwf hstart hrange style hf, withBlock, htake, List.map_append, List.map_append, habove, hfrom]

lemma rewrite_of_stub (hwf : b.WellFormed) {A R : List Text} {style : Stub.Style} {h : Stub.Head}
    (hb : b.lines = A ++ (Stub.lines style h).map dropReturn ++ R) (hA : ∀ l ∈ A, Tidy l) (hR : ∀ l ∈ R, Tidy l)
    (hne : R ≠ []) (style' : Stub.Style) {h' : Stub.Head} (hf : h'.Feedless) :
    b.rewrite ⟨A.length, A.length + (Stub.lines style h).length - 1⟩ (Stub.render style' h') =
      .ok ⟨A ++ (Stub.lines style' h').map dropReturn ++ R, b.crlf⟩ := by
  have hlen := Stub.length_lines style h
  have hcount : b.lineCount = A.length + (Stub.lines style h).length + R.length := by
    rw [lineCount, hb, List.length_append, List.length_append, List.length_map]
  have hblock := withBlock_between hb hA hR hne (Stub.lines style' h')
  rw [List.length_map] at hblock
  rw [rewrite_eq hwf (by simp only; omega) (by simp only; omega) style' hf, withSeparator_of_stub hb, hblock]

/-- A stub that has been rewritten with nothing but blanks for an indent is found at its old place and with all its
lines. Once another one is written there, nothing of it is left, and to write it once more changes nothing. -/
theorem rewriting_absorbs (hb : b.WellFormed) (hreturn : ∀ l ∈ b.lines, l.getLast? ≠ some '\r')
    {before : Nat} {name : Text} {r : LineRange} (hn : Text.isWordText name = true)
    (hfound : Placement.existingStub? b before name = some r) (style : Stub.Style)
    (hi : Text.isBlankText style.indent = true) (style' : Stub.Style) {h h' : Stub.Head}
    (hh : h.Suits name) (hh' : h'.Suits name) :
    ∃ a c, b.rewrite r (Stub.render style h) = .ok a ∧ b.rewrite r (Stub.render style' h') = .ok c ∧
      let k := Stub.span (Stub.render style h)
      let q : LineRange := ⟨r.start, r.start + k - 1⟩
      (∀ before', r.start < before' → Placement.existingStub? a before' name = some q) ∧
      withSeparator a q = ⟨r.start, r.start + k⟩ ∧
      a.rewrite q (Stub.render style' h') = .ok c ∧ a.rewrite q (Stub.render style h) = .ok a := by
  obtain ⟨D, hD, -, hnone, rfl⟩ := Placement.existingStub?_eq_some_iff.1 hfound
  have hf := hh.feedless hn
  have hf' := hh'.feedless hn
  have htidy : ∀ l ∈ b.lines, Tidy l := fun l hl => ⟨hb.feedless l hl, dropReturn_of_getLast l (hreturn l hl)⟩
  -- the lines around the stub are the same whichever stub is written, and there is one below it at least
  let R := b.linesFrom (withSeparator b D.range).stop
  have hne : R ≠ [] := linesFrom_ne_nil b _
  have hA : ∀ l ∈ D.above, Tidy l := fun l hl => htidy l (hD ▸ List.mem_append_left _ hl)
  have hR : ∀ l ∈ R, Tidy l := fun l hl => mem_linesFrom htidy ⟨by simp, rfl⟩ hl
  have hdefines : Signature.defines name (Stub.headLine h) = true :=
    hh.name_eq ▸ Signature.defines_iff.2 (Stub.defines_headLine hf hh.returnType)
  have hfirst := rewrite_definition htidy hD style hf
  have hwf := WellFormed.apply hfirst
  refine ⟨_, _, hfirst, rewrite_definition htidy hD style' hf', ?_⟩
  rw [Stub.span_render style hf]
  exact ⟨fun n hlt => Placement.existingStub?_of_stub rfl hi hdefines hnone hlt, withSeparator_of_stub rfl,
    rewrite_of_stub hwf rfl hA hR hne style' hf', rewrite_of_stub hwf rfl hA hR hne style hf⟩

theorem rewriting_absorbs_at_end :
    let b : Buffer := ⟨["x".toList, "int f()\x7b return 1;".toList, " \x7d".toList], true⟩
    let h : Stub.Head := ⟨"f".toList, ["int a) \x7b \x7d".toList], "int".toList⟩
    let h' : Stub.Head := ⟨"f".toList, [], "void".toList⟩
    let a : Buffer := ⟨["x".toList] ++ Stub.lines ⟨[]⟩ h ++ [[]], true⟩
    Placement.existingStub? b 2 "f".toList = some ⟨1, 3⟩ ∧ b.rewrite ⟨1, 3⟩ (Stub.render ⟨[]⟩ h) = .ok a ∧
      (∀ before, 1 < before → Placement.existingStub? a before "f".toList = some ⟨1, 5⟩) ∧
      a.rewrite ⟨1, 5⟩ (Stub.render .standard h') = b.rewrite ⟨1, 3⟩ (Stub.render .standard h') ∧
      a.rewrite ⟨1, 5⟩ (Stub.render ⟨[]⟩ h) = .ok a := by
  intro b h h' a
  have hfound : Placement.existingStub? b 2 "f".toList = some ⟨1, 3⟩ := by decide +kernel
  have hh : h.Suits "f".toList := ⟨rfl, by decide, by decide⟩
  have hh' : h'.Suits "f".toList := ⟨rfl, by decide, by decide⟩
  obtain ⟨a', c, ha, hc, hfind, -, hother, hsame⟩ :=
    rewriting_absorbs ⟨by decide, by decide⟩ (by decide) (by decide) hfound ⟨[]⟩ rfl .standard hh hh'
  obtain rfl : a' = a := Except.ok.inj (ha.symm.trans (by decide +kernel))
  exact ⟨hfound, ha, hfind, hother.trans hc.symm, hsame⟩

/-- An indent that closes the body: the stub of seven lines is found again with two of them. -/
theorem indent_closes_stub :
    let b := Buffer.ofText "int f(int a) \x7b\n    return a;\n\x7d\n\nx;\n".toList
    let h : Stub.Head := ⟨"f".toList, ["int a".toList], "int".toList⟩
    let stub := Stub.render ⟨"\x7d\n".toList⟩ h
    Placement.existingStub? b 1 "f".toList = some ⟨0, 3⟩ ∧ h.name = "f".toList ∧ Stub.span stub = 7 ∧
      ((b.rewrite ⟨0, 3⟩ stub).map fun a => Placement.existingStub? a 1 "f".toList) = .ok (some ⟨0, 2⟩) := by
  decide +kernel

end Buffer

end CallStubs
