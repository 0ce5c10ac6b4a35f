import CallStubs.Proofs.Calls
import CallStubs.Proofs.Declarations

/-! The types that declarations bring into scope: how they are spelled, and that they stay on one line. -/

namespace CallStubs

namespace TypeName

/-- The spellings a return type can have: one word, `long long` with any blanks between the words, or a
word and an opening angle bracket. -/
inductive Spelling : Text → Prop
  | word {t : Text} : Text.isWordText t = true → Spelling t
  | long {b : Text} : Text.isBlankText b = true → b ≠ [] → Spelling ("long".toList ++ b ++ "long".toList)
  | angle {k b s : Text} : Text.isWordText k = true → Text.isBlankText b = true → Spelling (k ++ b ++ '<' :: s)

lemma Spelling.unblank {t : Text} (h : Spelling t) (r : Text) : Text.Unblank (t ++ r) := by
  cases h with
  | word hw => exact Text.unblank_append_word hw r
  | long =>
    rw [List.append_assoc, List.append_assoc]
    exact Text.unblank_append_word (by decide) _
  | angle hk =>
    rw [List.append_assoc, List.append_assoc]
    exact Text.unblank_append_word hk _

lemma IsCanonical.spelling {t : Text} (h : IsCanonical t) : Spelling t := by
  rcases h with ⟨k, hk, b, s, rfl, hb, -⟩ | hbasic | rfl
  · rw [List.append_assoc, List.cons_append]
    exact .angle (isWordText_of_mem_containers k hk) hb
  · exact .word (expansion?_of_basic t hbasic).1
  · exact .long (b := [' ']) (by decide) (by decide)

lemma feedless_expand {t : Text} (h : '\n' ∉ t) : '\n' ∉ expand t := by
  rcases expand_cases t with ⟨-, he⟩ | ⟨p, hp, he⟩
  · rwa [he]
  · rw [he]
    exact (abbreviations_spelling p hp).1

end TypeName

namespace Declaration.Spells

variable {d : Declaration} {t : Text}

lemma spelling (h : d.Spells t) : TypeName.Spelling d.type := by
  rcases h.type_cases with hc | ⟨b, ⟨r, -, hb, hn, -⟩, htype⟩
  · exact hc.spelling
  · rw [htype]
    exact .long hb hn

lemma feedless (h : d.Spells t) (ht : '\n' ∉ t) : '\n' ∉ d.type := by
  cases h with
  | container => exact fun hm => ht (List.mem_append_left _ hm)
  | long => exact fun hm => ht (List.mem_append_left _ hm)
  | scalar => exact TypeName.feedless_expand fun hm => ht (List.mem_append_left _ hm)

end Declaration.Spells

namespace Scope

lemma typeOf?_ofLines {ls : List Text} {x T : Text} (h : (ofLines ls).typeOf? x = some T) :
    TypeName.Spelling T ∧ ((∀ l ∈ ls, '\n' ∉ l) → '\n' ∉ T) := by
  obtain ⟨A, l, R, rfl, hl, -⟩ := exists_of_typeOf?_ofLines h
  have hspells := Declaration.ofText?_eq_some_iff.1 hl
  exact ⟨hspells.spelling, fun hls => hspells.feedless fun hm => hls l (by simp) (Text.trim_subset l hm)⟩

end Scope

lemma Call.spelling_returnType {ls : List Text} {t : Text} {c : Call}
    (h : c ∈ extract (Scope.ofLines ls).typeOf? t) : TypeName.Spelling c.returnType := by
  rcases returnType_cases h with hw | ⟨x, hx⟩
  · exact TypeName.Spelling.word hw
  · exact (Scope.typeOf?_ofLines hx).1

structure Stub.Head.Feedless (h : Stub.Head) : Prop where
  name : '\n' ∉ h.name
  parameters : ∀ p ∈ h.parameters, '\n' ∉ p
  returnType : '\n' ∉ h.returnType

namespace Parameter

lemma feedless_placeholder (i : Nat) : '\n' ∉ placeholder i := by
  intro h
  rw [placeholder, List.mem_append] at h
  rcases h with h | h
  · revert h
    decide
  · have hd := Nat.isDigit_of_mem_toDigits (by decide) (by decide) h
    revert hd
    decide

lemma feedless_infer {scope : Scope} (hs : ∀ x T, scope.typeOf? x = some T → '\n' ∉ T) (i : Nat) {t : Text}
    (ht : '\n' ∉ t) : '\n' ∉ infer scope i t := by
  have hdec : ∀ {type name : Text}, '\n' ∉ type → '\n' ∉ name → '\n' ∉ declare type name := by
    intro type name h₁ h₂
    simp [declare, h₁, h₂]
  unfold infer
  split
  · rename_i T hT
    unfold knownType? at hT
    split_ifs at hT
    exact hdec (hs t T hT) ht
  · split_ifs
    · exact hdec (by decide) (feedless_placeholder i)
    · split
      · rename_i T hT
        refine hdec ?_ (feedless_placeholder i)
        unfold literalType? at hT
        split_ifs at hT <;> cases hT <;> decide
      · exact hdec (by decide) ht

end Parameter

lemma Call.head_feedless {ls : List Text} {t : Text} {c : Call} (hls : ∀ l ∈ ls, '\n' ∉ l) (ht : '\n' ∉ t)
    (h : c ∈ extract (Scope.ofLines ls).typeOf? t) : (c.head (Scope.ofLines ls)).Feedless where
  name := Text.feedless_of_word (isWordText_name h)
  parameters p hp := by
    simp only [Call.head, Parameter.inferAll, List.mem_mapIdx] at hp
    obtain ⟨i, hi, rfl⟩ := hp
    apply Parameter.feedless_infer (fun x T hT => (Scope.typeOf?_ofLines hT).2 hls)
    exact fun hm => ht (argument_subset h (List.getElem_mem hi) hm)
  returnType := by
    rcases returnType_cases h with hw | ⟨x, hx⟩
    · exact Text.feedless_of_word hw
    · exact (Scope.typeOf?_ofLines hx).2 hls

end CallStubs
