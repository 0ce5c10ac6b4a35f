import CallStubs.Proofs.Calls
import CallStubs.Proofs.Pieces

/-! Calls as they are written out, and that they are read back from there. -/

namespace CallStubs

namespace Arguments

def written (args : List Text) : Text :=
  Text.concatSep ", ".toList args

@[mk_iff]
structure Single (a : Text) : Prop where
  trimmed : Text.trim a = a
  feedless : '\n' ∉ a
  closed : Nesting.top.run a = .top
  uncut : Nesting.top.Uncut a

instance (a : Text) : Decidable (Single a) :=
  decidable_of_iff _ (single_iff a).symm

def padded : List Text → List Text
  | [] => []
  | a :: as => a :: as.map (' ' :: ·)

lemma intercalate_padded (args : List Text) : [','].intercalate (padded args) = written args := by
  induction args with
  | nil => rfl
  | cons a as ih =>
    cases as with
    | nil => rfl
    | cons b bs =>
      have hpad : [','].intercalate ((b :: bs).map (' ' :: ·)) = ' ' :: [','].intercalate (padded (b :: bs)) := by
        cases bs with
        | nil => rfl
        | cons d ds => simp [padded, List.intercalate_cons_cons]
      rw [padded, List.intercalate_cons_of_ne_nil (by simp), hpad, ih]
      simp [written, Text.concatSep, List.intercalate_cons_cons]

lemma single_padded {args : List Text} (h : ∀ a ∈ args, Single a) {p : Text} (hp : p ∈ padded args) :
    Nesting.top.run p = .top ∧ Nesting.top.Uncut p := by
  cases args with
  | nil => simp [padded] at hp
  | cons a as =>
    rw [List.forall_mem_cons] at h
    rw [padded, List.mem_cons, List.mem_map] at hp
    rcases hp with rfl | ⟨b, hb, rfl⟩
    · exact ⟨h.1.closed, h.1.uncut⟩
    · exact ⟨(h.2 b hb).closed, Nesting.uncut_cons_iff.2 ⟨by decide, (h.2 b hb).uncut⟩⟩

lemma map_trim_padded {args : List Text} (h : ∀ a ∈ args, Single a) : (padded args).map Text.trim = args := by
  cases args with
  | nil => rfl
  | cons a as =>
    rw [List.forall_mem_cons] at h
    have htail : (as.map (' ' :: ·)).map Text.trim = as := by
      rw [List.map_map]
      refine (List.map_congr_left fun b hb => ?_).trans (List.map_id as)
      exact (Text.trim_blank_append (a := [' ']) (by decide) b).trans (h.2 b hb).trimmed
    rw [padded, List.map_cons, h.1.trimmed, htail]

lemma tidy_of_getLast? {ps : List Text} (h : (ps.map Text.trim).getLast? ≠ some []) : tidy ps = ps.map Text.trim := by
  rcases List.eq_nil_or_concat' ps with rfl | ⟨qs, z, rfl⟩
  · rfl
  · rw [List.map_append, List.map_singleton, List.getLast?_concat] at h
    rw [tidy_concat, if_neg (fun hz => h (congrArg some hz)), List.map_append, List.map_singleton]

lemma split_written {args : List Text} (h : ∀ a ∈ args, Single a) (hl : args.getLast? ≠ some []) :
    split (written args) = args := by
  by_cases hn : args = []
  · subst hn
    rfl
  · have hpieces : Pieces (padded args) (written args) :=
      ⟨by cases args <;> simp_all [padded], intercalate_padded args,
        fun p hp => (single_padded h (List.dropLast_subset _ hp)).1, fun p hp => (single_padded h hp).2⟩
    have htrim := map_trim_padded h
    rw [split, hpieces.cut_eq, tidy_of_getLast? (by rwa [htrim]), htrim]

lemma feedless_written {args : List Text} (h : ∀ a ∈ args, Single a) : '\n' ∉ written args := by
  intro hm
  rcases Text.mem_concatSep hm with hm | ⟨a, ha, hm⟩
  · exact absurd hm (by decide)
  · exact (h a ha).feedless hm

lemma closes_written {args : List Text} (h : ∀ a ∈ args, Closes 0 a) : Closes 0 (written args) := by
  induction args with
  | nil => exact Closes.nil_iff.2 rfl
  | cons a as ih =>
    rw [List.forall_mem_cons] at h
    cases as with
    | nil => simpa [written, Text.concatSep] using h.1
    | cons b bs =>
      have hsep : Closes 0 ", ".toList := by decide
      rw [written, Text.concatSep, List.intercalate_cons_cons]
      exact (h.1.append hsep).append (ih h.2)

end Arguments

lemma openings_word {f : Text} (hf : ∀ c ∈ f, Text.isWord c = true) (w t : Text) :
    openings w false (f ++ t) = openings (w ++ f) false t := by
  induction f generalizing w with
  | nil => rw [List.nil_append, List.append_nil]
  | cons c f ih =>
    rw [List.forall_mem_cons] at hf
    rw [List.cons_append, openings, if_pos hf.1, if_neg (by simp), ih hf.2, List.append_assoc, List.singleton_append]

lemma readOpenings_close {d : Nat} {t : Text} (h : Closes d t) (w : Text) (apart : Bool) :
    (openings w apart (t ++ [')'])).filterMap readOpening? = (openings w apart t).filterMap readOpening? := by
  induction t generalizing d w apart with
  | nil => rfl
  | cons c t ih =>
    have htail : ∃ n, Closes n t := by
      rcases h.cons_cases with ⟨-, h⟩ | ⟨-, n, -, h⟩ | ⟨-, -, h⟩
      · exact ⟨_, h⟩
      · exact ⟨n, h⟩
      · exact ⟨d, h⟩
    obtain ⟨n, hn⟩ := htail
    rw [List.cons_append, openings, openings]
    split_ifs with hw happ hb ho
    · exact ih hn _ _
    · exact ih hn _ _
    · exact ih hn _ _
    · rw [ho.1, Closes.open_cons_iff] at h
      obtain ⟨a, ha⟩ := Closes.exists_enclosed? (d := 0) h
      have hread : readOpening? (w, t ++ [')']) = readOpening? (w, t) := by
        rw [readOpening?, readOpening?, ha, enclosed?_append ha]
      rw [List.filterMap_cons, List.filterMap_cons, hread, ih hn]
    · exact ih hn _ _

lemma callsIn_written {f p : Text} (hf : Text.isWordText f = true) (hp : Closes 0 p) :
    callsIn (f ++ '(' :: p ++ [')']) = (f, Arguments.split p) :: callsIn p := by
  obtain ⟨hn, hall⟩ := Text.isWordText_iff.1 hf
  have hopen : openings [] false (f ++ '(' :: p ++ [')']) = (f, p ++ [')']) :: openings [] false (p ++ [')']) := by
    rw [List.append_assoc, openings_word hall, List.nil_append, List.cons_append, openings, if_neg (by decide),
      if_neg (by decide), if_pos ⟨rfl, hn⟩]
  have hread : readOpening? (f, p ++ [')']) = some (f, Arguments.split p) := by
    rw [readOpening?, enclosed?_eq_some_iff.2 ⟨[], rfl, hp⟩, Option.map_some]
  change (openings [] false (f ++ '(' :: p ++ [')'])).filterMap readOpening? =
    (f, Arguments.split p) :: (openings [] false p).filterMap readOpening?
  rw [hopen, List.filterMap_cons, hread, readOpenings_close hp]

namespace Call

def written (f : Text) (args : List Text) : Text :=
  f ++ '(' :: Arguments.written args ++ [')']

/-- A call that is written out as a line of its own is read back as this call and nothing else. Where it is assigned and
the parentheses of each argument match even with those in quotes counted, it comes first and the calls inside its
arguments follow. -/
theorem extract_reads_back {f : Text} {args : List Text} (hf : Text.isWordText f = true)
    (hargs : ∀ a ∈ args, Arguments.Single a) (hlast : args.getLast? ≠ some []) (typeOf : Text → Option Text) :
    extract typeOf (written f args ++ [';']) = [⟨f, args, void⟩] ∧
    ((∀ a ∈ args, Closes 0 a) → ∀ T x, Text.isWordText T = true → Text.isWordText x = true →
      extract typeOf (T ++ ' ' :: x ++ " = ".toList ++ written f args ++ [';']) =
        ⟨f, args, T⟩ :: (callsIn (Arguments.written args)).map fun q => ⟨q.1, q.2, T⟩) := by
  have hsplit := Arguments.split_written hargs hlast
  have hfeed := Arguments.feedless_written hargs
  constructor
  · have hline : standalone? (written f args ++ [';']) = some (f, Arguments.written args) :=
      standalone?_eq_some_iff.2 ⟨by simp [written], hf, hfeed⟩
    have hassign : Assignment.ofText? (written f args ++ [';']) = none := by
      rw [Option.eq_none_iff_forall_ne_some]
      intro a ha
      have hnone := (Assignment.ofText?_eq_some_iff.1 ha).standalone?_eq_none
      simp [hline] at hnone
    simp [extract, hassign, hline, hsplit]
  · intro hcloses T x hT hx
    have hassigns : Assigns x (written f args) (x ++ " = ".toList ++ written f args ++ [';']) := by
      refine ⟨[' '], [' '], by simp, hx, by decide, by decide, ?_, ?_, ?_⟩
      · simp [written]
      · simp [written, Text.feedless_of_word hf, hfeed]
      · rw [written, List.append_assoc]
        exact Text.unblank_append_word hf _
    have hspells : (Assignment.mk (some T) x (written f args)).Spells
        (T ++ ' ' :: x ++ " = ".toList ++ written f args ++ [';']) := by
      have htyped := Assignment.Spells.typed hT (by decide : Text.isBlankText [' '] = true) (by simp) hassigns
      simpa using htyped
    have hcalls : callsIn (written f args) = (f, args) :: callsIn (Arguments.written args) := by
      rw [written, callsIn_written hf (Arguments.closes_written hcloses), hsplit]
    rw [extract, Assignment.ofText?_eq_some_iff.2 hspells, hspells.standalone?_eq_none]
    simp [ofAssignment, hcalls]

theorem extract_reads_back_quoted_parentheses :
    let args := ["g (a, ')(')".toList, [], "\", é\"".toList]
    (∀ a ∈ args, Arguments.Single a) ∧ (∀ a ∈ args, Closes 0 a) ∧
    extract (fun _ => none) "f(g (a, ')('), , \", é\");".toList = [⟨"f".toList, args, "void".toList⟩] ∧
    extract (fun _ => none) "T x = f(g (a, ')('), , \", é\");".toList =
      [⟨"f".toList, args, "T".toList⟩, ⟨"g".toList, ["a".toList, "'".toList], "T".toList⟩] := by
  intro args
  have hargs : ∀ a ∈ args, Arguments.Single a := by decide
  have hcloses : ∀ a ∈ args, Closes 0 a := by decide
  obtain ⟨hline, hassigned⟩ :=
    extract_reads_back (f := "f".toList) (by decide) hargs (by decide) (fun _ => none)
  exact ⟨hargs, hcloses, hline, (hassigned hcloses "T".toList "x".toList (by decide) (by decide)).trans (by decide)⟩

end Call

end CallStubs
