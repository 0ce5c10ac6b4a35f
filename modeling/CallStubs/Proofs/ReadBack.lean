import CallStubs.Folder
import Mathlib.Tactic

/-! What is written to a file of a folder is read from it afterwards. -/

namespace CallStubs.Folder

lemma fileAt?_eq_find? (f : Folder) (ps : List Text) : f.fileAt? ps = f.reverse.find? fun e => spot e.1 == ps :=
  List.findRev?_eq_find?_reverse

lemma spot_of_fileAt? {f : Folder} {ps : List Text} {e : Text × Text} (h : f.fileAt? ps = some e) : spot e.1 = ps := by
  rw [fileAt?_eq_find?] at h
  simpa using List.find?_some h

section Rewriting

variable {r : Text × Text → Text × Text} (hr : ∀ e, (r e).1 = e.1) (f : Folder)

include hr

lemma fileAt?_map (ps : List Text) : fileAt? (f.map r) ps = (f.fileAt? ps).map r := by
  have hspot : ((fun e : Text × Text => spot e.1 == ps) ∘ r) = fun e => spot e.1 == ps := by
    funext e
    rw [Function.comp_apply, hr]
  rw [fileAt?_eq_find?, fileAt?_eq_find?, ← List.map_reverse, List.find?_map, hspot]

lemma hasFolder_map (ps : List Text) : hasFolder (f.map r) ps = f.hasFolder ps := by
  rw [hasFolder, hasFolder, List.any_map]
  congr 1
  funext e
  rw [Function.comp_apply, hr]

lemma step_map (place : Place) (p : Text) : step (f.map r) place p = f.step place p := by
  cases place with
  | within dir => simp only [step, fileAt?_map hr, hasFolder_map hr, Option.isSome_map]
  | _ => rfl

lemma locate_map (path : Text) : locate (f.map r) path = f.locate path := by
  have hstep : step (f.map r) = f.step := by
    funext place p
    exact step_map hr f place p
  rw [locate, locate, hstep]

end Rewriting

lemma file_eq_text {f : Folder} {path t : Text} (h : f.file path = .text t) :
    ∃ ps e, f.locate path = .at ps ∧ f.fileAt? ps = some e ∧ e.2 = t := by
  unfold file at h
  split at h
  · simp at h
  · simp at h
  · rename_i ps hps
    cases he : f.fileAt? ps with
    | none => simp [he] at h
    | some e => exact ⟨ps, e, hps, he, by simpa [he] using h⟩
  · simp at h
  · simp at h
  · simp at h

lemma file_write {f : Folder} {path t : Text} (h : f.file path = .text t) (u : Text) :
    (f.write path u).file path = .text u := by
  obtain ⟨ps, e, hps, he, -⟩ := file_eq_text h
  have hr : ∀ e : Text × Text, (if spot e.1 = ps then (e.1, u) else e).1 = e.1 := by
    intro e
    split_ifs <;> rfl
  rw [write, hps]
  simp only [file]
  rw [locate_map hr, hps]
  simp only [fileAt?_map hr, he, Option.map_some, if_pos (spot_of_fileAt? he), Option.getD_some]

end CallStubs.Folder
