import CatchAll.Logging
import CatchAll.Proofs.Files.Tree
import CatchAll.Proofs.Outcome

/-!
# What a log does to the files

A log that is set up has its file, or none. Keeping records lengthens that file and
touches nothing else, and records kept one after the other are records kept at once.
-/

set_option autoImplicit false

namespace CatchAll.Logging

open scoped Text
open Outcome Files

namespace Log

variable {log : Log} {tree : Tree} {steps : List Text}

/-- The file of the log is there, if it has one. -/
def IsOpen (log : Log) (tree : Tree) : Prop :=
  ∀ place, log.file = some place → ∃ bytes, tree.entry? place = some (.file bytes)

/-- The text of records in a log. -/
def written (log : Log) (records : List Record) : Text :=
  (records.filter log.threshold.accepts).flatMap fun r => log.line r ++ ['\n']

theorem written_append (log : Log) (earlier later : List Record) :
    log.written (earlier ++ later) = log.written earlier ++ log.written later := by
  rw [written, List.filter_append, List.flatMap_append, ← written, ← written]

theorem keep_of_none (h : log.file = none) (records : List Record) (tree : Tree) :
    log.keep records tree = tree := by
  rw [keep, h]

theorem keep_of_some {place : List Text} (h : log.file = some place) (records : List Record)
    (tree : Tree) : log.keep records tree =
      tree.append place (String.ofList (log.written records)).toUTF8 := by
  rw [keep, h]
  rfl

theorem IsOpen.sameShape (h : log.IsOpen tree) (records : List Record) :
    Tree.SameShape tree (log.keep records tree) := by
  cases hfile : log.file with
  | none =>
    rw [keep_of_none hfile]
    exact Tree.sameShape_refl tree
  | some place =>
    obtain ⟨old, hold⟩ := h place hfile
    rw [keep_of_some hfile]
    exact Tree.sameShape_append hold _

theorem IsOpen.keep (h : log.IsOpen tree) (records : List Record) :
    log.IsOpen (log.keep records tree) := by
  intro place hfile
  obtain ⟨old, hold⟩ := h place hfile
  rw [keep_of_some hfile]
  by_cases hempty : (String.ofList (log.written records)).toUTF8 = .empty
  · rw [hempty, Tree.append_empty hold]
    exact ⟨old, hold⟩
  · rw [Tree.append_file hold hempty, Tree.entry?_put, if_pos rfl]
    exact ⟨_, rfl⟩

/-- Records kept one after the other are records kept at once. -/
theorem IsOpen.keep_keep (h : log.IsOpen tree) (earlier later : List Record) :
    log.keep later (log.keep earlier tree) = log.keep (earlier ++ later) tree := by
  cases hfile : log.file with
  | none => rw [keep_of_none hfile, keep_of_none hfile, keep_of_none hfile]
  | some place =>
    obtain ⟨old, hold⟩ := h place hfile
    rw [keep_of_some hfile, keep_of_some hfile, keep_of_some hfile, written_append,
      Tree.append_append hold, String.ofList_append]
    simp only [String.toUTF8_eq_toByteArray, String.toByteArray_append]

end Log

end CatchAll.Logging
