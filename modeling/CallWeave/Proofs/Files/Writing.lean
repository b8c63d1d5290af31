import CallWeave.Files.Tree
import Mathlib.Tactic.SplitIfs

/-!
# Files read back

A file that is written is found under the path that it was written at, and read as what was written
(`FileTree.readText?_of_write?`). The walk of a path passes through directories only, and what is written over is none,
so the walk is the same before and after, wherever dots lead it.
-/

namespace CallWeave.FileTree

variable {tree after : FileTree} {path text : String} {content : Bytes} {location start there : List String}
  {parts : List String}

theorem node?_put (tree : FileTree) (location : List String) (node : FileNode) :
    (tree.put location node).node? location = some node := if_pos rfl

/-- A walk does not see a file that is put where there is no directory. -/
theorem walk?_put (noDirectory : tree.node? location ≠ some .directory)
    (walked : tree.walk? start parts = some there) :
    (tree.put location (.file content)).walk? start parts = some there := by
  induction parts generalizing start with
  | nil => exact walked
  | cons part rest ih =>
    rw [walk?] at walked
    obtain ⟨isDirectory, walked⟩ := Option.ite_none_right_eq_some.mp walked
    have passed : (tree.put location (.file content)).node? start = some .directory := by
      have elsewhere : start ≠ location := fun same => noDirectory (same ▸ isDirectory)
      exact (if_neg elsewhere).trans isDirectory
    rw [walk?, if_pos passed]
    split_ifs at walked ⊢ <;> exact ih walked

/-- A file is written where its path leads to, in a directory and over none. -/
theorem exists_of_write? (written : tree.write? path content = some after) :
    ∃ location, tree.locate? path = some location ∧ tree.node? location ≠ some .directory ∧
      after = tree.put location (.file content) := by
  rw [write?] at written
  split at written
  case h_1 => cases written
  case h_2 location located =>
    refine ⟨location, located, ?_⟩
    split at written
    case h_1 => cases written
    case h_2 noDirectory => exact ⟨noDirectory, (Option.some.inj written).symm⟩
    case h_3 => cases written

/-- The path of a file that is written leads to it. -/
theorem locate?_of_write? (written : tree.write? path content = some after) :
    (after.locate? path).bind after.node? = some (.file content) := by
  obtain ⟨location, located, noDirectory, rfl⟩ := exists_of_write? written
  obtain ⟨notEmpty, walked⟩ := Option.ite_none_left_eq_some.mp located
  have found : (tree.put location (.file content)).locate? path = some location :=
    (if_neg notEmpty).trans (walk?_put noDirectory walked)
  rw [found, Option.bind_some, node?_put]

theorem pathExists_of_write? (written : tree.write? path content = some after) : after.pathExists path = true := by
  rw [pathExists, locate?_of_write? written, Option.isSome_some]

/-- A text that is written is read back. -/
theorem readText?_of_write? (written : tree.write? path (textBytes text) = some after) :
    after.readText? path = some text := by
  have decoded : String.fromUTF8? ⟨(textBytes text).toArray⟩ = some text := by
    simp [String.fromUTF8?, String.fromUTF8, textBytes, text.isValidUTF8]
  rw [readText?, read?, locate?_of_write? written]
  exact decoded

end CallWeave.FileTree
