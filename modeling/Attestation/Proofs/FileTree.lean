import Attestation.FileTree
import Attestation.Proofs.Json.Reading

namespace Attestation.FileTree

variable (tree : FileTree) (place : Location) (content : String)

/-- A file that is put into its place changes which fault stops a walk, but not where one leads. -/
theorem walk_put (start : Location) (names : List String) :
    ((tree.put place content).walk start names).toOption = (tree.walk start names).toOption := by
  induction names generalizing start with
  | nil => rfl
  | cons name names ih =>
    have same : (tree.put place content).isDirectory start = tree.isDirectory start := rfl
    rw [walk, walk, same]
    split
    · split
      · exact ih start.dropLast
      · split
        · rfl
        · exact ih (start ++ [name])
    · rfl

theorem find?_put (path : String) : (tree.put place content).find? path = tree.find? path := by
  simp only [find?]
  split
  · rfl
  · exact tree.walk_put place content _ _

theorem file?_put_self : (tree.put place content).file? place = some content := by
  simp [file?, put]

variable {tree content}

theorem exists_of_save {tree' : FileTree} {path : String}
    (saved : tree.save path content = .ok tree') :
    ∃ made : FileTree, ∃ place, made.find? path = some place ∧ made.isDirectory place = false ∧
      Route.endsInSlash path = false ∧ tree' = made.put place content := by
  rw [save, Json.bind_eq_ok_iff] at saved
  obtain ⟨made, -, saved⟩ := saved
  cases found : made.find? path with
  | none =>
    simp only [found] at saved
    cases saved
  | some place =>
    simp only [found] at saved
    split at saved
    · cases saved
    · rename_i free
      cases saved
      simp only [Bool.or_eq_true, not_or, Bool.not_eq_true] at free
      exact ⟨made, place, found, free.1, free.2, rfl⟩

/-- What was saved under a path is found there, whatever was there before. -/
theorem look_of_save {tree' : FileTree} {path : String}
    (saved : tree.save path content = .ok tree') :
    tree'.look path = .text content := by
  obtain ⟨made, place, found, free, noSlash, rfl⟩ := exists_of_save saved
  have same : (made.put place content).isDirectory place = false := free
  simp only [look, find?_put, found, same, file?_put_self, noSlash]
  rfl

end Attestation.FileTree
