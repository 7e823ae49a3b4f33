import Attestation.Proofs.Config.Reading
import Attestation.Proofs.FileTree

namespace Attestation.Config

open Toml

theorem without_nothing (c : Config) : c.without .nothing (fun _ => .nothing) = c := rfl

theorem remain_sections (c : Config) : c.Remain .nothing (fun _ => .nothing) c.sections := by
  have all : (c.sections.filter fun part => !Omission.nothing part.name) = c.sections :=
    List.filter_true _
  refine ⟨(·.entries), ?_, ?_⟩
  · exact fun part _ => .of_eq (List.filter_true _).symm
  · rw [all]
    exact .of_eq (List.map_id _).symm

theorem ofStored_toText (c : Config) : ofStored (.text c.toText) = .ok c := by
  have remain := c.remain_sections
  obtain ⟨tables, read, stand⟩ := remain.exists_tables
  rw [toText, ofStored_of_remain remain read stand, without_nothing]

/-- A configuration that was saved under a path is loaded from there as it was. -/
theorem saved_config_is_loaded {tree tree' : FileTree} {path : String} {c : Config}
    (saved : tree.save path c.toText = .ok tree') : ofStored (tree'.look path) = .ok c := by
  rw [FileTree.look_of_save saved, ofStored_toText]

theorem saved_config_is_loaded_over_old_text :
    let tree : FileTree := ⟨[], [], [(["c"], "[verification\n")]⟩
    let c : Config :=
      { verification := { policy := .lenient, toleranceDays := Int64.minValue }
        requirements :=
          { scope := some "", name := some "\"'\\\r\n\x00", gender := some "'''\"\"\"\n"
            currentDate := false, minimumAge := some 0, forbiddenCountries := ["'", "\"\t\""] }
        logging := { level := "\n", format := "\r\n''\x7f" } }
    ∃ tree', tree.save "c" c.toText = .ok tree' ∧ ofStored (tree'.look "c") = .ok c := by
  intro tree c
  have absolute : ("c").startsWith "/" = false := by decide +kernel
  have file : Route.endsInSlash "c" = false := by decide +kernel
  have names : ("c").splitOn "/" = ["c"] := by
    rw [String.splitOn, if_neg (by decide), String.splitOnAux.eq_1, if_neg (by decide),
      if_neg (by decide), String.splitOnAux.eq_1, if_pos (by decide)]
    decide
  have route : Route.ofText "c" = ⟨false, ["c"]⟩ := by
    rw [Route.ofText, absolute, names]
    rfl
  have saved : ∃ tree', tree.save "c" c.toText = .ok tree' := by
    simp only [FileTree.save, route, file, FileTree.find?]
    exact ⟨_, rfl⟩
  obtain ⟨tree', saved⟩ := saved
  exact ⟨tree', saved, saved_config_is_loaded saved⟩

end Attestation.Config
