import Attestation.Proofs.Json.Omission
import Attestation.Proofs.Submission.Writing
import Attestation.Requirements

namespace Attestation

open Json Omission

theorem Requirements.restores (r : Requirements) :
    layout.Restores r.toDocument.members r.without where
  distinct := by decide
  lenient := rfl
  starts omitted absent := by
    simp only [layout, List.forall_mem_cons] at absent
    simp [layout, without, choose_of_omitted, absent]
  fills := by
    simp [layout, toDocument, Document.members, Layout.Fills, Layout.Gives, without,
      Disclosed.readText_toTree, Disclosed.readAge_toTree, Tree.readBoolean_toTree,
      Tree.readList_strings, choose_given_self, choose_given_of_ne, bind, Except.bind, pure,
      Except.pure]

theorem Disclosed.restores (d : Disclosed) :
    layout.Restores d.toDocument.members d.without where
  distinct := by decide
  lenient := rfl
  starts omitted absent := by
    simp only [layout, List.forall_mem_cons] at absent
    simp [layout, without, choose_of_omitted, absent]
  fills := by
    simp [layout, toDocument, Document.members, Layout.Fills, Layout.Gives, without,
      readText_toTree, readDate_toTree, readAge_toTree, readCountries_toTree, choose_given_self,
      choose_given_of_ne, bind, Except.bind, pure, Except.pure]

theorem Submission.restores (s : Submission) :
    layout.Restores s.toDocument.members s.without where
  distinct := by decide
  lenient := rfl
  starts omitted absent := by
    simp only [layout, List.forall_mem_cons] at absent
    simp [layout, without, choose_of_omitted, absent]
  fills := by
    have verdicts : readVerdicts (verdictsDocument s.verdicts.entries).toTree = .ok s.verdicts := by
      rw [readVerdicts_toTree, Keyed.ofList_entries]
    rw [verdictsDocument] at verdicts
    simp [layout, toDocument, Document.members, Layout.Fills, Layout.Gives, without, verdicts,
      Disclosed.read_toTree, readIdentity_toTree, choose_given_self, choose_given_of_ne, bind,
      Except.bind, pure, Except.pure]

end Attestation
