import Attestation.Proofs.Json.Printing
import Attestation.Proofs.View.Members

namespace Attestation.View

open Json

/-- What makes an object a view: each name once, a truth value for each check, two texts, and a
`valid` that says whether all flags are set. -/
structure WireForm (members : List Member) (view : View) : Prop where
  names : (members.map (·.1)).Perm (wireNames.map some)
  flags : ∀ c, (some c.wireName, .boolean (view.flags c)) ∈ members
  valid : ∃ flag, (some validName, .boolean flag) ∈ members ∧
    (flag = true ↔ ∀ c, view.flags c = true)
  userIdentifier : (some userIdentifierName, .string (some view.userIdentifier)) ∈ members
  nullifier : (some nullifierName, .string (some view.nullifier)) ∈ members

theorem mem_members_iff (view : View) (m : Member) :
    m ∈ view.members ↔ (∃ c, m = (some c.wireName, .boolean (view.flags c))) ∨
      m = (some validName, .boolean view.valid) ∨
      m = (some userIdentifierName, .string (some view.userIdentifier)) ∨
      m = (some nullifierName, .string (some view.nullifier)) := by
  simp [members, Check.mem_all, eq_comm]

theorem map_fst_members (view : View) : view.members.map (·.1) = wireNames.map some := by
  simp [members, wireNames]

theorem wireForm_iff (members : List Member) (view : View) :
    WireForm members view ↔ members.Perm view.members := by
  have nodup : (wireNames.map some).Nodup := by decide
  constructor
  · intro form
    obtain ⟨flag, valid, agrees⟩ := form.valid
    have flag_eq : flag = view.valid := by
      rw [Bool.eq_iff_iff, agrees, View.valid_iff]
    have distinct : view.members.Nodup := by
      rw [← map_fst_members view] at nodup
      exact nodup.of_map _
    have inside : view.members ⊆ members := by
      intro m member
      obtain ⟨c, rfl⟩ | rfl | rfl | rfl := (view.mem_members_iff m).mp member
      · exact form.flags c
      · exact flag_eq ▸ valid
      · exact form.userIdentifier
      · exact form.nullifier
    -- There are no more members than names, so none is left over.
    have long : members.length ≤ view.members.length := by
      have same := (form.names.trans (.of_eq (map_fst_members view).symm)).length_eq
      simpa using same.le
    exact ((List.subperm_of_subset distinct inside).perm_of_length_le long).symm
  · intro reordered
    have listed (m : Member) : m ∈ members ↔ _ := reordered.mem_iff.trans (view.mem_members_iff m)
    refine ⟨?_, ?_, ⟨view.valid, ?_, view.valid_iff⟩, ?_, ?_⟩
    · rw [← map_fst_members view]
      exact reordered.map _
    · exact fun c => (listed _).mpr (.inl ⟨c, rfl⟩)
    · exact (listed _).mpr (.inr (.inl rfl))
    · exact (listed _).mpr (.inr (.inr (.inl rfl)))
    · exact (listed _).mpr (.inr (.inr (.inr rfl)))

theorem toTree_toDocument (view : View) : view.toDocument.toTree = .object view.members := by
  rw [toDocument, Document.toTree, Document.toMembers_eq]
  simp [members, Document.toTree]

def WireText (text : String) (view : View) : Prop :=
  ∃ members, (Tree.object members).SpelledBy text.toList ∧ WireForm members view

theorem ofText_eq_ok_iff (text : String) (view : View) :
    ofText text = .ok view ↔ WireText text view := by
  have alone_iff (tree : Tree) : Tree.ofText text = (tree, true) ↔ _ := Tree.ofText_eq_iff text tree
  rw [ofText]
  cases read : Tree.ofText text with
  | mk tree alone =>
    rw [read] at alone_iff
    simp only [bind_eq_ok_iff]
    constructor
    · rintro ⟨found, shaped, kept⟩
      obtain ⟨members, rfl, reordered⟩ := (ofTree_eq_ok_iff tree found).mp shaped
      cases alone with
      | false => cases kept
      | true =>
        cases kept
        exact ⟨members, (alone_iff _).mp rfl, (wireForm_iff members view).mpr reordered⟩
    · rintro ⟨members, spelled, form⟩
      cases (alone_iff _).mpr spelled
      exact ⟨view, (ofTree_object_eq_ok_iff members view).mpr ((wireForm_iff members view).mp form),
        rfl⟩

/-- A text is read as a view exactly when it has the wire form of this view. Any other text is
refused, and the order of the members does not matter. -/
theorem ofText_accepts_wire_form (text : String) :
    (∀ view, ofText text = .ok view ↔ WireText text view) ∧
    ((∃ error, ofText text = .error error) ↔ ∀ view, ¬ WireText text view) ∧
    ∀ other members others, (Tree.object members).SpelledBy text.toList →
      (Tree.object others).SpelledBy other.toList → members.Perm others →
        ∀ view, ofText text = .ok view → ofText other = .ok view := by
  refine ⟨ofText_eq_ok_iff text, ?_, ?_⟩
  · simp only [← ofText_eq_ok_iff]
    cases ofText text <;> simp
  · intro other members others spelled spelledOther reordered view read
    obtain ⟨found, spelledFound, form⟩ := (ofText_eq_ok_iff text view).mp read
    have same : Tree.object found = .object members := spelledFound.tree_eq spelled
    obtain rfl := Tree.object.inj same
    have formOther := (wireForm_iff others view).mpr
      (reordered.symm.trans ((wireForm_iff found view).mp form))
    exact (ofText_eq_ok_iff other view).mpr ⟨others, spelledOther, formOther⟩

/-- The members of a written view on lines of their own, the last one first. -/
theorem ofText_accepts_reversed_members :
    let view : View := ⟨fun c => decide (c ≠ .ofac), "\"quoted\"", "\\"⟩
    let reversed := (nullifierName, Document.string "\\") ::
      (userIdentifierName, .string "\"quoted\"") :: (validName, .boolean false) ::
        Check.all.reverse.map fun c => (c.wireName, .boolean (decide (c ≠ .ofac)))
    ofText (Document.object reversed).toIndentedText = .ok view := by
  intro view reversed
  have spelled := Tree.spelledBy_toText view.toDocument
  have spelledReversed := Tree.spelledBy_toIndentedText (.object reversed)
  rw [toTree_toDocument] at spelled
  rw [Document.toTree, Document.toMembers_eq] at spelledReversed
  obtain ⟨accepts, -, reorders⟩ := ofText_accepts_wire_form view.toText
  refine reorders _ _ _ spelled spelledReversed ?_ view ?_
  · have same : view.members = (reversed.map fun m => (some m.1, m.2.toTree)).reverse := by
      have invalid : view.valid = false := by decide
      rw [members, invalid]
      simp [reversed, view, Document.toTree, Function.comp_def]
    rw [same]
    exact List.reverse_perm _
  · exact (accepts view).mpr ⟨_, spelled, (wireForm_iff _ view).mpr (.refl _)⟩

end Attestation.View
