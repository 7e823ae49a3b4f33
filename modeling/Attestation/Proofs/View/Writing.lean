import Attestation.Proofs.View.WireForm

namespace Attestation.View

open Json

theorem compactMembers_cons (first : String × Document) (rest : List (String × Document)) :
    memberText first.1 first.2.compact ++ Document.compactMembers rest =
      [','].intercalate ((first :: rest).map fun m => memberText m.1 m.2.compact) ++ ['}'] := by
  induction rest generalizing first with
  | nil =>
    rw [Document.compactMembers, List.map_cons, List.map_nil, List.intercalate_singleton]
  | cons second rest ih =>
    have separated : Document.compactMembers (second :: rest) =
        ',' :: (memberText second.1 second.2.compact ++ Document.compactMembers rest) := by
      rw [Document.compactMembers, memberText]
      simp
    rw [separated, ih second, List.map_cons, List.map_cons, List.map_cons,
      List.intercalate_cons_cons]
    simp

theorem compact_object (members : List (String × Document)) :
    (Document.object members).compact =
      '{' :: [','].intercalate (members.map fun m => memberText m.1 m.2.compact) ++ ['}'] := by
  cases members with
  | nil =>
    rw [Document.compact]
    rfl
  | cons first rest =>
    have opened : (Document.object (first :: rest)).compact =
        '{' :: (memberText first.1 first.2.compact ++ Document.compactMembers rest) := by
      rw [Document.compact, memberText]
      simp
    rw [opened, compactMembers_cons, List.cons_append]

section

variable (view : View)

theorem streamText_eq : view.streamText = view.toText := by
  rw [streamText, toText, Document.toText, toDocument, compact_object, stream]
  simp [Document.compact, Function.comp_def]

def texts : List String := [view.toText, view.toIndentedText, view.streamText]

variable {view} {text : String} {blanks : List Char}

theorem spelledBy_of_mem_texts (written : text ∈ view.texts) :
    (Tree.object view.members).SpelledBy text.toList := by
  have compact := Tree.spelledBy_toText view.toDocument
  have indented := Tree.spelledBy_toIndentedText view.toDocument
  rw [toTree_toDocument] at compact indented
  simp only [texts, streamText_eq, List.mem_cons, List.not_mem_nil, or_false] at written
  rcases written with rfl | rfl | rfl
  · exact compact
  · exact indented
  · exact compact

theorem ofText_of_spelledBy (spelled : (Tree.object view.members).SpelledBy text.toList) :
    ofText text = .ok view :=
  (ofText_eq_ok_iff text view).mpr ⟨_, spelled, (wireForm_iff _ view).mpr (.refl _)⟩

theorem ofText_append_of_mem_texts (written : text ∈ view.texts)
    (spaces : ∀ c ∈ blanks, Scanner.isSpace c = true) :
    ofText (text ++ String.ofList blanks) = .ok view := by
  refine ofText_of_spelledBy ?_
  rw [String.toList_append, String.toList_ofList]
  exact (spelledBy_of_mem_texts written).followed_by_blanks spaces

end

variable (view : View) {blanks : List Char}

theorem ofText_toText_append (spaces : ∀ c ∈ blanks, Scanner.isSpace c = true) :
    ofText (view.toText ++ String.ofList blanks) = .ok view :=
  ofText_append_of_mem_texts (by simp [texts]) spaces

theorem ofText_toIndentedText_append (spaces : ∀ c ∈ blanks, Scanner.isSpace c = true) :
    ofText (view.toIndentedText ++ String.ofList blanks) = .ok view :=
  ofText_append_of_mem_texts (by simp [texts]) spaces

/-- A view is read back from each of its texts, which list its members in their order and nothing
else, and no other view has such a text. -/
theorem texts_read_back :
    view.streamText = view.toText ∧
    (∀ text ∈ view.texts,
      ofText text = .ok view ∧ (Tree.object view.members).SpelledBy text.toList) ∧
    ∀ other : View, other ≠ view → ∀ text ∈ view.texts, text ∉ other.texts := by
  have read {view : View} {text : String} (written : text ∈ view.texts) :
      ofText text = .ok view := ofText_of_spelledBy (spelledBy_of_mem_texts written)
  refine ⟨view.streamText_eq, ?_, ?_⟩
  · exact fun text written => ⟨read written, spelledBy_of_mem_texts written⟩
  · intro other different text written also
    exact different (Except.ok.inj ((read also).symm.trans (read written)))

/-- Two views that differ in a backslash only. -/
theorem texts_read_back_escaped :
    let flags : Check → Bool := fun c => decide (c ≠ .proof)
    let view : View := ⟨flags, "\"𝄞\x01\n", "\\"⟩
    let other : View := ⟨flags, "\"𝄞\x01\n", "\\\\"⟩
    ofText view.toIndentedText = .ok view ∧ view.toText ∉ other.texts := by
  intro flags view other
  obtain ⟨-, read, apart⟩ := texts_read_back view
  refine ⟨(read view.toIndentedText (by simp [texts])).1, ?_⟩
  refine apart other (fun same => ?_) view.toText (by simp [texts])
  exact absurd (congrArg View.nullifier same) (by decide)

end Attestation.View
