import Attestation.Json.Document
import Attestation.Json.Token

namespace Attestation.Json

namespace Scanner

variable {tokens : List Token}

def EndsNumber (c : Char) : Prop := c.isDigit = false ∧ c ∉ ['.', 'e', 'E']

instance (c : Char) : Decidable (EndsNumber c) := inferInstanceAs (Decidable (_ ∧ _))

structure Settled (s : Scanner) (tokens : List Token) : Prop where
  finish_eq : s.finish = tokens.reverse
  step_eq {c : Char} (ends : EndsNumber c) : s.step c = begin tokens c

theorem settled_between : Settled ⟨tokens, .between⟩ tokens := ⟨rfl, fun _ => rfl⟩

def Spells (text : List Char) (words : List Token) : Prop :=
  ∀ tokens, Settled (text.foldl step ⟨tokens, .between⟩) (words.reverse ++ tokens)

/-- Even right behind a number the text is scanned as the words, and any word may follow. -/
def Separates (text : List Char) (words : List Token) : Prop :=
  ∀ ⦃s tokens⦄, Settled s tokens → text.foldl step s = ⟨words.reverse ++ tokens, .between⟩

theorem separates_mark {c : Char} {token : Token} (ends : EndsNumber c)
    (meant : ∀ tokens, begin tokens c = emit tokens token) : Separates [c] [token] := by
  intro s tokens settled
  rw [List.foldl_cons, List.foldl_nil, settled.step_eq ends, meant]
  rfl

theorem endsNumber_of_isSpace {c : Char} (space : isSpace c = true) : EndsNumber c := by
  simp only [isSpace, Bool.or_eq_true, beq_iff_eq] at space
  rcases space with ((rfl | rfl) | rfl) | rfl <;> decide

theorem scan_spaces {blanks : List Char} (spaces : ∀ c ∈ blanks, isSpace c = true) :
    blanks.foldl step ⟨tokens, .between⟩ = ⟨tokens, .between⟩ := by
  induction blanks with
  | nil => rfl
  | cons c rest ih =>
    have skipped : step ⟨tokens, .between⟩ c = ⟨tokens, .between⟩ := by
      simp [step, begin, spaces c (List.mem_cons_self ..)]
    rw [List.foldl_cons, skipped, ih fun c member => spaces c (List.mem_cons_of_mem _ member)]

theorem separates_spaces {c : Char} {blanks : List Char}
    (spaces : ∀ b ∈ c :: blanks, isSpace b = true) : Separates (c :: blanks) [] := by
  intro s tokens settled
  have space : isSpace c = true := spaces c (List.mem_cons_self ..)
  have skipped : begin tokens c = ⟨tokens, .between⟩ := by simp [begin, space]
  rw [List.foldl_cons, settled.step_eq (endsNumber_of_isSpace space), skipped,
    scan_spaces fun b member => spaces b (List.mem_cons_of_mem _ member)]
  rfl

theorem separates_word (flag : Bool) : Separates (Document.word flag) [.boolean flag] := by
  intro s tokens settled
  cases flag
  · rw [Document.word, if_neg (by decide), List.foldl_cons, settled.step_eq (by decide)]
    rfl
  · rw [Document.word, if_pos rfl, List.foldl_cons, settled.step_eq (by decide)]
    rfl

theorem separates_null : Separates ['n', 'u', 'l', 'l'] [.null] := by
  intro s tokens settled
  rw [List.foldl_cons, settled.step_eq (by decide)]
  rfl

theorem begin_digit {c : Char} (digit : c.isDigit = true) :
    begin tokens c = step ⟨tokens, .number ⟨false, [], [], none⟩ .sign⟩ c := by
  have spaceless : ¬isSpace c = true := by
    intro space
    have ends := endsNumber_of_isSpace space
    exact absurd (digit.symm.trans ends.1) (by decide)
  obtain ⟨after, extended⟩ : ∃ after,
      Numeral.extend? ⟨false, [], [], none⟩ .sign c = some after := by
    simp only [Numeral.extend?, digit]
    split <;> exact ⟨_, rfl⟩
  have stepped : step ⟨tokens, .number ⟨false, [], [], none⟩ .sign⟩ c =
      ⟨tokens, .number after.1 after.2⟩ := by
    simp only [step, extended]
  rw [stepped]
  unfold begin
  rw [if_neg spaceless, extended]
  split <;> first | rfl | exact absurd digit (by decide)

end Scanner

end Attestation.Json
