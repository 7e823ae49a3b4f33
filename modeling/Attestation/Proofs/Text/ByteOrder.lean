import Mathlib.Data.List.Basic

namespace Attestation.Text

def codePoints (text : String) : List Nat := text.toList.map Char.toNat

def bytes (text : String) : List Nat := text.toUTF8.data.toList.map UInt8.toNat

/-- Where two texts first differ, the code point in `a` is the lower one or `a` has ended. -/
def ByCodePoints (a b : String) : Prop := List.Lex (· < ·) (codePoints a) (codePoints b)

def ByBytes (a b : String) : Prop := List.Lex (· < ·) (bytes a) (bytes b)

def following (n : Nat) : Nat :=
  if n ≤ 0x7f then 0 else if n ≤ 0x7ff then 1 else if n ≤ 0xffff then 2 else 3

def mark : Nat → Nat
  | 0 => 0
  | 1 => 0xc0
  | 2 => 0xe0
  | _ => 0xf0

/-- A number in digits of six bits, with marks on the first and on those that follow. -/
def sextets (first : Nat) : Nat → Nat → List Nat
  | 0, n => [first + n]
  | more + 1, n => sextets first more (n / 64) ++ [0x80 + n % 64]

def encoding (n : Nat) : List Nat := sextets (mark (following n)) (following n) n

theorem toNat_utf8EncodeChar (c : Char) :
    (String.utf8EncodeChar c).map UInt8.toNat = encoding c.toNat := by
  have valid := c.valid
  simp only [UInt32.isValidChar, Nat.isValidChar] at valid
  unfold String.utf8EncodeChar encoding following
  rw [Char.toNat]
  dsimp only
  repeat' split
  all_goals
    simp only [List.map_cons, List.map_nil, mark, sextets, List.cons_append, List.nil_append,
      UInt8.toNat_ofNat', List.cons.injEq, and_true]
    omega

theorem bytes_eq (text : String) : bytes text = (codePoints text).flatMap encoding := by
  have encoded : text.toUTF8.data.toList = text.toList.flatMap String.utf8EncodeChar := by
    rw [String.toUTF8_eq_toByteArray, ← String.utf8Encode_toList, List.utf8Encode,
      List.toList_data_toByteArray]
  rw [bytes, encoded, codePoints, List.map_flatMap, List.flatMap_map]
  simp only [toNat_utf8EncodeChar]

theorem following_le (n : Nat) : following n ≤ 3 := by
  unfold following
  repeat' split
  all_goals omega

theorem following_mono {m n : Nat} (less : m < n) : following m ≤ following n := by
  unfold following
  repeat' split
  all_goals omega

theorem mark_le_succ : ∀ more, mark more ≤ mark (more + 1)
  | 0 | 1 | 2 => by decide
  | _ + 3 => Nat.le_refl _

theorem mark_mono {fewer more : Nat} (order : fewer ≤ more) : mark fewer ≤ mark more := by
  induction order with
  | refl => exact Nat.le_refl _
  | step _ ih => exact Nat.le_trans ih (mark_le_succ _)

theorem exists_first (n : Nat) :
    ∃ first rest, encoding n = first :: rest ∧ mark (following n) ≤ first ∧
      (following n < 3 → first < mark (following n + 1)) := by
  unfold encoding following
  repeat' split
  all_goals
    refine ⟨_, _, rfl, ?_, ?_⟩
    all_goals simp only [mark]
    all_goals omega

theorem lex_sextets (first more : Nat) {m n : Nat} (less : m < n) (rest others : List Nat) :
    List.Lex (· < ·) (sextets first more m ++ rest) (sextets first more n ++ others) := by
  induction more generalizing m n rest others with
  | zero => exact .rel (Nat.add_lt_add_left less first)
  | succ more ih =>
    rw [sextets, sextets, List.append_assoc, List.append_assoc]
    -- all digits but the last decide first, whatever stands behind them
    by_cases higher : m / 64 < n / 64
    · exact ih higher _ _
    · have same : m / 64 = n / 64 := by omega
      have last : 0x80 + m % 64 < 0x80 + n % 64 := by omega
      rw [same]
      exact List.append_left_lt (List.Lex.rel last)

theorem lex_encoding {m n : Nat} (less : m < n) (rest others : List Nat) :
    List.Lex (· < ·) (encoding m ++ rest) (encoding n ++ others) := by
  -- lengths that differ show in the first byte, so only equal ones leave it to the digits
  rcases Nat.lt_or_eq_of_le (following_mono less) with longer | same
  · obtain ⟨first, after, shorter, -, below⟩ := exists_first m
    obtain ⟨second, beyond, long, above, -⟩ := exists_first n
    have room : following m < 3 := Nat.lt_of_lt_of_le longer (following_le n)
    rw [shorter, long]
    apply List.Lex.rel
    calc
      first < mark (following m + 1) := below room
      _ ≤ mark (following n) := mark_mono longer
      _ ≤ second := above
  · rw [encoding, encoding, same]
    exact lex_sextets _ _ less rest others

theorem lex_flatMap_encoding {left right : List Nat} (less : List.Lex (· < ·) left right) :
    List.Lex (· < ·) (left.flatMap encoding) (right.flatMap encoding) := by
  induction less with
  | @nil n rest =>
    obtain ⟨first, after, written, -, -⟩ := exists_first n
    rw [List.flatMap_nil, List.flatMap_cons, written]
    exact .nil
  | rel less => exact lex_encoding less _ _
  | cons _ ih => exact List.append_left_lt ih

variable {a b : String}

theorem byCodePoints_of_compare (less : compare a b = .lt) : ByCodePoints a b := by
  have order : a < b := compareOfLessAndEq_eq_lt.mp less
  exact List.map_lt (fun _ _ lower => lower) (show a.toList < b.toList from order)

theorem ByCodePoints.byBytes (less : ByCodePoints a b) : ByBytes a b := by
  rw [ByBytes, bytes_eq, bytes_eq]
  exact lex_flatMap_encoding less

theorem ByBytes.asymm (less : ByBytes a b) : ¬ ByBytes b a :=
  List.lex_asymm Nat.lt_asymm less

theorem byBytes_iff_compare : ByBytes a b ↔ compare a b = .lt := by
  constructor
  · intro less
    cases order : compare a b with
    | lt => rfl
    | eq =>
      obtain rfl := Std.LawfulEqCmp.eq_of_compare order
      exact absurd less less.asymm
    | gt =>
      have greater : compare b a = .lt := Std.OrientedCmp.lt_of_gt order
      exact absurd less (byCodePoints_of_compare greater).byBytes.asymm
  · intro less
    exact (byCodePoints_of_compare less).byBytes

theorem byCodePoints_iff_compare : ByCodePoints a b ↔ compare a b = .lt :=
  ⟨fun less => byBytes_iff_compare.mp less.byBytes, byCodePoints_of_compare⟩

/-- The order of texts by their code points is the order of their bytes. -/
theorem byCodePoints_iff_byBytes : ByCodePoints a b ↔ ByBytes a b :=
  byCodePoints_iff_compare.trans byBytes_iff_compare.symm

end Attestation.Text
