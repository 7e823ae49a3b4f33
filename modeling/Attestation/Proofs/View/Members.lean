import Attestation.Proofs.View.Reading
import Mathlib.Data.List.Perm.Subperm

namespace Attestation.View

open Json

def wireNames : List String :=
  Check.all.map Check.wireName ++ [validName, userIdentifierName, nullifierName]

def entries (view : View) : List (String × Tree) :=
  Check.all.map (fun c => (c.wireName, .boolean (view.flags c))) ++
    [(validName, .boolean view.valid), (userIdentifierName, .string (some view.userIdentifier)),
      (nullifierName, .string (some view.nullifier))]

section Entries

variable (view : View)

theorem map_fst_entries : view.entries.map (·.1) = wireNames := by
  simp [entries, wireNames]

theorem nodup_entries : (view.entries.map (·.1)).Nodup := by
  rw [map_fst_entries]
  decide

theorem mem_entries_iff (entry : String × Tree) :
    entry ∈ view.entries ↔ (∃ c, entry = (c.wireName, .boolean (view.flags c))) ∨
      entry = (validName, .boolean view.valid) ∨
      entry = (userIdentifierName, .string (some view.userIdentifier)) ∨
      entry = (nullifierName, .string (some view.nullifier)) := by
  simp [entries, Check.mem_all, eq_comm]

theorem fits_of_mem_entries {view : View} {name : String} {value : Tree}
    (member : (name, value) ∈ view.entries) : Draft.Fits name value := by
  obtain ⟨c, same⟩ | same | same | same := (view.mem_entries_iff _).mp member <;> cases same
  · exact .flag c _
  · exact .valid _
  · exact .userIdentifier _
  · exact .nullifier _

theorem member?_ofView (name : String) (value : Tree) :
    (Draft.ofView view).member? name = some value ↔ (name, value) ∈ view.entries := by
  constructor
  · intro stands
    rw [mem_entries_iff]
    unfold Draft.member? at stands
    split at stands
    · rename_i named
      cases stands
      exact .inr (.inl (by rw [named]))
    · split at stands
      · rename_i named
        cases stands
        exact .inr (.inr (.inl (by rw [named])))
      · split at stands
        · rename_i named
          cases stands
          exact .inr (.inr (.inr (by rw [named])))
        · obtain ⟨c, found, stands⟩ := Option.bind_eq_some_iff.mp stands
          cases stands
          exact .inl ⟨c, by rw [Check.wireName_of_ofName? found]⟩
  · intro member
    obtain ⟨c, same⟩ | same | same | same := (view.mem_entries_iff _).mp member <;>
      cases same <;> simp [Draft.ofView]

end Entries

def members (view : View) : List Member :=
  Check.all.map (fun c => (some c.wireName, .boolean (view.flags c))) ++
    [(some validName, .boolean view.valid),
      (some userIdentifierName, .string (some view.userIdentifier)),
      (some nullifierName, .string (some view.nullifier))]

theorem members_eq (view : View) :
    view.members = view.entries.map fun entry => (some entry.1, entry.2) := by
  simp [members, entries]

theorem addAll_finish_eq_ok_iff (entries : List (String × Tree)) (view : View) :
    Draft.empty.addAll entries >>= Draft.finish = .ok view ↔ entries.Perm view.entries := by
  rw [bind_eq_ok_iff]
  constructor
  · rintro ⟨draft, added, finished⟩
    obtain rfl := (Draft.finish_eq_ok_iff draft view).mp finished
    obtain ⟨distinct, -, stands⟩ := Draft.member?_addAll added
    -- Neither list has a name twice, so the same members make them permutations of each other.
    refine (List.perm_ext_iff_of_nodup (distinct.of_map _)
      (view.nodup_entries.of_map _)).mpr ?_
    rintro ⟨name, value⟩
    have stood := stands name value
    simp only [Draft.member?_empty, reduceCtorEq, or_false, member?_ofView] at stood
    exact stood.symm
  · intro reordered
    have distinct : (entries.map (·.1)).Nodup :=
      (reordered.map _).nodup_iff.mpr view.nodup_entries
    have fitting : ∀ entry ∈ entries, Draft.Fits entry.1 entry.2 ∧
        Draft.empty.member? entry.1 = none := fun entry inside =>
      ⟨fits_of_mem_entries (reordered.mem_iff.mp inside), Draft.member?_empty _⟩
    obtain ⟨draft, added⟩ := Draft.exists_addAll distinct fitting
    obtain ⟨-, -, stands⟩ := Draft.member?_addAll added
    have same : draft = .ofView view := by
      refine Draft.eq_of_member? fun name => Option.ext fun value => ?_
      rw [stands, member?_ofView, ← reordered.mem_iff, Draft.member?_empty]
      simp
    exact ⟨draft, added, (Draft.finish_eq_ok_iff draft view).mpr same⟩

theorem hold?_cons_eq_some_iff (name : Option String) (value : Tree) (rest : List Member)
    (entries : List (String × Tree)) :
    hold? ((name, value) :: rest) = some entries ↔
      ∃ key others, name = some key ∧ value.isKeepable (Tree.greatestDepth - 1) = true ∧
        hold? rest = some others ∧ entries = (key, value) :: others := by
  simp only [hold?, List.mapM_cons, Option.bind_eq_bind, Option.bind_eq_some_iff]
  constructor
  · rintro ⟨entry, ⟨key, rfl, kept⟩, others, held, made⟩
    split at kept
    · rename_i keepable
      cases kept
      cases made
      exact ⟨key, others, rfl, keepable, held, rfl⟩
    · cases kept
  · rintro ⟨key, others, rfl, keepable, held, rfl⟩
    exact ⟨_, ⟨key, rfl, if_pos keepable⟩, others, held, rfl⟩

theorem hold?_eq_some_iff (members : List Member) (entries : List (String × Tree)) :
    hold? members = some entries ↔
      members = entries.map (fun entry => (some entry.1, entry.2)) ∧
        ∀ entry ∈ entries, entry.2.isKeepable (Tree.greatestDepth - 1) = true := by
  induction members generalizing entries with
  | nil => cases entries <;> simp [hold?]
  | cons member rest ih =>
    obtain ⟨name, value⟩ := member
    rw [hold?_cons_eq_some_iff]
    constructor
    · rintro ⟨key, others, rfl, keepable, held, rfl⟩
      obtain ⟨rfl, kept⟩ := (ih others).mp held
      exact ⟨rfl, List.forall_mem_cons.mpr ⟨keepable, kept⟩⟩
    · rintro ⟨same, kept⟩
      cases entries with
      | nil => cases same
      | cons entry entries =>
        cases same
        obtain ⟨keepable, kept⟩ := List.forall_mem_cons.mp kept
        exact ⟨entry.1, entries, rfl, keepable, (ih entries).mpr ⟨rfl, kept⟩, rfl⟩

theorem Draft.Fits.isKeepable {name : String} {value : Tree} (fits : Draft.Fits name value)
    (levels : Nat) : value.isKeepable levels = true := by
  cases fits <;> rw [Tree.isKeepable] <;> rfl

theorem exists_hold? {members : List Member}
    (whole : ∀ m ∈ members, m.1.isSome = true ∧
      m.2.isKeepable (Tree.greatestDepth - 1) = true) : ∃ entries, hold? members = some entries := by
  induction members with
  | nil => exact ⟨[], rfl⟩
  | cons member rest ih =>
    obtain ⟨⟨named, keepable⟩, others⟩ := List.forall_mem_cons.mp whole
    obtain ⟨key, name⟩ := Option.isSome_iff_exists.mp named
    obtain ⟨entries, held⟩ := ih others
    exact ⟨_, (hold?_cons_eq_some_iff ..).mpr ⟨key, entries, name, keepable, held, rfl⟩⟩

theorem ofTree_object_eq_ok_iff (members : List Member) (view : View) :
    ofTree (.object members) = .ok view ↔ members.Perm view.members := by
  rw [members_eq]
  constructor
  · intro read
    cases held : hold? members with
    | none =>
      rw [ofTree, held] at read
      cases read
    | some entries =>
      obtain ⟨rfl, -⟩ := (hold?_eq_some_iff members entries).mp held
      simp only [ofTree, held, mapError_eq_ok_iff, addAll_finish_eq_ok_iff] at read
      exact read.map _
  · intro reordered
    have whole : ∀ m ∈ members, m.1.isSome = true ∧
        m.2.isKeepable (Tree.greatestDepth - 1) = true := by
      intro m inside
      obtain ⟨entry, listed, rfl⟩ := List.mem_map.mp (reordered.mem_iff.mp inside)
      exact ⟨rfl, (fits_of_mem_entries listed).isKeepable _⟩
    obtain ⟨entries, held⟩ := exists_hold? whole
    obtain ⟨rfl, -⟩ := (hold?_eq_some_iff members entries).mp held
    have injective : Function.Injective fun entry : String × Tree => (some entry.1, entry.2) := by
      rintro ⟨name, value⟩ ⟨other, also⟩ same
      simpa using same
    have same := (List.map_perm_map_iff injective).mp reordered
    simp only [ofTree, held, mapError_eq_ok_iff, addAll_finish_eq_ok_iff]
    exact same

theorem ofTree_eq_ok_iff (tree : Tree) (view : View) :
    ofTree tree = .ok view ↔ ∃ members, tree = .object members ∧ members.Perm view.members := by
  cases tree with
  | object members => simp [ofTree_object_eq_ok_iff]
  | string content => cases content <;> simp [ofTree, notAnObject]
  | number numeral => cases found : numeral.quantity? <;> simp [ofTree, notAnObject, found]
  | null | boolean | array | broken => simp [ofTree, notAnObject]

end Attestation.View
