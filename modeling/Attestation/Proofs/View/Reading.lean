import Attestation.View.Reading
import Mathlib.Data.List.Nodup

namespace Attestation.View

open Json

namespace Draft

def member? (draft : Draft) (name : String) : Option Tree :=
  if name = validName then draft.valid.map .boolean
  else if name = userIdentifierName then draft.userIdentifier.map fun text => .string (some text)
  else if name = nullifierName then draft.nullifier.map fun text => .string (some text)
  else (Check.ofName? name).bind fun c => (draft.flags c).map .boolean

inductive Fits : String → Tree → Prop where
  | flag (c : Check) (flag : Bool) : Fits c.wireName (.boolean flag)
  | valid (flag : Bool) : Fits validName (.boolean flag)
  | userIdentifier (text : String) : Fits userIdentifierName (.string (some text))
  | nullifier (text : String) : Fits nullifierName (.string (some text))

theorem readFlag_eq_ok_iff (name : String) (value : Tree) (flag : Bool) :
    readFlag name value = .ok flag ↔ value = .boolean flag := by
  cases value <;> simp [readFlag]

theorem readText_eq_ok_iff (name : String) (value : Tree) (text : String) :
    readText name value = .ok text ↔ value = .string (some text) := by
  unfold readText
  split <;> simp_all

theorem once_eq_ok_iff {α : Type} (slot : Option α) (name : String) :
    once slot name = .ok () ↔ slot = none := by
  cases slot <;> simp [once]

theorem fill_eq_ok_iff {α β : Type} (read : Except Problem α) (slot : Option β) (name : String)
    (fill : α → Draft) (next : Draft) :
    (do
      let a ← read
      once slot name
      return fill a) = .ok next ↔ ∃ a, read = .ok a ∧ slot = none ∧ next = fill a := by
  rw [bind_eq_ok_iff]
  refine exists_congr fun a => and_congr_right fun _ => ?_
  rw [bind_eq_ok_iff, ← once_eq_ok_iff slot name]
  constructor
  · rintro ⟨_, free, made⟩
    exact ⟨free, (Except.ok.inj made).symm⟩
  · rintro ⟨free, rfl⟩
    exact ⟨(), free, rfl⟩

theorem wireName_ne (c : Check) : c.wireName ≠ validName ∧ c.wireName ≠ userIdentifierName ∧
    c.wireName ≠ nullifierName := by
  cases c <;> decide

section Member

variable (draft : Draft)

@[simp] theorem member?_wireName (c : Check) :
    draft.member? c.wireName = (draft.flags c).map .boolean := by
  obtain ⟨notValid, notUser, notNullifier⟩ := wireName_ne c
  simp [member?, notValid, notUser, notNullifier, Check.ofName?_wireName]

@[simp] theorem member?_valid : draft.member? validName = draft.valid.map .boolean := rfl

@[simp] theorem member?_userIdentifier :
    draft.member? userIdentifierName = draft.userIdentifier.map fun text => .string (some text) :=
  rfl

@[simp] theorem member?_nullifier :
    draft.member? nullifierName = draft.nullifier.map fun text => .string (some text) := rfl

theorem eq_of_member? {draft other : Draft} (same : ∀ name, draft.member? name = other.member? name) :
    draft = other := by
  obtain ⟨flags, valid, userIdentifier, nullifier⟩ := draft
  obtain ⟨flags', valid', userIdentifier', nullifier'⟩ := other
  have boolean : Function.Injective Tree.boolean := fun _ _ => Tree.boolean.inj
  have string : Function.Injective fun text => Tree.string (some text) :=
    fun _ _ equal => Option.some.inj (Tree.string.inj equal)
  have sameFlags : flags = flags' := by
    funext c
    have equal := same c.wireName
    rw [member?_wireName, member?_wireName] at equal
    exact Option.map_injective boolean equal
  have sameValid := Option.map_injective boolean (same validName)
  have sameUser := Option.map_injective string (same userIdentifierName)
  have sameNullifier := Option.map_injective string (same nullifierName)
  simp only at sameValid sameUser sameNullifier
  rw [sameFlags, sameValid, sameUser, sameNullifier]

end Member

section Add

variable {draft next : Draft} {name : String} {value : Tree}

theorem add_flag {check : Check} (fresh : draft.flags check = none) (flag : Bool) :
    draft.add check.wireName (.boolean flag) =
      .ok { draft with flags := fun c => if c = check then some flag else draft.flags c } := by
  have reserved : (check.wireName == validName) = false ∧
      (check.wireName == userIdentifierName) = false ∧
      (check.wireName == nullifierName) = false := by
    cases check <;> decide
  simp only [add, reserved, Check.ofName?_wireName, readFlag, once, fresh]
  rfl

theorem add_valid (fresh : draft.valid = none) (flag : Bool) :
    draft.add validName (.boolean flag) = .ok { draft with valid := some flag } := by
  simp only [add, readFlag, once, fresh]
  rfl

theorem add_userIdentifier (fresh : draft.userIdentifier = none) (text : String) :
    draft.add userIdentifierName (.string (some text)) =
      .ok { draft with userIdentifier := some text } := by
  have other : (userIdentifierName == validName) = false := by decide
  simp only [add, other, readText, once, fresh]
  rfl

theorem add_nullifier (fresh : draft.nullifier = none) (text : String) :
    draft.add nullifierName (.string (some text)) =
      .ok { draft with nullifier := some text } := by
  have others : (nullifierName == validName) = false ∧
      (nullifierName == userIdentifierName) = false := by
    decide
  simp only [add, others, readText, once, fresh]
  rfl

inductive Taken (draft : Draft) : String → Tree → Draft → Prop where
  | flag {c : Check} (fresh : draft.flags c = none) (flag : Bool) :
    Taken draft c.wireName (.boolean flag)
      { draft with flags := fun d => if d = c then some flag else draft.flags d }
  | valid (fresh : draft.valid = none) (flag : Bool) :
    Taken draft validName (.boolean flag) { draft with valid := some flag }
  | userIdentifier (fresh : draft.userIdentifier = none) (text : String) :
    Taken draft userIdentifierName (.string (some text))
      { draft with userIdentifier := some text }
  | nullifier (fresh : draft.nullifier = none) (text : String) :
    Taken draft nullifierName (.string (some text)) { draft with nullifier := some text }

theorem add_eq_ok_iff : draft.add name value = .ok next ↔ draft.Taken name value next := by
  constructor
  · intro added
    unfold add at added
    split at added
    · rename_i named
      obtain ⟨flag, read, fresh, rfl⟩ := (fill_eq_ok_iff ..).mp added
      rw [eq_of_beq named, (readFlag_eq_ok_iff ..).mp read]
      exact .valid fresh flag
    · split at added
      · rename_i named
        obtain ⟨text, read, fresh, rfl⟩ := (fill_eq_ok_iff ..).mp added
        rw [eq_of_beq named, (readText_eq_ok_iff ..).mp read]
        exact .userIdentifier fresh text
      · split at added
        · rename_i named
          obtain ⟨text, read, fresh, rfl⟩ := (fill_eq_ok_iff ..).mp added
          rw [eq_of_beq named, (readText_eq_ok_iff ..).mp read]
          exact .nullifier fresh text
        · split at added
          · cases added
          · rename_i c found
            obtain ⟨flag, read, fresh, rfl⟩ := (fill_eq_ok_iff ..).mp added
            rw [← Check.wireName_of_ofName? found, (readFlag_eq_ok_iff ..).mp read]
            exact .flag fresh flag
  · intro taken
    cases taken with
    | flag fresh flag => exact add_flag fresh flag
    | valid fresh flag => exact add_valid fresh flag
    | userIdentifier fresh text => exact add_userIdentifier fresh text
    | nullifier fresh text => exact add_nullifier fresh text

theorem Taken.fits (taken : draft.Taken name value next) : Fits name value := by
  cases taken with
  | flag _ flag => exact .flag _ flag
  | valid _ flag => exact .valid flag
  | userIdentifier _ text => exact .userIdentifier text
  | nullifier _ text => exact .nullifier text

theorem Taken.fresh (taken : draft.Taken name value next) : draft.member? name = none := by
  cases taken <;> simp [*]

theorem Taken.member?_eq (taken : draft.Taken name value next) (n : String) :
    next.member? n = if n = name then some value else draft.member? n := by
  cases taken with
  | @flag c _ flag =>
    by_cases same : n = c.wireName
    · subst same
      simp
    · have unchanged : ((Check.ofName? n).bind fun d =>
          (if d = c then some flag else draft.flags d).map Tree.boolean) =
          (Check.ofName? n).bind fun d => (draft.flags d).map .boolean := by
        cases found : Check.ofName? n with
        | none => rfl
        | some d =>
          have other : d ≠ c := by
            rintro rfl
            exact same (Check.wireName_of_ofName? found).symm
          simp [other]
      simp only [member?, if_neg same, unchanged]
  | valid =>
    by_cases same : n = validName
    · subst same
      rfl
    · simp [member?, same]
  | userIdentifier =>
    by_cases same : n = userIdentifierName
    · subst same
      rfl
    · simp [member?, same]
  | nullifier =>
    by_cases same : n = nullifierName
    · subst same
      rfl
    · simp [member?, same]

theorem exists_taken (fits : Fits name value) (fresh : draft.member? name = none) :
    ∃ next, draft.Taken name value next := by
  cases fits with
  | flag c flag => exact ⟨_, .flag (by simpa using fresh) flag⟩
  | valid flag => exact ⟨_, .valid (by simpa using fresh) flag⟩
  | userIdentifier text => exact ⟨_, .userIdentifier (by simpa using fresh) text⟩
  | nullifier text => exact ⟨_, .nullifier (by simpa using fresh) text⟩

end Add

section AddAll

variable {draft next : Draft} {entries : List (String × Tree)}

theorem addAll_cons_eq_ok_iff (name : String) (value : Tree) :
    draft.addAll ((name, value) :: entries) = .ok next ↔
      ∃ first, draft.Taken name value first ∧ first.addAll entries = .ok next := by
  rw [addAll, bind_eq_ok_iff]
  simp only [add_eq_ok_iff]

theorem member?_addAll (added : draft.addAll entries = .ok next) :
    (entries.map (·.1)).Nodup ∧
      (∀ entry ∈ entries, Fits entry.1 entry.2 ∧ draft.member? entry.1 = none) ∧
      ∀ name value, next.member? name = some value ↔
        (name, value) ∈ entries ∨ draft.member? name = some value := by
  -- What a later member finds free was free before, so its name is another one.
  induction entries generalizing draft with
  | nil =>
    cases added
    simp
  | cons entry entries ih =>
    obtain ⟨name, value⟩ := entry
    obtain ⟨first, taken, others⟩ := (addAll_cons_eq_ok_iff name value).mp added
    obtain ⟨distinct, fitting, stands⟩ := ih others
    have fresh := taken.fresh
    have member := taken.member?_eq
    have absent : ∀ entry ∈ entries, entry.1 ≠ name := by
      rintro entry inside rfl
      have free := (fitting entry inside).2
      simp [member] at free
    refine ⟨?_, ?_, ?_⟩
    · refine List.nodup_cons.mpr ⟨?_, distinct⟩
      intro inside
      obtain ⟨entry, also, same⟩ := List.mem_map.mp inside
      exact absent entry also same
    · rintro entry inside
      rcases List.mem_cons.mp inside with rfl | later
      · exact ⟨taken.fits, fresh⟩
      · obtain ⟨fits, free⟩ := fitting entry later
        rw [member, if_neg (absent entry later)] at free
        exact ⟨fits, free⟩
    · intro n v
      rw [stands, member]
      by_cases same : n = name
      · subst same
        have missing : (n, v) ∉ entries := fun inside => absent _ inside rfl
        simp [missing, fresh, eq_comm]
      · simp [same]

theorem exists_addAll (distinct : (entries.map (·.1)).Nodup)
    (fitting : ∀ entry ∈ entries, Fits entry.1 entry.2 ∧ draft.member? entry.1 = none) :
    ∃ next, draft.addAll entries = .ok next := by
  induction entries generalizing draft with
  | nil => exact ⟨draft, rfl⟩
  | cons entry entries ih =>
    obtain ⟨name, value⟩ := entry
    obtain ⟨absent, distinct⟩ := List.nodup_cons.mp distinct
    obtain ⟨⟨fits, fresh⟩, others⟩ := List.forall_mem_cons.mp fitting
    obtain ⟨first, taken⟩ := exists_taken fits fresh
    have stillFitting : ∀ entry ∈ entries, Fits entry.1 entry.2 ∧ first.member? entry.1 = none := by
      intro entry inside
      have other : entry.1 ≠ name := by
        rintro rfl
        exact absent (List.mem_map.mpr ⟨entry, inside, rfl⟩)
      rw [taken.member?_eq, if_neg other]
      exact others entry inside
    obtain ⟨last, rest⟩ := ih distinct stillFitting
    exact ⟨last, (addAll_cons_eq_ok_iff name value).mpr ⟨first, taken, rest⟩⟩

end AddAll

def ofView (view : View) : Draft :=
  ⟨fun c => some (view.flags c), some view.valid, some view.userIdentifier, some view.nullifier⟩

theorem member?_empty (name : String) : empty.member? name = none := by
  have unfilled : ((Check.ofName? name).bind fun c => (empty.flags c).map Tree.boolean) = none := by
    cases Check.ofName? name <;> rfl
  rw [member?, unfilled]
  simp [empty]

theorem finish_ofView (view : View) : (ofView view).finish = .ok view := by
  have complete : (Check.all.filter fun c => (some (view.flags c)).isNone) = [] := rfl
  simp only [finish, ofView, complete, require, Option.getD_some, bind, Except.bind]
  rw [if_neg fun missing => missing rfl, if_pos trivial]
  rfl

theorem require_eq_ok_iff {α : Type} (slot : Option α) (name : String) (a : α) :
    require slot name = .ok a ↔ slot = some a := by
  cases slot <;> simp [require]

/-- A draft is finished as a view only if it is complete and agrees with itself. -/
theorem finish_eq_ok_iff (draft : Draft) (view : View) :
    draft.finish = .ok view ↔ draft = ofView view := by
  constructor
  · intro finished
    simp only [finish] at finished
    split at finished
    · cases finished
    · rename_i complete
      obtain ⟨valid, hasValid, finished⟩ := (bind_eq_ok_iff ..).mp finished
      obtain ⟨userIdentifier, hasUser, finished⟩ := (bind_eq_ok_iff ..).mp finished
      obtain ⟨nullifier, hasNullifier, finished⟩ := (bind_eq_ok_iff ..).mp finished
      split at finished
      · rename_i agrees
        obtain rfl := Except.ok.inj finished
        have filled : ∀ c, draft.flags c = some ((draft.flags c).getD false) := by
          intro c
          have present : ¬ (draft.flags c).isNone = true := by
            simpa [Check.mem_all] using List.filter_eq_nil_iff.mp (not_not.mp complete) c
          cases found : draft.flags c with
          | none => simp [found] at present
          | some flag => rfl
        rw [require_eq_ok_iff] at hasValid hasUser hasNullifier
        obtain ⟨flags, _, _, _⟩ := draft
        subst hasValid hasUser hasNullifier
        simp only [ofView, agrees]
        exact congrArg (Draft.mk · _ _ _) (funext filled)
      · cases finished
  · rintro rfl
    exact finish_ofView view

end Draft

end Attestation.View
