import Attestation.Json.Reading
import Attestation.Proofs.Json.Printing
import Mathlib.Data.List.Nodup

namespace Attestation.Json

namespace Layout

variable {σ : Type} {layout : Layout σ}

def Distinct (layout : Layout σ) : Prop := (layout.fields.map (·.name)).Nodup

instance : Decidable layout.Distinct := inferInstanceAs (Decidable (List.Nodup _))

def membersOf (given : List (LayoutField σ × Tree)) : List Member :=
  given.map fun entry => (some entry.1.name, entry.2)

def readFields (given : List (LayoutField σ × Tree)) (state : σ) : Read σ :=
  given.foldlM (fun state entry => entry.1.read entry.2 state) state

theorem find?_name (distinct : layout.Distinct) {field : LayoutField σ}
    (member : field ∈ layout.fields) :
    layout.fields.find? (fun other => other.name == field.name) = some field := by
  unfold Distinct at distinct
  generalize layout.fields = fields at distinct member
  induction fields with
  | nil => cases member
  | cons first rest ih =>
    rw [List.map_cons] at distinct
    obtain ⟨apart, others⟩ := List.nodup_cons.mp distinct
    obtain rfl | later := List.mem_cons.mp member
    · simp
    · have different : first.name ≠ field.name :=
        fun same => apart (same ▸ List.mem_map_of_mem later)
      rw [List.find?_cons, beq_false_of_ne different]
      exact ih others later

theorem readMembers_membersOf (distinct : layout.Distinct)
    {given : List (LayoutField σ × Tree)} (known : ∀ entry ∈ given, entry.1 ∈ layout.fields)
    (once : (given.map (·.1.name)).Nodup) {seen : List String}
    (unseen : ∀ entry ∈ given, entry.1.name ∉ seen) (state : σ) :
    layout.readMembers (membersOf given) seen state =
      (readFields given state).map fun last => ((given.map (·.1.name)).reverse ++ seen, last) := by
  induction given generalizing seen state with
  | nil => rfl
  | cons entry rest ih =>
    obtain ⟨field, value⟩ := entry
    obtain ⟨fieldKnown, restKnown⟩ := List.forall_mem_cons.mp known
    obtain ⟨fieldUnseen, restUnseen⟩ := List.forall_mem_cons.mp unseen
    obtain ⟨apart, restOnce⟩ := List.nodup_cons.mp (List.map_cons ▸ once)
    have still : ∀ later ∈ rest, later.1.name ∉ field.name :: seen := by
      intro later member
      rw [List.mem_cons, not_or]
      exact ⟨fun same => apart (same ▸ List.mem_map_of_mem member), restUnseen later member⟩
    have fresh : seen.contains field.name = false := by simpa using fieldUnseen
    simp only [membersOf, List.map_cons, readMembers, find?_name distinct fieldKnown, fresh,
      readFields, List.foldlM_cons]
    cases read : field.read value state with
    | error fault => rfl
    | ok next =>
      have later := ih restKnown restOnce still next
      rw [membersOf, readFields] at later
      simpa [bind, Except.bind, read] using later

/-- An object whose members name fields of the layout is read field by field, if none is missing. -/
theorem read_membersOf (distinct : layout.Distinct) {given : List (LayoutField σ × Tree)}
    (known : ∀ entry ∈ given, entry.1 ∈ layout.fields) (once : (given.map (·.1.name)).Nodup)
    (enough : layout.isPartial = false →
      ∀ field ∈ layout.fields, field.name ∈ given.map (·.1.name)) :
    layout.read (.object (membersOf given)) = readFields given layout.start := by
  have complete : layout.isPartial = false →
      layout.firstMissing? ((given.map (·.1.name)).reverse ++ []) = none := by
    intro whole
    rw [firstMissing?, List.find?_eq_none, List.forall_mem_map]
    intro field member
    simpa using enough whole field member
  rw [read, readMembers_membersOf distinct known once (by simp)]
  cases readFields given layout.start with
  | error fault => rfl
  | ok last =>
    simp only [Except.map, bind, Except.bind]
    split
    · rename_i whole absent
      rw [complete whole] at absent
      cases absent
    · rfl

theorem read_written (distinct : layout.Distinct) (documents : List Document)
    (whole : documents.length = layout.fields.length) :
    layout.read (Document.object ((layout.fields.map (·.name)).zip documents)).toTree =
      readFields (layout.fields.zip (documents.map Document.toTree)) layout.start := by
  have long : layout.fields.length ≤ (documents.map Document.toTree).length := by
    rw [List.length_map, whole]
  have fields : (layout.fields.zip (documents.map Document.toTree)).map (·.1) = layout.fields :=
    List.map_fst_zip long
  have names : (layout.fields.zip (documents.map Document.toTree)).map (·.1.name) =
      layout.fields.map (·.name) := by
    rw [← congrArg (List.map LayoutField.name) fields, List.map_map]
    rfl
  have known : ∀ entry ∈ layout.fields.zip (documents.map Document.toTree),
      entry.1 ∈ layout.fields :=
    fun entry member => fields ▸ List.mem_map_of_mem member
  have enough : ∀ field ∈ layout.fields,
      field.name ∈ (layout.fields.zip (documents.map Document.toTree)).map (·.1.name) :=
    fun field member => names ▸ List.mem_map_of_mem member
  rw [← read_membersOf distinct known (names ▸ distinct) fun _ => enough, Document.toTree,
    Document.toMembers_eq, membersOf, List.zip_map_left, List.zip_map_right, List.map_map,
    List.map_map]
  rfl

def Owns {α : Type} (layout : Layout σ) (field : LayoutField σ) (part : σ → α) : Prop :=
  ∀ other ∈ layout.fields, other.name ≠ field.name →
    ∀ value state next, other.read value state = .ok next → part next = part state

section

variable {α : Type} {field : LayoutField σ} {part : σ → α} (owns : layout.Owns field part)

include owns

theorem readMembers_keeps {members : List Member} {seen : List String} {state : σ}
    {last : List String × σ} (named : field.name ∈ seen)
    (read : layout.readMembers members seen state = .ok last) : part last.2 = part state := by
  induction members generalizing seen state with
  | nil =>
    cases read
    rfl
  | cons member rest ih =>
    obtain ⟨name, value⟩ := member
    cases name with
    | none => cases read
    | some name =>
      rw [readMembers] at read
      cases look : layout.fields.find? (fun other => other.name == name) with
      | none =>
        simp only [look] at read
        split at read
        · exact ih named read
        · cases read
      | some other =>
        simp only [look] at read
        have same : other.name = name := by simpa using List.find?_some look
        split at read
        · cases read
        · -- The field itself cannot come again: its name was seen.
          rename_i unseen
          have apart : other.name ≠ field.name := by
            rintro again
            rw [← same, again] at unseen
            exact unseen (List.contains_iff_mem.mpr named)
          obtain ⟨next, entered, read⟩ := (bind_eq_ok_iff _ _ _).mp read
          have kept := owns other (List.mem_of_find?_eq_some look) apart value state next entered
          exact (ih (List.mem_cons_of_mem _ named) read).trans kept

theorem readMembers_reads (distinct : layout.Distinct) (known : field ∈ layout.fields)
    {members : List Member} {seen : List String} {state : σ} {last : List String × σ}
    (read : layout.readMembers members seen state = .ok last) {value : Tree}
    (member : (some field.name, value) ∈ members) :
    ∃ before after, field.read value before = .ok after ∧ part last.2 = part after := by
  induction members generalizing seen state with
  | nil => cases member
  | cons first rest ih =>
    obtain ⟨name, content⟩ := first
    cases name with
    | none => cases read
    | some name =>
      rw [readMembers] at read
      obtain here | later := List.mem_cons.mp member
      · cases here
        simp only [find?_name distinct known] at read
        split at read
        · cases read
        · obtain ⟨next, entered, read⟩ := (bind_eq_ok_iff _ _ _).mp read
          exact ⟨state, next, entered, readMembers_keeps owns (List.mem_cons_self ..) read⟩
      · split at read
        · split at read
          · exact ih read later
          · cases read
        · split at read
          · cases read
          · obtain ⟨next, -, read⟩ := (bind_eq_ok_iff _ _ _).mp read
            exact ih read later

theorem read_object_reads (distinct : layout.Distinct) (known : field ∈ layout.fields)
    {members : List Member} {last : σ} (read : layout.read (.object members) = .ok last)
    {value : Tree} (member : (some field.name, value) ∈ members) :
    ∃ before after, field.read value before = .ok after ∧ part last = part after := by
  rw [Layout.read, bind_eq_ok_iff] at read
  obtain ⟨⟨seen, state⟩, found, read⟩ := read
  have same : state = last := by
    dsimp only at read
    split at read <;> cases read
    rfl
  exact same ▸ readMembers_reads owns distinct known found member

omit owns in
theorem readItems_keeps {isPartial : Bool} {fields : List (LayoutField σ)}
    (keep : ∀ other ∈ fields, ∀ value state next, other.read value state = .ok next →
      part next = part state)
    {items : List Tree} {state last : σ}
    (read : readItems isPartial fields items state = .ok last) : part last = part state := by
  induction fields generalizing items state with
  | nil =>
    cases items with
    | nil =>
      cases read
      rfl
    | cons item rest => cases read
  | cons first fields ih =>
    cases items with
    | nil =>
      rw [readItems] at read
      split at read <;> cases read
      rfl
    | cons item items =>
      obtain ⟨next, entered, read⟩ := (bind_eq_ok_iff _ _ _).mp read
      obtain ⟨kept, others⟩ := List.forall_mem_cons.mp keep
      exact (ih others read).trans (kept item state next entered)

theorem read_array_reads (distinct : layout.Distinct) {rest : List (LayoutField σ)}
    (first : layout.fields = field :: rest) {value : Tree} {items : List Tree} {last : σ}
    (read : layout.read (.array (value :: items)) = .ok last) :
    ∃ before after, field.read value before = .ok after ∧ part last = part after := by
  rw [Distinct, first, List.map_cons] at distinct
  obtain ⟨apart, -⟩ := List.nodup_cons.mp distinct
  have keep : ∀ other ∈ rest, ∀ value state next, other.read value state = .ok next →
      part next = part state := by
    intro other member
    have inside : other ∈ layout.fields := first ▸ List.mem_cons_of_mem field member
    exact owns other inside fun same => apart (same ▸ List.mem_map_of_mem member)
  rw [Layout.read, first] at read
  obtain ⟨next, entered, read⟩ := (bind_eq_ok_iff _ _ _).mp read
  exact ⟨layout.start, next, entered, readItems_keeps keep read⟩

end

end Layout

end Attestation.Json
