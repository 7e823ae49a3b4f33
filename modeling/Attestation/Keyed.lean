namespace Attestation

/-- Entries under strictly ascending keys, so that each key has at most one value and two tables
with the same values are equal. -/
structure Keyed (κ ν : Type) [Ord κ] where
  entries : List (κ × ν)
  ascending : entries.Pairwise fun a b => compare a.1 b.1 = .lt

namespace Keyed

variable {κ ν : Type} [Ord κ]

def empty : Keyed κ ν := ⟨[], .nil⟩

instance : Inhabited (Keyed κ ν) := ⟨empty⟩
instance : EmptyCollection (Keyed κ ν) := ⟨empty⟩

instance [DecidableEq κ] [DecidableEq ν] : DecidableEq (Keyed κ ν) := fun a b =>
  decidable_of_iff (a.entries = b.entries) ⟨fun h => by cases a; cases b; cases h; rfl, fun h => h ▸ rfl⟩

def get? (table : Keyed κ ν) (key : κ) : Option ν :=
  (table.entries.find? fun entry => compare entry.1 key == .eq).map (·.2)

def keys (table : Keyed κ ν) : List κ := table.entries.map (·.1)

def insertEntry (key : κ) (value : ν) : List (κ × ν) → List (κ × ν)
  | [] => [(key, value)]
  | (k, v) :: rest =>
    match compare key k with
    | .lt => (key, value) :: (k, v) :: rest
    | .eq => (key, value) :: rest
    | .gt => (k, v) :: insertEntry key value rest

theorem mem_insertEntry {key : κ} {value : ν} {entry : κ × ν} {entries : List (κ × ν)}
    (member : entry ∈ insertEntry key value entries) : entry = (key, value) ∨ entry ∈ entries := by
  induction entries with
  | nil => simpa [insertEntry] using member
  | cons head rest ih =>
    rw [insertEntry] at member
    split at member <;> grind

theorem insertEntry_ascending [Std.TransOrd κ] [Std.LawfulEqOrd κ] (key : κ) (value : ν)
    {entries : List (κ × ν)}
    (ascending : entries.Pairwise fun a b => compare a.1 b.1 = .lt) :
    (insertEntry key value entries).Pairwise fun a b => compare a.1 b.1 = .lt := by
  induction entries with
  | nil => simp [insertEntry]
  | cons head rest ih =>
    obtain ⟨below, tail⟩ := List.pairwise_cons.mp ascending
    rw [insertEntry]
    split
    · rename_i less
      refine List.pairwise_cons.mpr ⟨fun entry member => ?_, ascending⟩
      rcases List.mem_cons.mp member with rfl | member
      · exact less
      · exact Std.TransCmp.lt_trans less (below entry member)
    · rename_i same
      rw [Std.LawfulEqCmp.eq_of_compare same]
      exact List.pairwise_cons.mpr ⟨below, tail⟩
    · rename_i greater
      refine List.pairwise_cons.mpr ⟨fun entry member => ?_, ih tail⟩
      rcases mem_insertEntry member with rfl | member
      · exact Std.OrientedCmp.lt_of_gt greater
      · exact below entry member

variable [Std.TransOrd κ] [Std.LawfulEqOrd κ]

def insert (table : Keyed κ ν) (key : κ) (value : ν) : Keyed κ ν :=
  ⟨insertEntry key value table.entries, insertEntry_ascending key value table.ascending⟩

/-- The table of a list of entries; of several under one key the last counts. -/
def ofList (entries : List (κ × ν)) : Keyed κ ν :=
  entries.foldl (fun table entry => table.insert entry.1 entry.2) empty

end Keyed

end Attestation
