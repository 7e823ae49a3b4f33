import Attestation.Check
import Attestation.Keyed
import Mathlib.Data.List.Induction
import Mathlib.Data.List.Perm.Basic

namespace Attestation

namespace Keyed

section Last

variable {κ ν : Type} [DecidableEq κ]

def last? (entries : List (κ × ν)) (key : κ) : Option ν :=
  (entries.reverse.find? fun entry => entry.1 = key).map (·.2)

theorem last?_concat (entries : List (κ × ν)) (entry : κ × ν) (key : κ) :
    last? (entries ++ [entry]) key = if entry.1 = key then some entry.2 else last? entries key := by
  rw [last?, List.reverse_concat, List.find?_cons, last?]
  by_cases same : entry.1 = key <;> simp [same]

theorem last?_of_last {before after : List (κ × ν)} {key : κ} {value : ν}
    (last : ∀ entry ∈ after, entry.1 ≠ key) :
    last? (before ++ (key, value) :: after) key = some value := by
  have skipped : (after.reverse.find? fun entry => entry.1 = key) = none := by simpa using last
  simp [last?, List.find?_append, skipped]

theorem mem_keys_iff_last? (entries : List (κ × ν)) (key : κ) :
    key ∈ entries.map Prod.fst ↔ ∃ value, last? entries key = some value := by
  induction entries using List.reverseRecOn with
  | nil => simp [last?]
  | append_singleton entries entry ih =>
    rw [List.map_append, List.mem_append, ih, last?_concat]
    by_cases same : entry.1 = key
    · simp [same]
    · simp [same, Ne.symm same]

end Last

variable {κ ν : Type} [Ord κ]

theorem ext {left right : Keyed κ ν} (same : left.entries = right.entries) : left = right := by
  cases left
  cases right
  cases same
  rfl

variable [Std.TransOrd κ]

theorem ne_of_compare_lt {a b : κ} (less : compare a b = .lt) : a ≠ b := by
  rintro rfl
  have same : compare a a = .eq := Std.ReflCmp.compare_self
  rw [same] at less
  cases less

theorem eq_of_ascending {entries : List (κ × ν)}
    (ascending : entries.Pairwise fun a b => compare a.1 b.1 = .lt) {a b : κ × ν}
    (left : a ∈ entries) (right : b ∈ entries) (same : a.1 = b.1) : a = b := by
  induction entries with
  | nil => cases left
  | cons head rest ih =>
    obtain ⟨below, tail⟩ := List.pairwise_cons.mp ascending
    have apart : ∀ entry ∈ rest, head.1 ≠ entry.1 :=
      fun entry member => ne_of_compare_lt (below entry member)
    rcases List.mem_cons.mp left with rfl | inLeft <;>
      rcases List.mem_cons.mp right with rfl | inRight
    · rfl
    · exact absurd same (apart b inRight)
    · exact absurd same.symm (apart a inLeft)
    · exact ih tail inLeft inRight

theorem nodup_of_ascending {entries : List (κ × ν)}
    (ascending : entries.Pairwise fun a b => compare a.1 b.1 = .lt) : entries.Nodup := by
  apply ascending.imp
  intro a b less same
  exact ne_of_compare_lt less (congrArg Prod.fst same)

theorem eq_of_mem_iff {left right : List (κ × ν)}
    (ascending : left.Pairwise fun a b => compare a.1 b.1 = .lt)
    (rising : right.Pairwise fun a b => compare a.1 b.1 = .lt)
    (same : ∀ entry, entry ∈ left ↔ entry ∈ right) : left = right := by
  have perm : left.Perm right :=
    (List.perm_ext_iff_of_nodup (nodup_of_ascending ascending) (nodup_of_ascending rising)).mpr same
  apply perm.eq_of_pairwise _ ascending rising
  intro a b _ _ less greater
  exact absurd rfl (ne_of_compare_lt (Std.TransCmp.lt_trans less greater))

theorem insertEntry_of_above {key : κ} {value : ν} {entries : List (κ × ν)}
    (above : ∀ entry ∈ entries, compare entry.1 key = .lt) :
    insertEntry key value entries = entries ++ [(key, value)] := by
  induction entries with
  | nil => rfl
  | cons head rest ih =>
    obtain ⟨less, others⟩ := List.forall_mem_cons.mp above
    have order : compare key head.1 = .gt := Std.OrientedCmp.gt_of_lt less
    rw [insertEntry, order, ih others, List.cons_append]

variable [Std.LawfulEqOrd κ]

theorem get?_eq_some_iff (table : Keyed κ ν) (key : κ) (value : ν) :
    table.get? key = some value ↔ (key, value) ∈ table.entries := by
  simp only [get?, Option.map_eq_some_iff]
  constructor
  · rintro ⟨⟨k, v⟩, found, rfl⟩
    have same : k = key := by simpa using List.find?_some found
    exact same ▸ List.mem_of_find?_eq_some found
  · intro member
    cases found : table.entries.find? fun entry => compare entry.1 key == .eq with
    | none =>
      have absent := List.find?_eq_none.mp found _ member
      simp at absent
    | some entry =>
      have same : entry.1 = key := by simpa using List.find?_some found
      have equal := eq_of_ascending table.ascending (List.mem_of_find?_eq_some found) member same
      exact ⟨entry, rfl, by rw [equal]⟩

theorem mem_insertEntry_iff {key : κ} {value : ν} {entries : List (κ × ν)}
    (ascending : entries.Pairwise fun a b => compare a.1 b.1 = .lt) (entry : κ × ν) :
    entry ∈ insertEntry key value entries ↔
      entry = (key, value) ∨ entry.1 ≠ key ∧ entry ∈ entries := by
  induction entries with
  | nil => simp [insertEntry]
  | cons head rest ih =>
    obtain ⟨below, tail⟩ := List.pairwise_cons.mp ascending
    cases order : compare key head.1 with
    | lt =>
      have apart : ∀ other ∈ head :: rest, other.1 ≠ key := by
        intro other member
        obtain rfl | later := List.mem_cons.mp member
        · exact (ne_of_compare_lt order).symm
        · exact (ne_of_compare_lt (Std.TransCmp.lt_trans order (below other later))).symm
      simp only [insertEntry, order, List.mem_cons (a := entry) (b := (key, value))]
      exact or_congr_right ⟨fun member => ⟨apart entry member, member⟩, And.right⟩
    | eq =>
      obtain rfl : key = head.1 := Std.LawfulEqCmp.eq_of_compare order
      have apart : ∀ other ∈ rest, other.1 ≠ head.1 :=
        fun other member => (ne_of_compare_lt (below other member)).symm
      simp only [insertEntry, order, List.mem_cons]
      grind
    | gt =>
      have apart : head.1 ≠ key := ne_of_compare_lt (Std.OrientedCmp.lt_of_gt order)
      simp only [insertEntry, order, List.mem_cons, ih tail]
      grind

theorem get?_insert_self (table : Keyed κ ν) (key : κ) (value : ν) :
    (table.insert key value).get? key = some value :=
  (get?_eq_some_iff _ key value).mpr ((mem_insertEntry_iff table.ascending _).mpr (.inl rfl))

theorem get?_insert_of_ne (table : Keyed κ ν) {key other : κ} (value : ν) (apart : other ≠ key) :
    (table.insert key value).get? other = table.get? other := by
  refine Option.ext fun found => ?_
  rw [get?_eq_some_iff, get?_eq_some_iff, insert, mem_insertEntry_iff table.ascending]
  simp [apart]

theorem entries_foldl_insert (before : Keyed κ ν) (entries : List (κ × ν))
    (ascending : (before.entries ++ entries).Pairwise fun a b => compare a.1 b.1 = .lt) :
    (entries.foldl (fun table entry => table.insert entry.1 entry.2) before).entries =
      before.entries ++ entries := by
  induction entries generalizing before with
  | nil => simp
  | cons entry rest ih =>
    have above : ∀ earlier ∈ before.entries, compare earlier.1 entry.1 = .lt :=
      fun earlier member => (List.pairwise_append.mp ascending).2.2 earlier member entry
        (List.mem_cons_self ..)
    have inserted : (before.insert entry.1 entry.2).entries = before.entries ++ [entry] :=
      insertEntry_of_above above
    rw [List.foldl_cons, ih, inserted, List.append_assoc, List.singleton_append]
    rwa [inserted, List.append_assoc, List.singleton_append]

theorem ofList_entries (table : Keyed κ ν) : ofList table.entries = table :=
  ext (entries_foldl_insert empty table.entries table.ascending)

theorem ext_get? {left right : Keyed κ ν} (same : ∀ key, left.get? key = right.get? key) :
    left = right := by
  apply ext
  apply eq_of_mem_iff left.ascending right.ascending
  intro entry
  rw [← get?_eq_some_iff, ← get?_eq_some_iff, same]

theorem ofList_concat (entries : List (κ × ν)) (entry : κ × ν) :
    ofList (entries ++ [entry]) = (ofList entries).insert entry.1 entry.2 := by
  simp [ofList]

variable [DecidableEq κ]

theorem get?_ofList (entries : List (κ × ν)) (key : κ) :
    (ofList entries).get? key = last? entries key := by
  induction entries using List.reverseRecOn with
  | nil => rfl
  | append_singleton entries entry ih =>
    rw [ofList_concat, last?_concat]
    by_cases same : entry.1 = key
    · subst same
      rw [get?_insert_self, if_pos rfl]
    · rw [get?_insert_of_ne _ _ (Ne.symm same), if_neg same, ih]

theorem get?_ofList_of_last {before after : List (κ × ν)} {key : κ} {value : ν}
    (last : ∀ entry ∈ after, entry.1 ≠ key) :
    (ofList (before ++ (key, value) :: after)).get? key = some value := by
  rw [get?_ofList, last?_of_last last]

theorem mem_ofList_iff (entries : List (κ × ν)) (key : κ) (value : ν) :
    (key, value) ∈ (ofList entries).entries ↔ last? entries key = some value := by
  rw [← get?_eq_some_iff, get?_ofList]

/-- Only the last entry under each key makes a difference to a table. -/
theorem ofList_eq_iff (entries others : List (κ × ν)) :
    ofList entries = ofList others ↔ ∀ key, last? entries key = last? others key := by
  constructor
  · intro same key
    rw [← get?_ofList, same, get?_ofList]
  · intro same
    apply ext_get?
    intro key
    rw [get?_ofList, get?_ofList, same]

theorem mem_keys_ofList_iff (entries : List (κ × ν)) (key : κ) :
    key ∈ (ofList entries).keys ↔ key ∈ entries.map Prod.fst := by
  rw [mem_keys_iff_last?]
  constructor
  · intro listed
    obtain ⟨entry, member, rfl⟩ := List.mem_map.mp listed
    exact ⟨entry.2, (mem_ofList_iff entries _ _).mp member⟩
  · intro found
    obtain ⟨value, last⟩ := found
    exact List.mem_map.mpr ⟨(key, value), (mem_ofList_iff entries _ _).mpr last, rfl⟩

theorem count_keys_ofList (entries : List (κ × ν)) (key : κ) :
    (ofList entries).keys.count key = if key ∈ entries.map Prod.fst then 1 else 0 := by
  have distinct : (ofList entries).keys.Nodup :=
    List.pairwise_map.mpr ((ofList entries).ascending.imp ne_of_compare_lt)
  rw [distinct.count]
  simp only [mem_keys_ofList_iff]

end Keyed

namespace Check

theorem pairwise_all : all.Pairwise fun a b => compare a b = .lt := by decide

theorem filterMap_all_eq {ν : Type} {entries : List (Check × ν)} {look : Check → Option ν}
    (ascending : entries.Pairwise fun a b => compare a.1 b.1 = .lt)
    (found : ∀ c value, look c = some value ↔ (c, value) ∈ entries) :
    (all.filterMap fun c => (look c).map (Prod.mk c)) = entries := by
  have walk : (all.filterMap fun c => (look c).map (Prod.mk c)).Pairwise
      fun a b => compare a.1 b.1 = .lt := by
    refine List.pairwise_filterMap.mpr (pairwise_all.imp ?_)
    intro a b less x left y right
    obtain ⟨v, -, rfl⟩ := Option.map_eq_some_iff.mp left
    obtain ⟨w, -, rfl⟩ := Option.map_eq_some_iff.mp right
    exact less
  apply Keyed.eq_of_mem_iff walk ascending
  rintro ⟨c, value⟩
  rw [← found]
  simp only [List.mem_filterMap, mem_all, true_and, Option.map_eq_some_iff, Prod.mk.injEq]
  constructor
  · rintro ⟨_, _, value', rfl, rfl⟩
    exact value'
  · intro equal
    exact ⟨c, value, equal, rfl, rfl⟩

theorem lookup_eq_some_iff {ν : Type} {entries : List (Check × ν)}
    (ascending : entries.Pairwise fun a b => compare a.1 b.1 = .lt) (c : Check) (value : ν) :
    entries.lookup c = some value ↔ (c, value) ∈ entries := by
  induction entries with
  | nil => simp
  | cons head rest ih =>
    obtain ⟨below, tail⟩ := List.pairwise_cons.mp ascending
    obtain ⟨k, first⟩ := head
    by_cases same : c = k
    · subst same
      have absent : (c, value) ∉ rest := fun member => Keyed.ne_of_compare_lt (below _ member) rfl
      simp [absent, eq_comm]
    · have unlike : (c == k) = false := by simpa using same
      rw [List.lookup_cons, unlike, ih tail]
      simp [same]

end Check

end Attestation
