import Attestation.Command.Arguments
import Mathlib.Data.List.TakeWhile

namespace Attestation

def OptionUse.Yields : OptionUse → Setting → Prop
  | .flag given, setting => given = setting
  | .value read, setting => ∃ text, read text = some setting

namespace OptionForm

structure IsFlag (option : String) (setting : Setting) : Prop where
  nonempty : option.toList ≠ []
  plain : '=' ∉ option.toList
  named : ∀ verb, ∀ form ∈ options verb, form.name = option →
    verb ≠ none ∧ form.letter = none ∧ form.use = .flag setting
  other : ∀ verb, ∀ form ∈ options verb, form.name ≠ option → ¬ form.use.Yields setting

theorem isFlag_pretty : IsFlag "pretty" .pretty := by
  constructor
  · decide
  · decide
  · rintro (_ | _ | _ | _) <;> simp [options, shared]
  · rintro (_ | _ | _ | _) <;> simp [options, shared, OptionUse.Yields, readPath]

theorem isFlag_allowInvalid : IsFlag "allow-invalid" .allowInvalid := by
  constructor
  · decide
  · decide
  · rintro (_ | _ | _ | _) <;> simp [options, shared]
  · rintro (_ | _ | _ | _) <;> simp [options, shared, OptionUse.Yields, readPath]

end OptionForm

namespace Arguments

variable {option : String} {setting : Setting} {a b : Arguments}

def Silent (setting : Setting) (a : Arguments) : Prop :=
  ∀ name read, a.pending = some (name, read) → ∀ text, read text ≠ some setting

/-- What an argument does to a setting: it is there afterwards if it was there before or is `given`
now. -/
structure Tracks (setting : Setting) (given : Prop) (a b : Arguments) : Prop where
  has_iff : b.has setting = true ↔ a.has setting = true ∨ given
  silent : b.Silent setting

theorem Tracks.congr {given other : Prop} (tracks : Tracks setting given a b)
    (same : given ↔ other) : Tracks setting other a b :=
  ⟨by rw [tracks.has_iff, same], tracks.silent⟩

theorem tracks_set {name : String} {setting? : Option Setting}
    (done : a.set name setting? = .ok b) (behind : setting? = some setting → a.verb ≠ none) :
    Tracks setting (setting? = some setting) a b := by
  unfold set at done
  split at done
  · cases done
  · cases done
  · cases done
  · rename_i taken _ _
    split at done
    · rename_i unnamed
      split at done
      · cases done
      · cases done
        refine ⟨?_, fun _ _ pending => nomatch pending⟩
        have absent : ¬ some taken = some setting := fun same => behind same unnamed
        simp only [absent, or_false]
        rfl
    · split at done
      · cases done
      · cases done
        refine ⟨?_, fun _ _ pending => nomatch pending⟩
        simp [has]

theorem tracks_useOption (flag : OptionForm.IsFlag option setting) {form : OptionForm}
    (known : form ∈ a.options) {attached : Option String}
    (done : a.useOption (some form) attached = .ok b) :
    Tracks setting (form.name = option) a b ∧ (form.name = option → attached = none) := by
  by_cases named : form.name = option
  · obtain ⟨behind, -, use_eq⟩ := flag.named a.verb form known named
    simp only [useOption, use_eq] at done
    cases attached with
    | none => exact ⟨(tracks_set done fun _ => behind).congr (by simp [named]), fun _ => rfl⟩
    | some content => cases done
  · have other := flag.other a.verb form known named
    refine ⟨?_, fun same => absurd same named⟩
    cases use_eq : form.use with
    | flag given =>
      have different : given ≠ setting := by simpa [use_eq, OptionUse.Yields] using other
      simp only [useOption, use_eq] at done
      cases attached with
      | none =>
        have tracks := tracks_set done fun same => absurd (Option.some.inj same) different
        exact tracks.congr (by simp [named, different])
      | some content => cases done
    | value read =>
      have silent : ∀ text, read text ≠ some setting := by
        simpa [use_eq, OptionUse.Yields] using other
      simp only [useOption, use_eq] at done
      cases attached with
      | none =>
        cases done
        refine ⟨by simp [has, named], fun name later pending => ?_⟩
        cases pending
        exact silent
      | some content =>
        have tracks := tracks_set done fun same => absurd same (silent content)
        exact tracks.congr (by simp [named, silent])

theorem tracks_useName (flag : OptionForm.IsFlag option setting) {text : List Char}
    (done : a.useName text = .ok b) : Tracks setting (text = option.toList) a b := by
  unfold useName at done
  cases found : a.options.find? fun form => form.name.toList == text.takeWhile (· != '=') with
  | none =>
    simp only [found] at done
    cases done
  | some form =>
    simp only [found] at done
    have spelled : form.name.toList = text.takeWhile (· != '=') := by
      simpa using List.find?_some found
    obtain ⟨tracks, unattached⟩ := tracks_useOption flag (List.mem_of_find?_eq_some found) done
    refine tracks.congr ⟨?_, ?_⟩
    · intro named
      have whole := unattached named
      split at whole
      · rename_i nothing
        have front := List.prefix_iff_eq_take.mp (List.takeWhile_prefix (· != '=') (l := text))
        rw [← List.take_append_drop (text.takeWhile (· != '=')).length text, nothing, ← front,
          ← spelled, named, List.append_nil]
      · cases whole
    · rintro rfl
      have whole : option.toList.takeWhile (· != '=') = option.toList := by
        rw [List.takeWhile_eq_self_iff]
        intro c member
        exact bne_iff_ne.mpr fun same => flag.plain (same ▸ member)
      exact String.toList_inj.mp (spelled.trans whole)

theorem tracks_useLetters (flag : OptionForm.IsFlag option setting) {letter : Char}
    {rest : List Char} (done : a.useLetters letter rest = .ok b) : Tracks setting False a b := by
  unfold useLetters at done
  cases found : a.options.find? fun form => form.letter == some letter with
  | none =>
    simp only [found, Option.map_none] at done
    cases done
  | some form =>
    have known := List.mem_of_find?_eq_some found
    have lettered : form.letter = some letter := by simpa using List.find?_some found
    have unnamed : form.name ≠ option := by
      intro named
      have letterless := (flag.named a.verb form known named).2.1
      cases lettered.symm.trans letterless
    have used : ∃ attached, a.useOption (some form) attached = .ok b := by
      simp only [found] at done
      split at done <;> exact ⟨_, done⟩
    obtain ⟨attached, used⟩ := used
    exact (tracks_useOption flag known used).1.congr (by simp [unnamed])

theorem tracks_useWord (quiet : a.pending = none) {word : String} (done : a.useWord word = .ok b) :
    Tracks setting False a b := by
  have pending : b.has setting = a.has setting ∧ b.pending = none := by
    unfold useWord at done
    split at done
    · cases done
    · split at done
      · cases done
        exact ⟨rfl, quiet⟩
      · split at done
        · cases done
          exact ⟨rfl, quiet⟩
        · cases done
      · cases done
  obtain ⟨kept, pending⟩ := pending
  refine ⟨by simp [kept], ?_⟩
  intro name read waiting
  cases pending.symm.trans waiting

theorem tracks_use (flag : OptionForm.IsFlag option setting) (silent : a.Silent setting)
    {argument : String} (done : a.use argument = .ok b) :
    Tracks setting (argument.toList = '-' :: '-' :: option.toList) a b := by
  unfold use at done
  split at done
  -- A value that was awaited never is the flag, whatever it says.
  · rename_i pending spelled
    have unheard := silent _ _ pending argument
    have tracks := tracks_set done fun same => absurd same unheard
    exact tracks.congr (by simp [unheard, spelled])
  · cases done
  · rename_i pending _ hyphenless
    have unheard := silent _ _ pending argument
    have tracks := tracks_set done fun same => absurd same unheard
    exact tracks.congr (iff_of_false unheard (hyphenless _))
  -- Two hyphens alone name no option, as no option has an empty name.
  · rename_i pending closed spelled
    cases done
    refine ⟨?_, silent⟩
    simp [has, spelled, flag.nonempty]
  · rename_i text pending closed spelled
    exact (tracks_useName flag done).congr (by simp [spelled])
  · rename_i letter rest _ single _ _ spelled
    refine (tracks_useLetters flag done).congr (iff_of_false id fun same => single ?_)
    exact (List.cons.inj (List.cons.inj (spelled.symm.trans same)).2).1
  -- Words are only accepted while options still may come, so none starts with two hyphens.
  · rename_i quiet _ long _
    have opened : a.closed = false := by
      cases closed : a.closed with
      | false => rfl
      | true =>
        simp only [useWord, closed] at done
        cases done
    exact (tracks_useWord quiet done).congr (iff_of_false id (long _ opened))

theorem foldlM_cons_ok {argument : String} {rest : List String}
    (done : (argument :: rest).foldlM next a = .ok b) :
    ∃ middle, a.next argument = .ok middle ∧ rest.foldlM next middle = .ok b := by
  rw [List.foldlM_cons] at done
  cases first : a.next argument with
  | error stop =>
    rw [first] at done
    cases done
  | ok middle =>
    rw [first] at done
    exact ⟨middle, rfl, done⟩

theorem unasked_of_next {argument : String} (done : a.next argument = .ok b)
    (unasked : b.topics = none) : a.topics = none := by
  unfold next at done
  split at done
  · cases done
    cases unasked
  · assumption

theorem unasked_of_foldlM {arguments : List String} (done : arguments.foldlM next a = .ok b)
    (unasked : b.topics = none) : a.topics = none := by
  induction arguments generalizing a with
  | nil =>
    cases done
    exact unasked
  | cons argument rest ih =>
    obtain ⟨middle, first, others⟩ := foldlM_cons_ok done
    exact unasked_of_next first (ih others)

theorem tracks_next (flag : OptionForm.IsFlag option setting) (silent : a.Silent setting)
    (unasked : a.topics = none) {argument : String} (done : a.next argument = .ok b) :
    Tracks setting (argument = "--" ++ option) a b := by
  have spelling : argument.toList = '-' :: '-' :: option.toList ↔ argument = "--" ++ option := by
    rw [← String.toList_inj, String.toList_append]
    rfl
  simp only [next, unasked] at done
  exact (tracks_use flag silent done).congr spelling

/-- As long as nobody asks for help, a flag is set exactly when an argument names it. -/
theorem tracks_foldlM (flag : OptionForm.IsFlag option setting) (silent : a.Silent setting)
    {arguments : List String} (done : arguments.foldlM next a = .ok b) (unasked : b.topics = none) :
    Tracks setting ("--" ++ option ∈ arguments) a b := by
  induction arguments generalizing a with
  | nil =>
    cases done
    exact ⟨by simp, silent⟩
  | cons argument rest ih =>
    obtain ⟨middle, first, others⟩ := foldlM_cons_ok done
    have unaskedBefore := unasked_of_next first (unasked_of_foldlM others unasked)
    have head := tracks_next flag silent unaskedBefore first
    have tail := ih head.silent others
    refine ⟨?_, tail.silent⟩
    rw [tail.has_iff, head.has_iff, List.mem_cons, or_assoc, @eq_comm _ argument]

theorem has_iff_mem (flag : OptionForm.IsFlag option setting) {arguments : List String}
    (done : arguments.foldlM next {} = .ok a) (unasked : a.topics = none) :
    a.has setting = true ↔ "--" ++ option ∈ arguments := by
  have silent : Silent setting {} := fun _ _ pending => nomatch pending
  rw [(tracks_foldlM flag silent done unasked).has_iff]
  simp [has]

end Arguments

namespace Request

variable {arguments : List String} {path : String} {level : Option String} {command : VerifyCommand}

theorem command?_of_ofArguments?
    (parsed : ofArguments? arguments = some (.run ⟨path, level, .verify command⟩)) :
    ∃ a : Arguments, arguments.foldlM Arguments.next {} = .ok a ∧ a.topics = none ∧
      a.command? = some (.verify command) := by
  unfold ofArguments? at parsed
  cases read : arguments.foldlM Arguments.next {} with
  | error stop =>
    rw [read] at parsed
    cases stop <;> cases parsed
  | ok a =>
    have requested : a.request = .ok (.run ⟨path, level, .verify command⟩) := by
      rw [read] at parsed
      simp only [bind, Except.bind] at parsed
      split at parsed <;> cases parsed
      assumption
    unfold Arguments.request at requested
    split at requested
    · cases requested
    · unfold Arguments.help at requested
      split at requested <;> cases requested
    · cases requested
    · rename_i unasked found
      cases requested
      exact ⟨a, rfl, unasked, found⟩

theorem has_of_command? {a : Arguments} (found : a.command? = some (.verify command)) :
    command.pretty = a.has .pretty ∧ command.allowInvalid = a.has .allowInvalid := by
  unfold Arguments.command? at found
  split at found
  · cases found
  · cases found
  · cases found
  · obtain ⟨source, -, built⟩ := Option.bind_eq_some_iff.mp found
    cases built
    exact ⟨rfl, rfl⟩

theorem pretty_iff (parsed : ofArguments? arguments = some (.run ⟨path, level, .verify command⟩)) :
    command.pretty = true ↔ "--pretty" ∈ arguments := by
  obtain ⟨a, done, unasked, found⟩ := command?_of_ofArguments? parsed
  rw [(has_of_command? found).1]
  exact Arguments.has_iff_mem OptionForm.isFlag_pretty done unasked

theorem allowInvalid_iff
    (parsed : ofArguments? arguments = some (.run ⟨path, level, .verify command⟩)) :
    command.allowInvalid = true ↔ "--allow-invalid" ∈ arguments := by
  obtain ⟨a, done, unasked, found⟩ := command?_of_ofArguments? parsed
  rw [(has_of_command? found).2]
  exact Arguments.has_iff_mem OptionForm.isFlag_allowInvalid done unasked

end Request

end Attestation
