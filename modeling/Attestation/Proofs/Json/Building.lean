import Attestation.Proofs.Json.Lexing

namespace Attestation.Json

namespace Tree

theorem itemWords_eq (items : List Tree) :
    itemWords items = items.flatMap (fun item => .comma :: item.words) ++ [.closeArray] := by
  induction items with
  | nil => rw [itemWords]; rfl
  | cons item rest ih => rw [itemWords, ih, List.flatMap_cons, List.append_assoc]

theorem memberWords_eq (members : List Member) :
    memberWords members =
      members.flatMap (fun m => .comma :: .string m.1 :: .colon :: m.2.words) ++
        [.closeObject] := by
  induction members with
  | nil => rw [memberWords]; rfl
  | cons member rest ih =>
    rw [memberWords, ih, List.flatMap_cons, List.append_assoc]

namespace Builder

inductive Items : List Token → List Tree → Prop where
  | first (item : Tree) : Items (.openArray :: item.words) [item]
  | next {words : List Token} {before : List Tree} (items : Items words before) (item : Tree) :
    Items (words ++ .comma :: item.words) (item :: before)

inductive Members : List Token → List Member → Prop where
  | first (name : Option String) (value : Tree) :
    Members (.openObject :: .string name :: .colon :: value.words) [(name, value)]
  | next {words : List Token} {before : List Member} (members : Members words before)
    (name : Option String) (value : Tree) :
    Members (words ++ .comma :: .string name :: .colon :: value.words) ((name, value) :: before)

inductive Opened : List Token → Frame → Prop where
  | firstItem : Opened [.openArray] (.item [])
  | nextItem {words : List Token} {before : List Tree} (items : Items words before) :
    Opened (words ++ [.comma]) (.item before)
  | firstMember (name : Option String) :
    Opened [.openObject, .string name, .colon] (.member [] name)
  | nextMember {words : List Token} {before : List Member} (members : Members words before)
    (name : Option String) : Opened (words ++ [.comma, .string name, .colon]) (.member before name)

inductive Context : List Token → List Frame → Prop where
  | root : Context [] []
  | inside {outer words : List Token} {frame : Frame} {frames : List Frame}
    (context : Context outer frames) (opened : Opened words frame) :
    Context (outer ++ words) (frame :: frames)

/-- The words that bring a builder to where it is. Once it has given up, any words may follow. -/
inductive Built : List Token → Builder → Prop where
  | awaitsValue {words : List Token} {frames : List Frame} (context : Context words frames) :
    Built words (.awaitsValue frames)
  | opensArray {words : List Token} {frames : List Frame} (context : Context words frames) :
    Built (words ++ [.openArray]) (.opensArray frames)
  | opensObject {words : List Token} {frames : List Frame} (context : Context words frames) :
    Built (words ++ [.openObject]) (.opensObject frames)
  | awaitsName {words inner : List Token} {before : List Member} {frames : List Frame}
    (context : Context words frames) (members : Members inner before) :
    Built (words ++ inner ++ [.comma]) (.awaitsName before frames)
  | awaitsColon {words inner : List Token} {before : List Member} {name : Option String}
    {frames : List Frame} (context : Context words frames)
    (opened : Opened (inner ++ [.colon]) (.member before name)) :
    Built (words ++ inner) (.awaitsColon before name frames)
  | endsItem {words inner : List Token} {items : List Tree} {frames : List Frame}
    (context : Context words frames) (read : Items inner items) :
    Built (words ++ inner) (.endsItem items frames)
  | endsMember {words inner : List Token} {members : List Member} {frames : List Frame}
    (context : Context words frames) (read : Members inner members) :
    Built (words ++ inner) (.endsMember members frames)
  | complete (tree : Tree) : Built tree.words (.done tree true)
  | abandoned {words : List Token} {tree : Tree} : Built words (.done tree false)

theorem Items.words_eq {words : List Token} {items : List Tree} (read : Items words items) :
    words ++ [.closeArray] = (Tree.array items.reverse).words := by
  obtain ⟨item, rest, ordered, spelled⟩ : ∃ item rest, items.reverse = item :: rest ∧
      words = .openArray :: item.words ++ rest.flatMap fun item => .comma :: item.words := by
    induction read with
    | first item => exact ⟨item, [], rfl, by simp⟩
    | @next words before read last ih =>
      obtain ⟨item, rest, ordered, rfl⟩ := ih
      exact ⟨item, rest ++ [last], by simp [ordered], by simp⟩
  rw [ordered, Tree.words, itemWords_eq, spelled, List.append_assoc]

theorem Members.words_eq {words : List Token} {members : List Member}
    (read : Members words members) :
    words ++ [.closeObject] = (Tree.object members.reverse).words := by
  obtain ⟨name, value, rest, ordered, spelled⟩ : ∃ name value rest,
      members.reverse = (name, value) :: rest ∧
      words = .openObject :: .string name :: .colon :: value.words ++
        rest.flatMap fun m => .comma :: .string m.1 :: .colon :: m.2.words := by
    induction read with
    | first name value => exact ⟨name, value, [], rfl, by simp⟩
    | @next words before read name' value' ih =>
      obtain ⟨name, value, rest, ordered, rfl⟩ := ih
      exact ⟨name, value, rest ++ [(name', value')], by simp [ordered], by simp⟩
  rw [ordered, Tree.words, memberWords_eq, spelled]
  simp

variable {words : List Token} {frames : List Frame}

theorem Context.complete (context : Context words frames) (tree : Tree) :
    Built (words ++ tree.words) (complete tree frames) := by
  cases context with
  | root => exact .complete tree
  | inside context opened =>
    rw [List.append_assoc]
    cases opened with
    | firstItem => exact .endsItem context (.first tree)
    | nextItem items =>
      rw [List.append_assoc]
      exact .endsItem context (.next items tree)
    | firstMember name => exact .endsMember context (.first name tree)
    | nextMember members name =>
      rw [List.append_assoc]
      exact .endsMember context (.next members name tree)

theorem Context.beginValue (context : Context words frames) (token : Token) :
    Built (words ++ [token]) (beginValue token frames) := by
  cases token with
  | null => exact context.complete .null
  | boolean flag => exact context.complete (.boolean flag)
  | number numeral => exact context.complete (.number numeral)
  | string content => exact context.complete (.string content)
  | openArray => exact .opensArray context
  | openObject => exact .opensObject context
  | _ => exact .abandoned

theorem Built.step {b : Builder} (built : Built words b) (token : Token) :
    Built (words ++ [token]) (b.step token) := by
  cases built with
  | awaitsValue context => exact context.beginValue token
  | opensArray context =>
    have opened := (context.inside .firstItem).beginValue token
    cases token with
    | closeArray =>
      have whole := context.complete (.array [])
      rw [Tree.words] at whole
      rwa [List.append_assoc]
    | _ => exact opened
  | opensObject context =>
    rw [List.append_assoc]
    cases token with
    | closeObject =>
      have whole := context.complete (.object [])
      rwa [Tree.words] at whole
    | string name => exact .awaitsColon context (.firstMember name)
    | _ => exact .abandoned
  | awaitsName context members =>
    rw [List.append_assoc, List.append_assoc]
    cases token with
    | string name =>
      refine .awaitsColon context ?_
      simpa using Opened.nextMember members name
    | _ => exact .abandoned
  | awaitsColon context opened =>
    rw [List.append_assoc]
    cases token with
    | colon => exact .awaitsValue (context.inside opened)
    | _ => exact .abandoned
  | endsItem context read =>
    rw [List.append_assoc]
    cases token with
    | comma => exact .awaitsValue (context.inside (.nextItem read))
    | closeArray =>
      rw [read.words_eq]
      exact context.complete _
    | _ => exact .abandoned
  | endsMember context read =>
    cases token with
    | comma => exact .awaitsName context read
    | closeObject =>
      rw [List.append_assoc, read.words_eq]
      exact context.complete _
    | _ => exact .abandoned
  | complete tree => exact .abandoned
  | abandoned => exact .abandoned

theorem Built.foldl {b : Builder} (built : Built words b) (tokens : List Token) :
    Built (words ++ tokens) (tokens.foldl Builder.step b) := by
  induction tokens generalizing words b with
  | nil => simpa using built
  | cons token tokens ih =>
    rw [List.append_cons]
    exact ih (built.step token)

theorem Built.words_eq {b : Builder} {tree : Tree} (built : Built words b)
    (read : b.finish = (tree, true)) : words = tree.words := by
  cases built <;> cases read
  rfl

theorem foldl_abandoned (tokens : List Token) (tree : Tree) :
    tokens.foldl Builder.step (.done tree false) = .done tree false := by
  induction tokens with
  | nil => rfl
  | cons token tokens ih => exact ih

theorem foldl_broken {tokens : List Token} (broken : .broken ∈ tokens) (b : Builder) :
    ∃ tree, tokens.foldl Builder.step b = .done tree false := by
  induction tokens generalizing b with
  | nil => cases broken
  | cons token tokens ih =>
    rcases List.mem_cons.mp broken with rfl | later
    · obtain ⟨tree, gaveUp⟩ : ∃ tree, b.step .broken = .done tree false := by
        cases b <;> exact ⟨_, rfl⟩
      rw [List.foldl_cons, gaveUp, foldl_abandoned]
      exact ⟨tree, rfl⟩
    · exact ih later _

theorem foldl_firstItem (tree : Tree) (frames : List Frame) :
    tree.words.foldl Builder.step (.opensArray frames) =
      tree.words.foldl Builder.step (.awaitsValue (.item [] :: frames)) := by
  cases tree with
  | array items => cases items <;> rw [Tree.words] <;> rfl
  | object members => cases members <;> rw [Tree.words] <;> rfl
  | _ =>
    rw [Tree.words]
    rfl

-- What is open around a value stays as it is, so the statements are about any frames.
mutual

theorem foldl_words : ∀ (tree : Tree), .broken ∉ tree.words → ∀ frames,
    tree.words.foldl Builder.step (.awaitsValue frames) = Builder.complete tree frames
  | .null, _, _ => by
    rw [words]
    rfl
  | .boolean flag, _, _ => by
    rw [words]
    rfl
  | .number numeral, _, _ => by
    rw [words]
    rfl
  | .string content, _, _ => by
    rw [words]
    rfl
  | .broken, sound, _ => by
    rw [words] at sound
    exact absurd (List.mem_cons_self ..) sound
  | .array [], _, _ => by
    rw [words]
    rfl
  | .array (item :: rest), sound, frames => by
    have opened : Builder.step (.awaitsValue frames) .openArray = .opensArray frames := rfl
    have first : Builder.complete item (.item [] :: frames) = .endsItem [item] frames := rfl
    rw [words, List.cons_append, List.mem_cons, List.mem_append] at sound
    simp only [not_or] at sound
    rw [words, List.cons_append, List.foldl_cons, opened, List.foldl_append, foldl_firstItem,
      foldl_words item sound.2.1, first, foldl_itemWords rest sound.2.2]
    rfl
  | .object [], _, _ => by
    rw [words]
    rfl
  | .object ((name, value) :: rest), sound, frames => by
    have named : [.openObject, .string name, .colon].foldl Builder.step (.awaitsValue frames) =
        .awaitsValue (.member [] name :: frames) := rfl
    have first : Builder.complete value (.member [] name :: frames) =
        .endsMember [(name, value)] frames := rfl
    simp only [words, List.cons_append, List.mem_cons, List.mem_append, not_or] at sound
    simp only [List.foldl_cons, List.foldl_nil] at named
    simp only [words, List.cons_append, List.foldl_cons, named]
    rw [List.foldl_append, foldl_words value sound.2.2.2.1, first,
      foldl_memberWords rest sound.2.2.2.2]
    rfl

theorem foldl_itemWords : ∀ (items : List Tree), .broken ∉ itemWords items →
    ∀ (before : List Tree) (frames : List Frame),
    (itemWords items).foldl Builder.step (.endsItem before frames) =
      Builder.complete (.array (before.reverse ++ items)) frames
  | [], _, before, frames => by
    rw [itemWords, List.append_nil]
    rfl
  | item :: rest, sound, before, frames => by
    have next : Builder.step (.endsItem before frames) .comma =
        .awaitsValue (.item before :: frames) := rfl
    have more : Builder.complete item (.item before :: frames) =
        .endsItem (item :: before) frames := rfl
    rw [itemWords, List.cons_append, List.mem_cons, List.mem_append] at sound
    simp only [not_or] at sound
    rw [itemWords, List.cons_append, List.foldl_cons, next, List.foldl_append,
      foldl_words item sound.2.1, more, foldl_itemWords rest sound.2.2, List.reverse_cons,
      List.append_assoc]
    rfl

theorem foldl_memberWords : ∀ (members : List Member), .broken ∉ memberWords members →
    ∀ (before : List Member) (frames : List Frame),
    (memberWords members).foldl Builder.step (.endsMember before frames) =
      Builder.complete (.object (before.reverse ++ members)) frames
  | [], _, before, frames => by
    rw [memberWords, List.append_nil]
    rfl
  | (name, value) :: rest, sound, before, frames => by
    have named : [.comma, .string name, .colon].foldl Builder.step (.endsMember before frames) =
        .awaitsValue (.member before name :: frames) := rfl
    have more : Builder.complete value (.member before name :: frames) =
        .endsMember ((name, value) :: before) frames := rfl
    simp only [memberWords, List.cons_append, List.mem_cons, List.mem_append, not_or] at sound
    simp only [List.foldl_cons, List.foldl_nil] at named
    simp only [memberWords, List.cons_append, List.foldl_cons, named]
    rw [List.foldl_append, foldl_words value sound.2.2.2.1, more,
      foldl_memberWords rest sound.2.2.2.2, List.reverse_cons, List.append_assoc]
    rfl

end

end Builder

section Numbers

open Scanner

theorem apart_cons {token : Token} {rest : List Token} (mark : ¬ token.IsNumber)
    (apart : Apart rest) : Apart (token :: rest) :=
  List.isChain_cons.mpr ⟨fun _ _ both => mark both.1, apart⟩

-- A mark stands behind every value, so no two numbers meet.
mutual

theorem apart_words : ∀ (tree : Tree) {rest : List Token}, Apart rest →
    (∀ token ∈ rest.head?, ¬ token.IsNumber) → Apart (tree.words ++ rest)
  | .null, _, apart, _ => by
    rw [words]
    exact apart_cons not_false apart
  | .boolean flag, _, apart, _ => by
    rw [words]
    exact apart_cons not_false apart
  | .number numeral, _, apart, mark => by
    rw [words]
    exact List.isChain_cons.mpr ⟨fun token first both => mark token first both.2, apart⟩
  | .string content, _, apart, _ => by
    rw [words]
    exact apart_cons not_false apart
  | .broken, _, apart, _ => by
    rw [words]
    exact apart_cons not_false apart
  | .array [], _, apart, _ => by
    rw [words]
    exact apart_cons not_false (apart_cons not_false apart)
  | .array (item :: items), rest, apart, _ => by
    obtain ⟨tail, mark⟩ := apart_itemWords items apart
    rw [words, List.cons_append, List.cons_append, List.append_assoc]
    exact apart_cons not_false (apart_words item tail mark)
  | .object [], _, apart, _ => by
    rw [words]
    exact apart_cons not_false (apart_cons not_false apart)
  | .object ((name, value) :: members), rest, apart, _ => by
    obtain ⟨tail, mark⟩ := apart_memberWords members apart
    simp only [words, List.cons_append, List.append_assoc]
    exact apart_cons not_false (apart_cons not_false (apart_cons not_false
      (apart_words value tail mark)))

theorem apart_itemWords : ∀ (items : List Tree) {rest : List Token}, Apart rest →
    Apart (itemWords items ++ rest) ∧ ∀ token ∈ (itemWords items ++ rest).head?, ¬ token.IsNumber
  | [], _, apart => by
    rw [itemWords]
    exact ⟨apart_cons not_false apart, by rintro _ ⟨⟩; exact not_false⟩
  | item :: items, rest, apart => by
    obtain ⟨tail, mark⟩ := apart_itemWords items apart
    rw [itemWords, List.cons_append, List.cons_append, List.append_assoc]
    exact ⟨apart_cons not_false (apart_words item tail mark), by rintro _ ⟨⟩; exact not_false⟩

theorem apart_memberWords : ∀ (members : List Member) {rest : List Token}, Apart rest →
    Apart (memberWords members ++ rest) ∧
      ∀ token ∈ (memberWords members ++ rest).head?, ¬ token.IsNumber
  | [], _, apart => by
    rw [memberWords]
    exact ⟨apart_cons not_false apart, by rintro _ ⟨⟩; exact not_false⟩
  | (name, value) :: members, rest, apart => by
    obtain ⟨tail, mark⟩ := apart_memberWords members apart
    simp only [memberWords, List.cons_append, List.append_assoc]
    exact ⟨apart_cons not_false (apart_cons not_false (apart_cons not_false
      (apart_words value tail mark))), by rintro _ ⟨⟩; exact not_false⟩

end

end Numbers

theorem ofTokens_eq_iff (tokens : List Token) (tree : Tree) :
    ofTokens tokens = (tree, true) ↔ tokens = tree.words ∧ .broken ∉ tokens := by
  constructor
  · intro read
    have sound : .broken ∉ tokens := by
      intro broken
      obtain ⟨other, gaveUp⟩ := Builder.foldl_broken broken (.awaitsValue [])
      rw [ofTokens, gaveUp] at read
      cases read
    have built := (Builder.Built.awaitsValue .root).foldl tokens
    exact ⟨built.words_eq read, sound⟩
  · rintro ⟨rfl, sound⟩
    rw [ofTokens, Builder.foldl_words tree sound]
    rfl

/-- A text is read as a tree, and nothing stands behind it, exactly when the grammar spells the tree
by it. -/
theorem ofText_eq_iff (text : String) (tree : Tree) :
    ofText text = (tree, true) ↔ tree.SpelledBy text.toList := by
  rw [ofText, ofTokens_eq_iff, SpelledBy]
  constructor
  · rintro ⟨same, sound⟩
    rw [← same]
    exact Scanner.spelling_tokens sound
  · intro spelling
    have apart := apart_words tree (.nil : Scanner.Apart []) (by simp)
    rw [List.append_nil] at apart
    rw [Scanner.tokens_of_spelling spelling apart]
    exact ⟨rfl, spelling.sound⟩

theorem SpelledBy.followed_by_blanks {tree : Tree} {text blanks : List Char}
    (spelled : tree.SpelledBy text) (spaces : ∀ c ∈ blanks, Scanner.isSpace c = true) :
    tree.SpelledBy (text ++ blanks) := by
  have blank : Grammar.IsBlank blanks := fun c member => (Grammar.isSpace_iff c).mp (spaces c member)
  have whole := Grammar.Spelling.append spelled (.nil blank)
  rwa [List.append_nil] at whole

theorem SpelledBy.tree_eq {tree other : Tree} {text : List Char} (spelled : tree.SpelledBy text)
    (also : other.SpelledBy text) : tree = other := by
  have read (read : Tree) : ofText (String.ofList text) = (read, true) ↔ read.SpelledBy text := by
    rw [ofText_eq_iff, String.toList_ofList]
  exact congrArg Prod.fst (((read tree).mpr spelled).symm.trans ((read other).mpr also))

end Tree

end Attestation.Json
