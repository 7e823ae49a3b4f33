import Attestation.Json.Token

namespace Attestation.Json

/-- A text as far as it could be read. `broken` stands where the first fault is: everything before
it in the text is in the tree, and nothing behind it. A member whose name could not be read has no
name and a broken value. -/
inductive Tree where
  | null
  | boolean (flag : Bool)
  | number (numeral : Numeral)
  | string (content : Option String)
  | array (items : List Tree)
  | object (members : List (Option String × Tree))
  | broken

abbrev Member := Option String × Tree

namespace Tree

instance : Inhabited Tree := ⟨.broken⟩

inductive Frame where
  | item (before : List Tree)
  | member (before : List Member) (name : Option String)

inductive Builder where
  | awaitsValue (frames : List Frame)
  | opensArray (frames : List Frame)
  | opensObject (frames : List Frame)
  | awaitsName (before : List Member) (frames : List Frame)
  | awaitsColon (before : List Member) (name : Option String) (frames : List Frame)
  | endsItem (items : List Tree) (frames : List Frame)
  | endsMember (members : List Member) (frames : List Frame)
  | done (tree : Tree) (alone : Bool)

def plug (tree : Tree) : Frame → Tree
  | .item before => .array (tree :: before).reverse
  | .member before name => .object ((name, tree) :: before).reverse

namespace Builder

def complete (tree : Tree) : List Frame → Builder
  | [] => .done tree true
  | .item before :: frames => .endsItem (tree :: before) frames
  | .member before name :: frames => .endsMember ((name, tree) :: before) frames

def abandon (tree : Tree) (frames : List Frame) : Builder :=
  .done (frames.foldl plug tree) false

def brokenItem (items : List Tree) : Tree := .array (.broken :: items).reverse

def brokenMember (members : List Member) : Tree := .object ((none, .broken) :: members).reverse

def beginValue (token : Token) (frames : List Frame) : Builder :=
  match token with
  | .null => complete .null frames
  | .boolean flag => complete (.boolean flag) frames
  | .number numeral => complete (.number numeral) frames
  | .string content => complete (.string content) frames
  | .openArray => .opensArray frames
  | .openObject => .opensObject frames
  | _ => abandon .broken frames

def beginName (token : Token) (before : List Member) (frames : List Frame) : Builder :=
  match token with
  | .string content => .awaitsColon before content frames
  | _ => abandon (brokenMember before) frames

def step : Builder → Token → Builder
  | .awaitsValue frames, token => beginValue token frames
  | .opensArray frames, .closeArray => complete (.array []) frames
  | .opensArray frames, token => beginValue token (.item [] :: frames)
  | .opensObject frames, .closeObject => complete (.object []) frames
  | .opensObject frames, token => beginName token [] frames
  | .awaitsName before frames, token => beginName token before frames
  | .awaitsColon before name frames, .colon => .awaitsValue (.member before name :: frames)
  | .awaitsColon before name frames, _ => abandon (plug .broken (.member before name)) frames
  | .endsItem items frames, .comma => .awaitsValue (.item items :: frames)
  | .endsItem items frames, .closeArray => complete (.array items.reverse) frames
  | .endsItem items frames, _ => abandon (brokenItem items) frames
  | .endsMember members frames, .comma => .awaitsName members frames
  | .endsMember members frames, .closeObject => complete (.object members.reverse) frames
  | .endsMember members frames, _ => abandon (brokenMember members) frames
  | .done tree _, _ => .done tree false

def finish : Builder → Tree × Bool
  | .awaitsValue frames => (frames.foldl plug .broken, false)
  | .opensArray frames => (frames.foldl plug (brokenItem []), false)
  | .opensObject frames => (frames.foldl plug (brokenMember []), false)
  | .awaitsName before frames => (frames.foldl plug (brokenMember before), false)
  | .awaitsColon before name frames => (frames.foldl plug (plug .broken (.member before name)), false)
  | .endsItem items frames => (frames.foldl plug (brokenItem items), false)
  | .endsMember members frames => (frames.foldl plug (brokenMember members), false)
  | .done tree alone => (tree, alone)

end Builder

def ofTokens (tokens : List Token) : Tree × Bool :=
  (tokens.foldl Builder.step (.awaitsValue [])).finish

def ofText (text : String) : Tree × Bool := ofTokens (tokens text.toList)

mutual

def isSound : Tree → Bool
  | .broken => false
  | .array items => areSound items
  | .object members => haveSound members
  | _ => true

def areSound : List Tree → Bool
  | [] => true
  | item :: rest => item.isSound && areSound rest

def haveSound : List Member → Bool
  | [] => true
  | (_, value) :: rest => value.isSound && haveSound rest

end

mutual

/-- Whether a tree can be held as a value: it has no fault, each string spells characters, each
number is in range, and arrays and objects are nested at most `levels` deep. -/
def isKeepable (levels : Nat) : Tree → Bool
  | .broken => false
  | .null | .boolean _ => true
  | .number numeral => numeral.quantity?.isSome
  | .string content => content.isSome
  | .array items => decide (0 < levels) && areKeepable (levels - 1) items
  | .object members => decide (0 < levels) && haveKeepable (levels - 1) members

def areKeepable (levels : Nat) : List Tree → Bool
  | [] => true
  | item :: rest => item.isKeepable levels && areKeepable levels rest

def haveKeepable (levels : Nat) : List Member → Bool
  | [] => true
  | (name, value) :: rest => name.isSome && value.isKeepable levels && haveKeepable levels rest

end

def greatestDepth : Nat := 127

end Tree

end Attestation.Json
