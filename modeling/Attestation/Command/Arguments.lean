import Attestation.Date
import Attestation.Outcome

namespace Attestation

structure VerifyCommand where
  submission : String
  pretty : Bool := false
  allowInvalid : Bool := false
  today : Option Date := none
  policy : Option Policy := none
  deriving DecidableEq

inductive Command where
  | init (force : Bool)
  | verify (command : VerifyCommand)
  | checks (plain : Bool)
  deriving DecidableEq

structure Invocation where
  configPath : String
  logLevel : Option String
  command : Command
  deriving DecidableEq

def Invocation.defaultConfigPath : String := "attest.toml"

inductive Request where
  | run (invocation : Invocation)
  | version
  | help
  deriving DecidableEq

inductive Verb where
  | init
  | verify
  | checks
  deriving DecidableEq

namespace Verb

def all : List Verb := [.init, .verify, .checks]

def name : Verb → String
  | .init => "init"
  | .verify => "verify"
  | .checks => "checks"

end Verb

inductive Setting where
  | config (path : String)
  | logLevel (level : String)
  | force
  | submission (source : String)
  | pretty
  | allowInvalid
  | today (day : Date)
  | policy (policy : Policy)
  | plain
  | version
  | help
  deriving DecidableEq

inductive OptionUse where
  | flag (setting : Setting)
  | value (read : String → Option Setting)

structure OptionForm where
  name : String
  letter : Option Char
  use : OptionUse

namespace OptionForm

def readPath (path : String) : Option Setting := if path.isEmpty then none else some (.config path)

def shared : List OptionForm :=
  [⟨"config", some 'c', .value readPath⟩,
    ⟨"log-level", none, .value fun level => some (.logLevel level)⟩,
    ⟨"help", some 'h', .flag .help⟩]

def options : Option Verb → List OptionForm
  | none => shared ++ [⟨"version", some 'V', .flag .version⟩]
  | some .init => shared ++ [⟨"force", none, .flag .force⟩]
  | some .verify =>
    shared ++
      [⟨"submission", some 's', .value fun source => some (.submission source)⟩,
        ⟨"pretty", none, .flag .pretty⟩, ⟨"allow-invalid", none, .flag .allowInvalid⟩,
        ⟨"today", none, .value fun day => (Date.ofText? day).map .today⟩,
        ⟨"policy", none, .value fun name => (Policy.ofName? name).map .policy⟩]
  | some .checks => shared ++ [⟨"plain", none, .flag .plain⟩]

end OptionForm

inductive Stop where
  | version
  | help
  | misuse
  deriving DecidableEq

/-- Arguments as far as they were read. `before` and `behind` hold the options given before the
command and behind it by their names; `pending` is an option whose value comes next; `topics` holds
what follows the word that asks for help; `closed` says that no more options may come. -/
structure Arguments where
  verb : Option Verb := none
  before : List (String × Setting) := []
  behind : List (String × Setting) := []
  pending : Option (String × (String → Option Setting)) := none
  topics : Option (List String) := none
  closed : Bool := false

namespace Arguments

def set (a : Arguments) (name : String) (setting? : Option Setting) : Except Stop Arguments :=
  match setting? with
  | none => .error .misuse
  | some .version => .error .version
  | some .help => .error .help
  | some setting =>
    match a.verb with
    | none =>
      if (a.before.lookup name).isSome then .error .misuse
      else .ok { a with before := a.before ++ [(name, setting)], pending := none }
    | some _ =>
      if (a.behind.lookup name).isSome then .error .misuse
      else .ok { a with behind := a.behind ++ [(name, setting)], pending := none }

def useOption (a : Arguments) (form? : Option OptionForm) (attached : Option String) :
    Except Stop Arguments :=
  match form? with
  | none => .error .misuse
  | some form =>
    match form.use, attached with
    | .flag setting, none => a.set form.name (some setting)
    | .flag _, some _ => .error .misuse
    | .value read, some content => a.set form.name (read content)
    | .value read, none => .ok { a with pending := some (form.name, read) }

def options (a : Arguments) : List OptionForm := OptionForm.options a.verb

def useName (a : Arguments) (text : List Char) : Except Stop Arguments :=
  let name := text.takeWhile (· != '=')
  let attached := match text.drop name.length with
    | [] => none
    | _ :: content => some (String.ofList content)
  a.useOption (a.options.find? fun form => form.name.toList == name) attached

/-- Options by their letters. What stands behind the letter of one that takes a value is the value;
behind a flag more letters may stand, but all flags with letters end the reading. -/
def useLetters (a : Arguments) (letter : Char) (rest : List Char) : Except Stop Arguments :=
  let form? := a.options.find? fun form => form.letter == some letter
  match form?.map OptionForm.use, rest with
  | some (.value _), '=' :: content => a.useOption form? (some (String.ofList content))
  | some (.value _), _ :: _ => a.useOption form? (some (String.ofList rest))
  | _, _ => a.useOption form? none

def helpName : String := "help"

def useWord (a : Arguments) (word : String) : Except Stop Arguments :=
  if a.closed then .error .misuse
  else
    match a.verb, Verb.all.find? fun verb => verb.name == word with
    | none, some verb => .ok { a with verb := some verb }
    | none, none => if word == helpName then .ok { a with topics := some [] } else .error .misuse
    | some _, _ => .error .misuse

/-- Takes the next argument as an option or a word. A single hyphen is no option, and two of them
close the options. -/
def use (a : Arguments) (argument : String) : Except Stop Arguments :=
  match a.pending, a.closed, argument.toList with
  | some (name, read), _, ['-'] => a.set name (read argument)
  | some _, _, '-' :: _ => .error .misuse
  | some (name, read), _, _ => a.set name (read argument)
  | none, false, ['-', '-'] => .ok { a with closed := true }
  | none, false, '-' :: '-' :: text => a.useName text
  | none, false, '-' :: letter :: rest => a.useLetters letter rest
  | none, _, _ => a.useWord argument

def next (a : Arguments) (argument : String) : Except Stop Arguments :=
  match a.topics with
  | some topics => .ok { a with topics := some (topics ++ [argument]) }
  | none => a.use argument

/-- Help is given on all commands, or on the one that is named; asking for help is one of them. -/
def help (topics : List String) : Except Stop Request :=
  if topics.isEmpty || (helpName :: Verb.all.map Verb.name).any fun name => topics = [name] then .ok .help
  else .error .misuse

/-- The first setting that `pick` accepts. What stands behind the command comes first. -/
def find? {α : Type} (a : Arguments) (pick : Setting → Option α) : Option α :=
  (a.behind ++ a.before).findSome? fun entry => pick entry.2

def has (a : Arguments) (setting : Setting) : Bool := a.behind.any fun entry => entry.2 = setting

def command? (a : Arguments) : Option Command :=
  match a.verb with
  | none => none
  | some .init => some (.init (a.has .force))
  | some .checks => some (.checks (a.has .plain))
  | some .verify => do
    let source ← a.find? fun
      | .submission source => some source
      | _ => none
    return .verify
      { submission := source
        pretty := a.has .pretty
        allowInvalid := a.has .allowInvalid
        today := a.find? fun
          | .today day => some day
          | _ => none
        policy := a.find? fun
          | .policy policy => some policy
          | _ => none }

def request (a : Arguments) : Except Stop Request :=
  match a.pending, a.topics, a.command? with
  | some _, _, _ => .error .misuse
  | none, some topics, _ => help topics
  | none, none, none => .error .misuse
  | none, none, some command =>
    let path? := a.find? fun
      | .config path => some path
      | _ => none
    .ok (.run
      { configPath := path?.getD Invocation.defaultConfigPath
        logLevel := a.find? fun
          | .logLevel level => some level
          | _ => none
        command := command })

end Arguments

def Request.ofArguments? (arguments : List String) : Option Request :=
  match arguments.foldlM Arguments.next {} >>= Arguments.request with
  | .ok request => some request
  | .error .version => some .version
  | .error .help => some .help
  | .error .misuse => none

end Attestation
