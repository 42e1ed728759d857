/-
TenantRegistry/CommandLine/Arguments.lean

The arguments of the command line.

A command is a group and an action, `cluster add` for instance.  Each of the
three levels, the program, the group and the action, takes options: the place
of the configuration on every level, and on the last those of the action, all
of which must be given.

* An option has a long name, and may have a short one.  Its value is the next
  argument, unless that begins with a dash and has more to it; or it is
  attached, after `=` or, for a short name, right behind it.
* An option is given once a level.  Of configurations on several levels the one
  on the deepest counts.
* `--` ends options and commands, so nothing may come after it.
* A call for help ends the reading, unless something before it was wrong.  An
  option is looked at when the next one of its level comes, or once the levels
  below are read; if its value is attached, at once.
-/
import TenantRegistry.Command

namespace TenantRegistry

namespace CommandLine

/-! ### Grammar -/

/-- What an option takes. -/
inductive Taken where
  | text
  /-- A path, which is not empty. -/
  | path
  /-- One of these words. -/
  | word (words : List String)

/-- An option. -/
structure Choice where
  long : String
  short : Option Char
  taken : Taken

/-- The values of options by their long names. -/
abbrev Values : Type := List (String × String)

/-- The second part of a command. -/
structure Verb where
  name : String
  options : List Choice
  /-- The command, from the values of the options in their order. -/
  command : List String → Option Command

/-- The first part of a command. -/
structure Noun where
  name : String
  verbs : List Verb

/-- An option that takes any text. -/
def textOption (long : String) : Choice := ⟨long, none, .text⟩

/-- The place of the configuration, on every level. -/
def configOption : Choice := ⟨"config", some 'c', .path⟩

/-- Power that can be reported. -/
def healthNamed (name : String) : Option ClusterHealth :=
  ClusterHealth.all.find? fun health => health.name = name

def organizationVerbs : List Verb :=
  [{ name := "add"
     options := [textOption "name"]
     command
      | [name] => some (.addOrganization name)
      | _ => none },
    { name := "list"
      options := []
      command := fun _ => some .listOrganizations }]

/-- A verb about one cluster. -/
def clusterVerb (name : String) (make : String → String → Command) : Verb where
  name := name
  options := [textOption "org", textOption "cluster"]
  command
    | [organizationId, clusterId] => some (make organizationId clusterId)
    | _ => none

def clusterVerbs : List Verb :=
  [{ name := "add"
     options := [textOption "org", textOption "name", textOption "hostname"]
     command
      | [organizationId, name, hostname] => some (.addCluster organizationId name hostname)
      | _ => none },
    { name := "list"
      options := [textOption "org"]
      command
      | [organizationId] => some (.listClusters organizationId)
      | _ => none },
    clusterVerb "cordon" .cordonCluster,
    clusterVerb "uncordon" .uncordonCluster,
    { name := "health"
      options := [textOption "org", textOption "cluster",
        ⟨"state", none, .word (ClusterHealth.all.map ClusterHealth.name)⟩]
      command
      | [organizationId, clusterId, state] =>
        (healthNamed state).map (.reportHealth organizationId clusterId)
      | _ => none },
    clusterVerb "remove" .removeCluster]

def descriptorVerbs : List Verb :=
  [{ name := "add"
     options := [textOption "org", ⟨"file", some 'f', .path⟩]
     command
      | [organizationId, file] => some (.addDescriptor organizationId file)
      | _ => none },
    { name := "list"
      options := [textOption "org"]
      command
      | [organizationId] => some (.listDescriptors organizationId)
      | _ => none }]

/-- A verb about one instance. -/
def instanceVerb (name : String) (make : String → String → Command) : Verb where
  name := name
  options := [textOption "org", textOption "instance"]
  command
    | [organizationId, instanceId] => some (make organizationId instanceId)
    | _ => none

def instanceVerbs : List Verb :=
  [{ name := "add"
     options := [textOption "org", textOption "descriptor", textOption "name"]
     command
      | [organizationId, descriptorId, name] =>
        some (.addInstance organizationId descriptorId name)
      | _ => none },
    instanceVerb "show" .showInstance,
    instanceVerb "remove" .removeInstance]

/-- All commands. -/
def nouns : List Noun :=
  [⟨"org", organizationVerbs⟩, ⟨"cluster", clusterVerbs⟩, ⟨"descriptor", descriptorVerbs⟩,
    ⟨"instance", instanceVerbs⟩]

/-- The word that asks for help about a command. -/
def helpWord : String := "help"

/-- Whether words name something that there is help about. -/
def isHelpPath : List String → Bool
  | [] => true
  | [word] => word = helpWord || nouns.any fun noun => noun.name = word
  | [word, next] =>
    nouns.any fun noun => noun.name = word &&
      (next = helpWord || noun.verbs.any fun verb => verb.name = next)
  | _ => false

/-! ### One level -/

/-- What one level of arguments can hold. -/
structure Level where
  options : List Choice
  /-- The words that lead to the next level. -/
  words : List String
  /-- Whether it can be asked for the version. -/
  versioned : Bool

/-- What was given on a level so far. -/
structure Given where
  values : Values
  /-- The last option, if it was not looked at yet, and its value, if that came. -/
  pending : Option (Choice × Option String)

/-- Nothing given. -/
def Given.none : Given := ⟨[], Option.none⟩

/-- Whether an option takes a value. -/
def Taken.admits : Taken → String → Bool
  | .text, _ => true
  | .path, value => value ≠ ""
  | .word words, value => value ∈ words

/-- Look at an option and its value. -/
def Given.accept (given : Given) (choice : Choice) (value : String) : Option Given :=
  if (given.values.lookup choice.long).isSome || !choice.taken.admits value then Option.none
  else some ⟨given.values ++ [(choice.long, value)], Option.none⟩

/-- Look at the last option, if that is still to do. -/
def Given.settle (given : Given) : Option Given :=
  match given.pending with
  | Option.none => some given
  | some (choice, some value) => given.accept choice value
  | some (_, Option.none) => Option.none

/-- Whether an option waits for its value. -/
def Given.awaits (given : Given) : Bool :=
  match given.pending with
  | some (_, Option.none) => true
  | _ => false

/-- How the reading of a level ends. -/
inductive Ending where
  | help
  | version
  /-- The arguments are wrong. -/
  | misuse
  /-- A word leads to the next level. -/
  | next (given : Given) (word : String) (rest : List String)
  /-- There are no more arguments. -/
  | done (given : Given)

/-- An argument that begins with a dash and has more to it. -/
inductive Dashed where
  | long (name : String) (attached : Option String)
  | short (letter : Char) (attached : Option String)

/-- The value attached behind a short name. -/
def attachedValue : List Char → Option String
  | [] => none
  | '=' :: rest => some (String.ofList rest)
  | rest => some (String.ofList rest)

/-- An argument as an option, if it is one. -/
def dashed? (argument : String) : Option Dashed :=
  match argument.toList with
  | '-' :: '-' :: rest =>
    let name := String.ofList (rest.takeWhile (· ≠ '='))
    match rest.dropWhile (· ≠ '=') with
    | _ :: value => some (.long name (some (String.ofList value)))
    | [] => some (.long name none)
  | '-' :: letter :: rest => some (.short letter (attachedValue rest))
  | _ => none

/-- The option that an argument names. -/
def Level.option? (level : Level) : Dashed → Option (Choice × Option String)
  | .long name attached =>
    (level.options.find? fun choice => choice.long = name).map (·, attached)
  | .short letter attached =>
    (level.options.find? fun choice => choice.short = some letter).map (·, attached)

/-- What a level is asked for instead of a command. -/
def Level.request? (level : Level) : Dashed → Option Ending
  | .long "help" none => some .help
  | .short 'h' _ => some .help
  | .long "version" none => if level.versioned then some .version else none
  | .short 'V' _ => if level.versioned then some .version else none
  | _ => none

/-- Read an option: what is given after it, if nothing was wrong. -/
def Given.take (given : Given) (choice : Choice) : Option String → Option Given
  | some value => given.settle.bind (·.accept choice value)
  | Option.none => given.settle.map fun given => { given with pending := some (choice, Option.none) }

/-- Read the arguments of a level. -/
def Level.read (level : Level) (given : Given) : List String → Ending
  | [] => .done given
  | argument :: rest =>
    if !given.awaits && argument ∈ level.words then .next given argument rest
    else if argument = "--" then if rest.isEmpty then .done given else .misuse
    else
      match dashed? argument, given.pending with
      | some dashed, _ =>
        match level.option? dashed with
        | some (choice, attached) =>
          match given.take choice attached with
          | some given => level.read given rest
          | none => .misuse
        | none => if given.settle.isSome then (level.request? dashed).getD .misuse else .misuse
      | none, some (choice, none) =>
        level.read { given with pending := some (choice, some argument) } rest
      | none, _ => .misuse

/-! ### All levels -/

/-- What the arguments ask for. -/
inductive Request where
  | help
  | version
  | misuse
  /-- Run a command, with the configuration at a path. -/
  | run (configuration : Option String) (command : Command)

/-- What an ending asks for if it leads to no further level. -/
def Ending.request : Ending → Request
  | .help => .help
  | .version => .version
  | _ => .misuse

/-- Help about a command. -/
def helpRequest (path : List String) : Request := if isHelpPath path then .help else .misuse

/-- The words of a level that leads to commands. -/
def commandWords (names : List String) : List String := names ++ [helpWord]

/-- Read the arguments of an action, and look at what the levels above still
have to look at. -/
def readVerb (above : List Given) (verb : Verb) (arguments : List String) : Request :=
  let level : Level := ⟨verb.options ++ [configOption], [], false⟩
  match level.read .none arguments with
  | .done given =>
    match (given :: above).mapM Given.settle with
    | some settled =>
      let values := (settled.map (·.values)).headD []
      match (verb.options.mapM fun choice => values.lookup choice.long).bind verb.command with
      | some command =>
        .run (settled.findSome? fun given => given.values.lookup configOption.long) command
      | none => .misuse
    | none => .misuse
  | ending => ending.request

/-- Read the arguments of a group. -/
def readNoun (above : Given) (noun : Noun) (arguments : List String) : Request :=
  let level : Level := ⟨[configOption], commandWords (noun.verbs.map (·.name)), false⟩
  match level.read .none arguments with
  | .next given word rest =>
    match noun.verbs.find? fun verb => verb.name = word with
    | some verb => readVerb [given, above] verb rest
    | none => helpRequest (noun.name :: rest)
  | ending => ending.request

/-- What arguments ask for. -/
def readArguments (arguments : List String) : Request :=
  let level : Level := ⟨[configOption], commandWords (nouns.map (·.name)), true⟩
  match level.read .none arguments with
  | .next given word rest =>
    match nouns.find? fun noun => noun.name = word with
    | some noun => readNoun given noun rest
    | none => helpRequest rest
  | ending => ending.request

end CommandLine

end TenantRegistry
