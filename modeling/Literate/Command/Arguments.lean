import Literate.Config

/-!
# Arguments

The command line names an action and a script, with options before or after the action. An
option given after the action takes the place of the same option before it. Arguments are read
one by one, so a request for help counts unless an argument before it is wrong.
-/

namespace Literate

/-- What to do with a script. -/
inductive Action where
  | check
  | ast
  | blocks
  | links
deriving DecidableEq

namespace Action

def all : List Action := [.check, .ast, .blocks, .links]

def word : Action → String
  | .check => "check"
  | .ast => "ast"
  | .blocks => "blocks"
  | .links => "links"

def ofWord? (name : Text) : Option Action := all.find? (·.word.toList == name)

end Action

structure Choices where
  noColor : Bool
  config : Option Text
  defines : List Text
  linkMerge : Option MergePolicy
  verbosity : Nat

def Choices.none : Choices := ⟨false, .none, [], .none, 0⟩

/-- Options after the action in front of those before it. -/
def Choices.inFrontOf (inner outer : Choices) : Choices where
  noColor := inner.noColor || outer.noColor
  config := inner.config <|> outer.config
  defines := if inner.defines.isEmpty then outer.defines else inner.defines
  linkMerge := inner.linkMerge <|> outer.linkMerge
  verbosity := if inner.verbosity = 0 then outer.verbosity else inner.verbosity

structure Invocation where
  action : Action
  file : Text
  choices : Choices

inductive HelpTopic where
  | program
  | action (action : Action)
  | help

inductive UsageError where
  | unknownOption (argument : Text)
  | repeatedOption (name : String)
  | missingValue (name : String)
  | badValue (name : String) (value : Text)
  | unwantedValue (argument : Text)
  | missingAction
  | unknownAction (argument : Text)
  | missingFile
  | unexpectedArgument (argument : Text)

def UsageError.message : UsageError → Text
  | .unknownOption argument => "unknown option '".toList ++ argument ++ ['\'']
  | .repeatedOption name => ("option '" ++ name ++ "' is given twice").toList
  | .missingValue name => ("option '" ++ name ++ "' needs a value").toList
  | .badValue name value => "bad value '".toList ++ value ++ ("' for '" ++ name ++ "'").toList
  | .unwantedValue argument => "no value may be given in '".toList ++ argument ++ ['\'']
  | .missingAction => "an action is missing".toList
  | .unknownAction argument => "unknown action '".toList ++ argument ++ ['\'']
  | .missingFile => "a script file is missing".toList
  | .unexpectedArgument argument => "unexpected argument '".toList ++ argument ++ ['\'']

/-- What ends the reading of arguments before all are read. -/
inductive Interruption where
  | usage (error : UsageError)
  | help (topic : HelpTopic)
  | version

namespace Arguments

inductive ValueOption where
  | config
  | define
  | linkMerge
deriving DecidableEq

def ValueOption.word : ValueOption → String
  | .config => "--config"
  | .define => "--define"
  | .linkMerge => "--link-merge"

def setValue (choices : Choices) (option : ValueOption) (value : Text) :
    Except Interruption Choices :=
  match option with
  | .config =>
      if choices.config.isSome then .error (.usage (.repeatedOption option.word))
      else if value.isEmpty then .error (.usage (.badValue option.word value))
      else .ok { choices with config := some value }
  | .define => .ok { choices with defines := choices.defines ++ [value] }
  | .linkMerge =>
      if choices.linkMerge.isSome then .error (.usage (.repeatedOption option.word))
      else match Config.policy? value with
        | some policy => .ok { choices with linkMerge := some policy }
        | none => .error (.usage (.badValue option.word value))

/-- Options that were read, and the one that still waits for its value. -/
structure Progress where
  choices : Choices
  waiting : Option ValueOption

def settled (choices : Choices) : Progress := ⟨choices, none⟩

/-- Where options are read: help is about a topic, and the version can be asked for only before
the action. -/
structure OptionPlace where
  topic : HelpTopic
  knowsVersion : Bool

/-- Read an option by its long name, with the value that is attached to it. -/
def longOption (place : OptionPlace) (choices : Choices) (argument name : Text)
    (value : Option Text) : Except Interruption Progress :=
  let valued (option : ValueOption) : Except Interruption Progress :=
    match value with
    | some value => (setValue choices option value).map settled
    | none => .ok ⟨choices, some option⟩
  let plain (outcome : Except Interruption Progress) : Except Interruption Progress :=
    if value.isSome then .error (.usage (.unwantedValue argument)) else outcome
  if name = "config".toList then valued .config
  else if name = "define".toList then valued .define
  else if name = "link-merge".toList then valued .linkMerge
  else if name = "no-color".toList then
    plain (if choices.noColor then .error (.usage (.repeatedOption "--no-color"))
      else .ok (settled { choices with noColor := true }))
  else if name = "verbose".toList then
    plain (.ok (settled { choices with verbosity := choices.verbosity + 1 }))
  else if name = "help".toList then plain (.error (.help place.topic))
  else if name = "version".toList ∧ place.knowsVersion then plain (.error .version)
  else .error (.usage (.unknownOption argument))

/-- Read options by their short names behind one dash. The rest of the argument behind `D` is
its value, with or without an equals sign. -/
def shortOptions (place : OptionPlace) (argument : Text) (choices : Choices) :
    Text → Except Interruption Progress
  | [] => .ok (settled choices)
  | 'v' :: rest =>
      shortOptions place argument { choices with verbosity := choices.verbosity + 1 } rest
  | ['D'] => .ok ⟨choices, some .define⟩
  | 'D' :: '=' :: value => (setValue choices .define value).map settled
  | 'D' :: value => (setValue choices .define value).map settled
  | 'h' :: _ => .error (.help place.topic)
  | 'V' :: _ =>
      .error (if place.knowsVersion then .version else .usage (.unknownOption argument))
  | _ :: _ => .error (.usage (.unknownOption argument))

/-- The forms that an argument can have. -/
inductive Form where
  /-- Two dashes alone: no options follow. -/
  | lastOption
  | long (name : Text) (value : Option Text)
  | short (letters : Text)
  | operand

/-- The form of an argument. A single dash is an operand. -/
def form : Text → Form
  | ['-', '-'] => .lastOption
  | '-' :: '-' :: rest =>
      .long (rest.takeWhile (· != '='))
        (match rest.dropWhile (· != '=') with
          | [] => none
          | _ :: value => some value)
  | ['-'] => .operand
  | '-' :: letters => .short letters
  | _ => .operand

/-- Give a waiting option its value. No value starts with a dash, but a dash alone is one. -/
def answerWaiting (choices : Choices) (option : ValueOption) (argument : Text) :
    Except Interruption Choices :=
  match form argument with
  | .operand => setValue choices option argument
  | _ => .error (.usage (.missingValue option.word))

structure ActionArguments where
  choices : Choices
  file : Option Text

def ActionArguments.takeFile (a : ActionArguments) (argument : Text) :
    Except Interruption ActionArguments :=
  if a.file.isSome then .error (.usage (.unexpectedArgument argument))
  else if argument.isEmpty then .error (.usage (.badValue "FILE" argument))
  else .ok { a with file := some argument }

def actionArguments (place : OptionPlace) :
    ActionArguments → Option ValueOption → List Text → Except Interruption ActionArguments
  | a, none, [] => .ok a
  | _, some option, [] => .error (.usage (.missingValue option.word))
  | a, some option, argument :: rest => do
      let choices ← answerWaiting a.choices option argument
      actionArguments place { a with choices } none rest
  | a, none, argument :: rest =>
      match form argument with
      | .lastOption => rest.foldlM ActionArguments.takeFile a
      | .long name value => do
          let progress ← longOption place a.choices argument name value
          actionArguments place { a with choices := progress.choices } progress.waiting rest
      | .short letters => do
          let progress ← shortOptions place argument a.choices letters
          actionArguments place { a with choices := progress.choices } progress.waiting rest
      | .operand => do actionArguments place (← a.takeFile argument) none rest

def helpTopic : List Text → Interruption
  | [] => .help .program
  | [name] =>
      match Action.ofWord? name with
      | some action => .help (.action action)
      | none => if name = "help".toList then .help .help else .usage (.unknownAction name)
  | _ :: name :: _ => .usage (.unknownAction name)

def fromAction (outer : Choices) (name : Text) (rest : List Text) :
    Except Interruption Invocation :=
  match Action.ofWord? name with
  | some action => do
      let inner ← actionArguments ⟨.action action, false⟩ ⟨.none, none⟩ none rest
      match inner.file with
      | some file => return ⟨action, file, inner.choices.inFrontOf outer⟩
      | none => .error (.usage .missingFile)
  | none => .error (if name = "help".toList then helpTopic rest else .usage (.unknownAction name))

def programPlace : OptionPlace := ⟨.program, true⟩

def readFrom : Choices → Option ValueOption → List Text → Except Interruption Invocation
  | _, none, [] => .error (.usage .missingAction)
  | _, some option, [] => .error (.usage (.missingValue option.word))
  | choices, some option, argument :: rest => do
      readFrom (← answerWaiting choices option argument) none rest
  | choices, none, argument :: rest =>
      match form argument with
      | .lastOption => .error (.usage .missingAction)
      | .long name value => do
          let progress ← longOption programPlace choices argument name value
          readFrom progress.choices progress.waiting rest
      | .short letters => do
          let progress ← shortOptions programPlace argument choices letters
          readFrom progress.choices progress.waiting rest
      | .operand => fromAction choices argument rest

def read (arguments : List Text) : Except Interruption Invocation :=
  readFrom .none none arguments

end Arguments

end Literate
