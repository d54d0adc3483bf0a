import PubSub.Text.Numeral

/-!
# Command arguments

What the arguments of the command line ask for: to publish a text a number of times, or to follow a
topic and print what it delivers.

The first argument names the command; options follow in any order.  An option is given by its word
behind two dashes or by its letter behind one, and letters can share a dash.  A value is the next
argument, or it is attached: behind an equals sign, or directly behind a letter.  A value that
stands alone cannot begin with a dash unless the dash is all of it.  No option can be given twice,
and nothing can be given that is neither an option nor the value of one.  Arguments are read from
left to right, and the first fault, or the first request for help, is what counts.
-/

namespace PubSub

/-- Publishing a text a number of times. -/
structure PublishJob where
  cache : String
  topic : String
  message : String
  count : UInt32 := 1
  deriving DecidableEq, Repr

/-- Following a topic and printing what it delivers. -/
structure FollowJob where
  cache : String
  topic : String
  /-- The number of items after which to stop. -/
  limit : Option UInt64 := none
  /-- The number of the first item wanted; without it the live end of the topic. -/
  resumeAt : Option UInt64 := none
  /-- Whether gaps and heartbeats are printed as well. -/
  verbose : Bool := false
  deriving DecidableEq, Repr

/-- What the command line asks for. -/
inductive Command where
  | publish (job : PublishJob)
  | follow (job : FollowJob)
  deriving DecidableEq, Repr

namespace Command

/-- Why arguments are no command. -/
inductive Stop where
  | help
  | refused
  deriving DecidableEq, Repr

/-! ## Values -/

/-- Reads a count of thirty-two bits.  A minus sign is allowed in front of zero. -/
def readCount? (text : String) : Option UInt32 :=
  match text.toList with
  | '-' :: d :: rest => ((Text.readDigits 1 0 (d :: rest)).toOption).map UInt32.ofNat
  | digits => ((Text.readNumeral Text.wordBound digits).toOption).map UInt32.ofNat

/-- Reads a number of sixty-four bits. -/
def readNumber? (text : String) : Option UInt64 :=
  ((Text.readNumeral Text.longBound text.toList).toOption).map UInt64.ofNat

/-! ## Options -/

/-- What stands behind an option. -/
inductive ValueKind where
  /-- Nothing: the option is there or not. -/
  | nothing
  | text
  | count
  | number
  deriving DecidableEq, Repr

/-- Whether a text is a value of some kind. -/
def ValueKind.accepts : ValueKind → String → Bool
  | nothing, _ | text, _ => true
  | count, value => (readCount? value).isSome
  | number, value => (readNumber? value).isSome

/-- An option of a command. -/
structure Choice where
  word : String
  letter : Option Char
  kind : ValueKind := .text
  deriving DecidableEq, Repr

def cacheChoice : Choice := ⟨"cache", some 'c', .text⟩
def topicChoice : Choice := ⟨"topic", some 't', .text⟩
def messageChoice : Choice := ⟨"message", some 'm', .text⟩
def countChoice : Choice := ⟨"count", some 'n', .count⟩
def limitChoice : Choice := ⟨"limit", some 'l', .number⟩
def resumeChoice : Choice := ⟨"resume-at", none, .number⟩
def verboseChoice : Choice := ⟨"verbose", some 'v', .nothing⟩

/-- The options of publishing. -/
def publishChoices : List Choice := [cacheChoice, topicChoice, messageChoice, countChoice]

/-- The options of following. -/
def followChoices : List Choice :=
  [cacheChoice, topicChoice, limitChoice, resumeChoice, verboseChoice]

/-- The word of the option that asks for help. -/
def helpWord : String := "help"

/-- The letter of the option that asks for help. -/
def helpLetter : Char := 'h'

/-! ## Reading -/

/-- What has been read of the arguments. -/
structure Reading where
  /-- The options so far and their values. -/
  given : List (Choice × String) := []
  /-- The option whose value is the next argument. -/
  pending : Option Choice := none
  /-- Whether the mark that ends the options has been read. -/
  ended : Bool := false

namespace Reading

/-- The value of an option, if it was given. -/
def value? (r : Reading) (choice : Choice) : Option String := r.given.lookup choice

/-- Takes an option with its value. -/
def give (r : Reading) (choice : Choice) (value : String) : Except Stop Reading :=
  if (r.value? choice).isSome || !choice.kind.accepts value then .error .refused
  else .ok { r with given := r.given ++ [(choice, value)], pending := none }

/-- Reads an argument behind two dashes. -/
def readWord (choices : List Choice) (r : Reading) (body : List Char) : Except Stop Reading :=
  let word := String.ofList (body.takeWhile (· != '='))
  let attached := body.dropWhile (· != '=')
  if word = helpWord then .error (if attached.isEmpty then .help else .refused)
  else
    match choices.find? (·.word == word) with
    | none => .error .refused
    | some choice =>
      if choice.kind = .nothing then
        if attached.isEmpty then r.give choice "" else .error .refused
      else if attached.isEmpty then .ok { r with pending := some choice }
      else r.give choice (String.ofList attached.tail)

/-- Reads the letters behind one dash. -/
def readLetters (choices : List Choice) (r : Reading) : List Char → Except Stop Reading
  | [] => .ok r
  | letter :: rest =>
    if letter = helpLetter then .error .help
    else
      match choices.find? (·.letter == some letter) with
      | none => .error .refused
      | some choice =>
        if choice.kind = .nothing then
          match r.give choice "" with
          | .ok r => readLetters choices r rest
          | .error stop => .error stop
        else
          match rest with
          | [] => .ok { r with pending := some choice }
          | '=' :: value => r.give choice (String.ofList value)
          | value => r.give choice (String.ofList value)

def read (choices : List Choice) (r : Reading) (argument : String) : Except Stop Reading :=
  if r.ended then .error .refused
  else
    match r.pending, argument.toList with
    | some _, '-' :: _ :: _ => .error .refused
    | some choice, _ => r.give choice argument
    | none, ['-', '-'] => .ok { r with ended := true }
    | none, '-' :: '-' :: body => readWord choices r body
    | none, '-' :: letter :: rest => readLetters choices r (letter :: rest)
    | none, _ => .error .refused

/-- Reads all arguments of a command. -/
def readAll (choices : List Choice) (arguments : List String) : Except Stop Reading := do
  let r ← arguments.foldlM (read choices) {}
  if r.pending.isSome then .error .refused else .ok r

/-- The value of an option that has to be given. -/
def require (r : Reading) (choice : Choice) : Except Stop String :=
  match r.value? choice with
  | some value => .ok value
  | none => .error .refused

end Reading

def readPublish (arguments : List String) : Except Stop PublishJob := do
  let r ← Reading.readAll publishChoices arguments
  let cache ← r.require cacheChoice
  let topic ← r.require topicChoice
  let message ← r.require messageChoice
  .ok { cache, topic, message, count := ((r.value? countChoice).bind readCount?).getD 1 }

def readFollow (arguments : List String) : Except Stop FollowJob := do
  let r ← Reading.readAll followChoices arguments
  let cache ← r.require cacheChoice
  let topic ← r.require topicChoice
  .ok
    { cache, topic
      limit := (r.value? limitChoice).bind readNumber?
      resumeAt := (r.value? resumeChoice).bind readNumber?
      verbose := (r.value? verboseChoice).isSome }

/-- Whether help can be given on what these arguments name: nothing, one of the commands, or help
itself. -/
def helpTopic (arguments : List String) : Bool :=
  [[], ["publish"], ["subscribe"], [helpWord]].contains arguments

/-- The command that all arguments together ask for. -/
def ofArguments : List String → Except Stop Command
  | [] => .error .refused
  | name :: arguments =>
    if name = "publish" then (readPublish arguments).map .publish
    else if name = "subscribe" then (readFollow arguments).map .follow
    else if name = helpWord then .error (if helpTopic arguments then .help else .refused)
    else if name = "--" ++ helpWord || name.startsWith ("-" ++ helpLetter.toString) then
      .error .help
    else .error .refused

end Command

end PubSub
