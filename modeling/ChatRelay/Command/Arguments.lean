import ChatRelay.Text.Search

/-!
# Reading a command line

A command line is a path of command names with switches and operands. Every
command of the tree (`Node`) says which switches and operands it has, and what
must be given. `Level.read` reads the arguments of one command and of the
command below it, and reports the first error.

A switch with a value takes it from the same argument or from the next one.
Such a value is only checked when the switch is complete, which is why another
error may come first.
-/

namespace ChatRelay.Command

/-- Why a command line is not carried out. -/
inductive UsageError where
  | displayHelp
  | displayVersion
  /-- Help is shown because nothing was given. -/
  | displayHelpOnMissing
  | missingSubcommand
  | invalidSubcommand
  | unknownArgument
  /-- A switch comes without its value. -/
  | invalidValue
  /-- A value is not of the right form. -/
  | valueValidation
  /-- A switch is given twice. -/
  | argumentConflict
  | missingRequiredArgument
  /-- A switch that takes no value is given one. -/
  | tooManyValues
  deriving DecidableEq, Repr

/-- The name of an error for programs. -/
def UsageError.name : UsageError → String
  | .displayHelp => "DisplayHelp"
  | .displayVersion => "DisplayVersion"
  | .displayHelpOnMissing => "DisplayHelpOnMissingArgumentOrSubcommand"
  | .missingSubcommand => "MissingSubcommand"
  | .invalidSubcommand => "InvalidSubcommand"
  | .unknownArgument => "UnknownArgument"
  | .invalidValue => "InvalidValue"
  | .valueValidation => "ValueValidation"
  | .argumentConflict => "ArgumentConflict"
  | .missingRequiredArgument => "MissingRequiredArgument"
  | .tooManyValues => "TooManyValues"

/-- The exit code of the program. -/
def UsageError.exitCode : UsageError → Nat
  | .displayHelp => 0
  | .displayVersion => 0
  | _ => 2

/-- What a switch does. -/
inductive SwitchKind where
  | flag
  /-- Counts how often it is given, up to 255. -/
  | counter
  /-- Takes a value of this form. -/
  | value (isValid : String → Bool)
  | help
  | version

/-- A switch with its long name and perhaps a letter. -/
structure Switch where
  name : String
  letter : Option Char := none
  kind : SwitchKind := .flag

/-- The commands of the program. -/
inductive Node where
  | root
  | serve
  | key
  | keyCreate
  | ask
  | sessions
  | sessionsList
  deriving DecidableEq, Repr

namespace Node

/-- The commands below a command, with all their names. -/
def children : Node → List (String × Node)
  | .root => [("serve", .serve), ("key", .key), ("ask", .ask), ("sessions", .sessions)]
  | .key => [("create", .keyCreate)]
  | .sessions => [("list", .sessionsList), ("ls", .sessionsList)]
  | _ => []

/-- A number between bounds, with a sign or without one. -/
def isPort (s : String) : Bool :=
  let (negative, ds) := match s.toList with
    | '+' :: ds => (false, ds)
    | '-' :: ds => (true, ds)
    | ds => (false, ds)
  let n := ds.foldl (fun n c => n * 10 + (c.toNat - 48)) 0
  !ds.isEmpty && ds.all Char.isDigit && (if negative then n == 0 else n < Nat.pow 2 16)

/-- The switches that every command has. -/
def commonSwitches : List Switch :=
  [{ name := "json" }, { name := "quiet" },
    { name := "verbose", letter := some 'v', kind := .counter }, { name := "otel" },
    { name := "help", letter := some 'h', kind := .help },
    { name := "version", letter := some 'V', kind := .version }]

/-- A switch that takes any value. -/
def anyValue (name : String) : Switch :=
  { name, kind := .value fun _ => true }

def ownSwitches : Node → List Switch
  | .serve => [{ name := "port", letter := some 'p', kind := .value isPort }, anyValue "host"]
  | .keyCreate => [anyValue "user", anyValue "name"]
  | .ask => [anyValue "user", anyValue "session"]
  | .sessionsList => [anyValue "user"]
  | _ => []

def switches (n : Node) : List Switch :=
  n.ownSwitches ++ commonSwitches

/-- The operands, in order. -/
def operands : Node → List String
  | .ask => ["message"]
  | _ => []

/-- The switches and operands that must be given. -/
def required : Node → List String
  | .keyCreate => ["user"]
  | .ask => ["user", "message"]
  | .sessionsList => ["user"]
  | _ => []

/-- A command that has commands below it has one that shows help. -/
def helpName : String := "help"

/-- Whether help can be shown for the command at a path below this one. -/
def helpFor : Node → List String → UsageError
  | _, [] => .displayHelp
  | n, name :: path =>
    match n.children.lookup name with
    | some child => child.helpFor path
    | none =>
      if name = helpName ∧ n.children ≠ [] ∧ path = [] then .displayHelp else .invalidSubcommand

end Node

/-- What was given to one command. -/
structure Given where
  /-- How often each switch without a value was given. -/
  counts : List (String × Nat) := []
  /-- The values of switches and operands. -/
  values : List (String × String) := []
  deriving Repr

/-- What was given on a command line: the last command, and what each command on the way to it and
it itself was given. -/
structure CommandLine where
  node : Node
  given : List Given

/-- How far the arguments of one command have been read. -/
structure Level where
  node : Node
  given : Given := {}
  /-- The switch whose value is not complete, with the value if it has come. -/
  pending : Option (Switch × Option String) := none
  /-- The switch has no value yet and takes the next argument. -/
  wantsValue : Bool := false
  /-- How many operands were given. -/
  operandsGiven : Nat := 0
  /-- Only operands follow. -/
  trailing : Bool := false

namespace Level

/-- Keeps the value of a switch or an operand. -/
def keep (l : Level) (name value : String) : Level :=
  { l with given.values := l.given.values ++ [(name, value)] }

/-- Completes a switch with a value. -/
def complete (l : Level) (s : Switch) (value : String) : Except UsageError Level :=
  if (l.given.values.lookup s.name).isSome then .error .argumentConflict
  else
    match s.kind with
    | .value isValid =>
      if isValid value then .ok (l.keep s.name value) else .error .valueValidation
    | _ => .ok l

/-- Completes the switch that was left open. -/
def settle (l : Level) : Except UsageError Level :=
  match l.pending with
  | none => .ok l
  | some (_, none) => .error .invalidValue
  | some (s, some value) => { l with pending := none, wantsValue := false }.complete s value

/-- Carries out a switch that takes no value. -/
def turnOn (l : Level) (s : Switch) : Except UsageError Level := do
  let l ← l.settle
  let count := (l.given.counts.lookup s.name).getD 0
  let counted (n : Nat) : Level :=
    { l with given.counts := (s.name, n) :: l.given.counts.filter (·.1 != s.name) }
  match s.kind with
  | .flag => if 0 < count then .error .argumentConflict else .ok (counted 1)
  | .counter => .ok (counted (min (count + 1) 255))
  | .help => .error .displayHelp
  | .version => .error .displayVersion
  | .value _ => .ok l

/-- A switch that takes a value, with the value that stands in the same argument, if one does. -/
def beginValue (l : Level) (s : Switch) (attached : Option String) : Except UsageError Level := do
  let l ← l.settle
  match attached with
  | some value => l.complete s value
  | none => .ok { l with pending := some (s, none), wantsValue := true }

/-- An argument that begins with two hyphens. -/
def readLong (l : Level) (cs : List Char) : Except UsageError Level :=
  let name := String.ofList (cs.takeWhile (· != '='))
  let attached := match cs.dropWhile (· != '=') with
    | [] => none
    | _ :: value => some (String.ofList value)
  match l.node.switches.find? (·.name == name) with
  | none => .error .unknownArgument
  | some s =>
    match s.kind, attached with
    | .value _, attached => l.beginValue s attached
    | _, none => l.turnOn s
    | _, some _ => .error .tooManyValues

/-- An argument of letters behind a hyphen. A letter whose switch takes a value takes the rest. -/
def readLetters (l : Level) : List Char → Except UsageError Level
  | [] => .ok l
  | c :: cs =>
    match l.node.switches.find? (·.letter == some c) with
    | none => .error .unknownArgument
    | some s =>
      match s.kind with
      | .value _ =>
        match cs with
        | [] => l.beginValue s none
        | '=' :: value => l.beginValue s (some (String.ofList value))
        | value => l.beginValue s (some (String.ofList value))
      | _ => do readLetters (← l.turnOn s) cs

/-- An argument that is no switch and no command. -/
def readOperand (l : Level) (arg : String) : Except UsageError Level :=
  match l.node.operands[l.operandsGiven]? with
  | some name => do
    let l ← l.settle
    return { l.keep name arg with operandsGiven := l.operandsGiven + 1 }
  | none =>
    if l.trailing ∧ ((l.node.children.lookup arg).isSome ∨
        (l.node.children ≠ [] ∧ arg = Node.helpName)) then .error .unknownArgument
    else if l.node.children ≠ [] then .error .invalidSubcommand
    else .error .unknownArgument

/-- An argument that names no command. -/
def readArgument (l : Level) (arg : String) : Except UsageError Level :=
  if l.trailing then l.readOperand arg
  else
    match arg.toList with
    | ['-', '-'] => .ok { l with trailing := true, wantsValue := false }
    | '-' :: '-' :: cs => l.readLong cs
    | '-' :: c :: cs => l.readLetters (c :: cs)
    | _ =>
      if l.wantsValue then
        .ok { l with pending := l.pending.map fun (s, _) => (s, some arg), wantsValue := false }
      else l.readOperand arg

/-- The end of the arguments of a command that names no command below it. -/
def finish (l : Level) : Except UsageError Given := do
  let l ← l.settle
  if l.node.children ≠ [] then
    if l.given.counts.isEmpty then .error .displayHelpOnMissing else .error .missingSubcommand
  else if l.node.required.all fun name => (l.given.values.lookup name).isSome then .ok l.given
  else .error .missingRequiredArgument

/-- Reads the arguments of a command and of the commands below it. -/
def read (l : Level) : List String → Except UsageError CommandLine
  | [] => do return { node := l.node, given := [← l.finish] }
  | arg :: args =>
    let child := if l.trailing ∨ l.wantsValue then none else l.node.children.lookup arg
    match child with
    | some node => do
      let line ← read { node } args
      return { line with given := l.given :: line.given }
    | none =>
      if !l.trailing ∧ !l.wantsValue ∧ l.node.children ≠ [] ∧ arg = Node.helpName then
        .error (l.node.helpFor args)
      else do read (← l.readArgument arg) args

end Level

end ChatRelay.Command
