/-
# Command-line arguments

What the arguments of the program ask for. Options may stand anywhere after the
name of the command; a long one takes its value after an equals sign or as the
next argument, a short one also directly. After two dashes nothing is an option.
Arguments that make no sense are not told apart: there is one answer to all of
them.
-/

namespace NativeLayout.CommandLine

/-- What the program is asked to do. The number of jobs of a check makes no difference to what
it reports. -/
inductive Task
  | check (names : List String) (catalog : Option String) (format : String) (jobs : Option Nat)
      (strict : Bool) (target : Option String)
  | list (catalog : Option String)
  | source (name : String) (catalog : Option String)
  | probe (headers : List String) (target : Option String)
  | toolchain (target : Option String)
deriving DecidableEq, Repr

/-- What the arguments amount to. -/
inductive Request
  | run (task : Task) (verbose : Bool)
  /-- The arguments ask for help or for the version. -/
  | help
  | version
  | misuse
deriving DecidableEq, Repr

/-- The options of the commands. -/
inductive Flag
  | verbose
  | catalog
  | format
  | jobs
  | strictUnknown
  | target
  | help
  | version
deriving DecidableEq, Repr

namespace Flag

/-- The option that a long name stands for. -/
def ofLong? : String → Option Flag
  | "verbose" => some verbose
  | "catalog" => some catalog
  | "format" => some format
  | "jobs" => some jobs
  | "strict-unknown" => some strictUnknown
  | "target" => some target
  | "help" => some help
  | "version" => some version
  | _ => none

/-- The option that a letter stands for. -/
def ofShort? : Char → Option Flag
  | 'v' => some verbose
  | 'j' => some jobs
  | 'h' => some help
  | 'V' => some version
  | _ => none

/-- Whether an option has a value. -/
def takesValue : Flag → Bool
  | catalog | format | jobs | target => true
  | verbose | strictUnknown | help | version => false

end Flag

/-- The names of the commands. -/
inductive CommandName
  | check
  | list
  | source
  | probe
  | toolchain
deriving DecidableEq, Repr

namespace CommandName

/-- The command of a name. -/
def parse? : String → Option CommandName
  | "check" => some check
  | "list" => some list
  | "source" => some source
  | "probe" => some probe
  | "toolchain" => some toolchain
  | _ => none

/-- Whether a command has an option. -/
def allows : CommandName → Flag → Bool
  | _, .verbose | _, .help => true
  | check, .catalog | list, .catalog | source, .catalog => true
  | check, .format | check, .jobs | check, .strictUnknown => true
  | check, .target | probe, .target | toolchain, .target => true
  | _, _ => false

/-- How many operands a command has a place for, if that is limited. -/
def room : CommandName → Option Nat
  | list | toolchain => some 0
  | source => some 1
  | check | probe => none

end CommandName

/-- One argument, taken apart. -/
inductive Token
  | flag (f : Flag)
  | option (f : Flag) (value : String)
  | operand (s : String)
deriving DecidableEq, Repr

/-- A natural number below the limit of a machine word; a plus may stand before it. -/
def natural? (s : String) : Option Nat :=
  let digits := match s.toList with
    | '+' :: rest => rest
    | cs => cs
  if digits.isEmpty || !digits.all Char.isDigit then none
  else
    let n := digits.foldl (fun n c => 10 * n + (c.toNat - 48)) 0
    if n < 18446744073709551616 then some n else none

/-- Whether an argument looks like an option: a dash and something after it. -/
def looksLikeOption (s : String) : Bool :=
  match s.toList with
  | '-' :: _ :: _ => true
  | _ => false

/-- The texts before and after the first equals sign, if there is one. -/
def splitAtEquals (s : List Char) : List Char × Option (List Char) :=
  match s.dropWhile (· != '=') with
  | [] => (s, none)
  | _ :: value => (s.takeWhile (· != '='), some value)

/-- What is left when the options of an argument have been read. -/
inductive Remainder
  | nothing
  /-- The value of an option is still to come. -/
  | value (f : Flag)
  /-- The rest makes no sense. -/
  | nonsense
deriving DecidableEq, Repr

/-- The options that a group of letters stands for. The value of an option may follow its
letter, also after an equals sign; if nothing follows it is still to come. -/
def shortTokens (allowed : Flag → Bool) : List Char → List Token × Remainder
  | [] => ([], .nothing)
  | c :: rest =>
    match (Flag.ofShort? c).filter allowed with
    | none => ([], .nonsense)
    | some f =>
      if f.takesValue then
        match rest with
        | [] => ([], .value f)
        | '=' :: value => ([.option f (String.ofList value)], .nothing)
        | value => ([.option f (String.ofList value)], .nothing)
      else
        let (more, remainder) := shortTokens allowed rest
        (.flag f :: more, remainder)

/-- The option that a long name stands for, with the value that stands beside it. -/
def longTokens (allowed : Flag → Bool) (name : String) (value : Option String) :
    List Token × Remainder :=
  match (Flag.ofLong? name).filter allowed, value with
  | none, _ => ([], .nonsense)
  | some f, none => if f.takesValue then ([], .value f) else ([.flag f], .nothing)
  | some f, some value =>
    if f.takesValue then ([.option f value], .nothing) else ([], .nonsense)

/-- The options that one argument stands for. -/
def optionTokens (allowed : Flag → Bool) (argument : String) : List Token × Remainder :=
  match argument.toList with
  | '-' :: '-' :: long =>
    let (name, value) := splitAtEquals long
    longTokens allowed (String.ofList name) (value.map String.ofList)
  | '-' :: letters => shortTokens allowed letters
  | _ => ([], .nonsense)

/-- The tokens of the arguments after the name of a command, up to the first that makes no
sense, and whether that is all of them. A value that is awaited must not look like an
option. -/
def tokens (allowed : Flag → Bool) : Option Flag → List String → List Token × Bool
  | none, [] => ([], true)
  | some _, [] => ([], false)
  | waiting, argument :: rest =>
    if looksLikeOption argument then
      if waiting.isSome then ([], false)
      else if argument == "--" then (rest.map .operand, true)
      else
        let (found, remainder) := optionTokens allowed argument
        let (more, complete) := match remainder with
          | .nothing => tokens allowed none rest
          | .value f => tokens allowed (some f) rest
          | .nonsense => ([], false)
        (found ++ more, complete)
    else
      let (more, complete) := tokens allowed none rest
      (match waiting with
        | some f => .option f argument :: more
        | none => .operand argument :: more, complete)

/-- The tokens before the first operand for which there is no place. -/
def within (room : Option Nat) : List Token → List Token
  | [] => []
  | .operand s :: rest =>
    if room = some 0 then [] else .operand s :: within (room.map (· - 1)) rest
  | token :: rest => token :: within room rest

/-- The operands among some tokens. -/
def operands (found : List Token) : List String :=
  found.filterMap fun
    | .operand s => some s
    | _ => none

/-- The values of an option among some tokens. -/
def values (found : List Token) (f : Flag) : List String :=
  found.filterMap fun
    | .option g s => if g = f then some s else none
    | _ => none

/-- How often an option stands among some tokens. -/
def occurrences (found : List Token) (f : Flag) : Nat :=
  (found.filter fun
    | .option g _ | .flag g => g == f
    | _ => false).length

/-- Whether every option is given at most once and has a value that makes sense. -/
def wellFormed (found : List Token) : Bool :=
  [Flag.verbose, .catalog, .format, .jobs, .strictUnknown, .target].all
      (occurrences found · ≤ 1) &&
    (values found .catalog).all (· != "") &&
    (values found .jobs).all fun s => (natural? s).isSome

/-- The task of a command with its options and operands. -/
def task? (command : CommandName) (found : List Token) : Option Task :=
  let catalog := (values found .catalog).head?
  let target := (values found .target).head?
  match command, operands found with
  | .check, names =>
    some (.check names catalog ((values found .format).head?.getD "human")
      ((values found .jobs).head?.bind natural?)
      (decide (0 < occurrences found .strictUnknown)) target)
  | .list, [] => some (.list catalog)
  | .source, [name] => some (.source name catalog)
  | .probe, header :: more => some (.probe (header :: more) target)
  | .toolchain, [] => some (.toolchain target)
  | _, _ => none

/-- Whether the options before the first request for help or the version, if there is
one, are well formed; and that request. -/
def asks (found : List Token) : Option Request :=
  let before := found.takeWhile fun t => t != .flag .help && t != .flag .version
  match found.drop before.length with
  | .flag .version :: _ => if wellFormed before then some .version else none
  | .flag .help :: _ => if wellFormed before then some .help else none
  | _ => none

/-- What the arguments after the name of a command ask for. -/
def parseCommand (command : CommandName) (verbose : Bool) (arguments : List String) : Request :=
  let (found, complete) := tokens command.allows none arguments
  match asks (within command.room found) with
  | some request => request
  | none =>
    if complete && wellFormed found then
      match task? command found with
      | some task => .run task (verbose || decide (0 < occurrences found .verbose))
      | none => .misuse
    else .misuse

/-- Whether an option may stand before the name of the command. -/
def allowedFirst : Flag → Bool
  | .verbose | .help | .version => true
  | _ => false

/-- What the arguments after the word for help ask for: help about nothing or about one
command. -/
def helpAbout : List String → Request
  | [] => .help
  | [topic] => if topic == "help" || (CommandName.parse? topic).isSome then .help else .misuse
  | _ => .misuse

/-- What the arguments ask for when some tokens have been read before the command. -/
def parseFrom (found : List Token) : List String → Request
  | [] => (asks found).getD .misuse
  | argument :: rest =>
    if looksLikeOption argument && argument != "--" then
      match optionTokens allowedFirst argument with
      | (more, .nothing) => parseFrom (found ++ more) rest
      | (more, _) => (asks (found ++ more)).getD .misuse
    else
      match asks found, CommandName.parse? argument with
      | some request, _ => request
      | none, some command =>
        if wellFormed found then parseCommand command (!found.isEmpty) rest else .misuse
      | none, none =>
        if argument == "help" && wellFormed found then helpAbout rest else .misuse

/-- What the arguments of the program ask for. -/
def parse (arguments : List String) : Request := parseFrom [] arguments

example : parse ["check", "-vj4", "--format=json", "linger"] =
    .run (.check ["linger"] none "json" (some 4) false none) true := by decide +kernel
example : parse ["probe", "--target", "--", "a.h"] = .misuse := by decide +kernel
example : parse ["list", "x", "-h"] = .misuse ∧ parse ["list", "-h", "x"] = .help := by
  decide +kernel
example : parse ["-vVx"] = .version ∧ parse ["-vxV"] = .misuse := by decide +kernel

end NativeLayout.CommandLine
