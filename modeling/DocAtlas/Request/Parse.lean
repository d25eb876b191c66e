import DocAtlas.Request.Basic

/-! # Reading a command line

* `Request.cluster`, `Request.long` — what an argument with one or with two dashes amounts to
* `Request.parseOptions` — the request that the arguments behind the name of a command make
* `Request.parse` — the request that all arguments make
-/

set_option autoImplicit false

namespace DocAtlas

namespace Request

/-- What one argument that starts with a dash amounts to. -/
inductive Flags where
  | done (options : Options)
  /-- The next argument is the value of an option. -/
  | pending (options : Options) (option : Valued)
  | help
  | rejected

/-- The option with a short or long name. -/
def valued? (kind : Kind) (name : List Char) : Option Valued :=
  if kind.writesReport then
    if name = ['f'] ∨ name = "format".toList then some .format
    else if name = ['o'] ∨ name = "output".toList then some .output
    else none
  else none

/-- An option with a value that was written in the same argument. -/
def attached (options : Options) (option : Valued) (value : List Char) : Flags :=
  match options.set option (String.ofList value) with
  | some options => .done options
  | none => .rejected

/-- The letters behind a single dash. -/
def cluster (kind : Kind) (options : Options) : List Char → Flags
  | [] => .done options
  | c :: rest =>
    if c = 'v' then cluster kind { options with verbosity := options.verbosity + 1 } rest
    else if c = 'h' then .help
    else match valued? kind [c] with
      | none => .rejected
      | some option =>
        match rest with
        | [] => .pending options option
        | '=' :: value => attached options option value
        | value => attached options option value

/-- What stands behind two dashes, cut at its first equals sign. -/
def long (kind : Kind) (options : Options) (s : List Char) : Flags :=
  let name := s.takeWhile (· != '=')
  match valued? kind name, s.dropWhile (· != '=') with
  | some option, [] => .pending options option
  | some option, _ :: value => attached options option value
  | none, [] =>
    if name = "verbose".toList then .done { options with verbosity := options.verbosity + 1 }
    else if name = "help".toList then .help
    else if kind = .contents ∧ name = "respect-toctrees".toList ∧ options.respectToctrees = false then
      .done { options with respectToctrees := true }
    else .rejected
  | none, _ => .rejected

/-- What an argument amounts to, none if it is no flag. A lone dash is none. -/
def flags? (kind : Kind) (options : Options) (arg : String) : Option Flags :=
  match arg.toList with
  | '-' :: '-' :: name => some (long kind options name)
  | '-' :: c :: letters => some (cluster kind options (c :: letters))
  | _ => none

/-- Whether an argument can be the value of the option before it. -/
def canBeValue (arg : String) : Bool := arg = "-" || arg.toList.head? != some '-'

/-- The options with arguments that are no flags any more. -/
def operands (options : Options) (args : List String) : Option Options :=
  args.foldlM Options.setDocs options

/-- The request of a command, `before` being the verbosity asked for in front of its name: what is
asked for behind it counts instead. -/
def finish (before : Nat) (kind : Kind) (options : Options) : Request :=
  .run (if options.verbosity = 0 then before else options.verbosity) (options.command kind)

/-- The request that the arguments behind the name of a command make. -/
def parseOptions (before : Nat) (kind : Kind) (options : Options) : List String → Request
  | [] => finish before kind options
  | arg :: rest =>
    if arg = "--" then
      match operands options rest with
      | some options => finish before kind options
      | none => .rejected
    else match flags? kind options arg with
      | none =>
        match options.setDocs arg with
        | some options => parseOptions before kind options rest
        | none => .rejected
      | some .help => .help
      | some .rejected => .rejected
      | some (.done options) => parseOptions before kind options rest
      | some (.pending options option) =>
        match rest with
        | [] => .rejected
        | value :: rest =>
          if canBeValue value then
            match options.set option value with
            | some options => parseOptions before kind options rest
            | none => .rejected
          else .rejected

/-- What the letters behind a single dash amount to in front of the name of a command: a new
verbosity, or a request. -/
def topCluster (verbosity : Nat) : List Char → Nat ⊕ Request
  | [] => .inl verbosity
  | c :: rest =>
    if c = 'v' then topCluster (verbosity + 1) rest
    else if c = 'V' then .inr .version
    else if c = 'h' then .inr .help
    else .inr .rejected

/-- What an argument in front of the name of a command amounts to, none if it is no flag. -/
def topFlag? (verbosity : Nat) (arg : String) : Option (Nat ⊕ Request) :=
  if arg = "--verbose" then some (.inl (verbosity + 1))
  else if arg = "--version" then some (.inr .version)
  else if arg = "--help" then some (.inr .help)
  else match arg.toList with
    | '-' :: '-' :: _ => some (.inr .rejected)
    | '-' :: c :: letters => some (topCluster verbosity (c :: letters))
    | _ => none

/-- The request that arguments make when more log output was asked for `verbosity` times. -/
def parseFrom (verbosity : Nat) : List String → Request
  | [] => .rejected
  | arg :: rest =>
    match topFlag? verbosity arg with
    | some (.inl verbosity) => parseFrom verbosity rest
    | some (.inr request) => request
    | none =>
      match Kind.ofName? arg with
      | some kind => parseOptions verbosity kind {} rest
      | none =>
        if arg = "help" then
          match rest with
          | [] => .help
          | [name] => if (Kind.ofName? name).isSome || name = "help" then .help else .rejected
          | _ => .rejected
        else .rejected

/-- The request that arguments make. -/
def parse (args : List String) : Request := parseFrom 0 args

end Request

end DocAtlas
