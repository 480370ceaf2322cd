/-!
# Arguments of the command line

Options may stand before and after what they belong to, and `--` ends them. Options of one letter may
be joined. An option that takes a value finds it behind an equals sign or in the next argument, which must not
look like an option itself.
-/

namespace MailQuery.Cli

/-- What the program is asked to do. -/
inductive Command where
  /-- Lists the messages that an expression is true of. -/
  | search (path expression : String) (uids : List String) (database : Option String)
      (memory stack json : Bool)
  /-- Counts them. -/
  | count (path expression : String) (database : Option String)
  /-- Shows the condition that an expression is compiled to. -/
  | compile (expression : String) (stack : Bool)
  /-- Builds the index of a mailbox file. -/
  | index (path : String)
  /-- Writes the summaries of a mailbox file to a database. -/
  | sync (path database : String)
  /-- Shows the settings, or writes them to the configuration file. -/
  | config (write : Bool)
  /-- Writes completions for a shell. -/
  | completions
  /-- Writes a manual page. -/
  | manual
deriving DecidableEq, Repr

/-- What the arguments say. -/
inductive Request where
  /-- A command, and whether indexes are to be built anew. -/
  | run (command : Command) (force : Bool)
  | help
  | version
  /-- The arguments are wrong. -/
  | misuse
deriving DecidableEq, Repr

/-- What an argument or the value of an option may be. -/
inductive ValueKind where
  | text
  /-- A path, which is not empty. -/
  | path
  /-- The name of a shell for which there are completions. -/
  | shell
deriving DecidableEq, Repr

/-- The shells for which there are completions. -/
def shells : List String := ["bash", "elvish", "fish", "powershell", "zsh"]

/-- Whether a value is of a kind. -/
def ValueKind.admits : ValueKind → String → Bool
  | text, _ => true
  | path, value => value != ""
  | shell, value => shells.contains value

/-- What may stand behind the name of a command. -/
structure Shape where
  /-- The arguments that are no options. All of them are needed. -/
  positionals : List ValueKind
  flags : List String
  /-- The options with a value, and whether they may be repeated. -/
  options : List (String × ValueKind × Bool)
deriving DecidableEq, Repr

/-- The arguments behind the name of a command. -/
structure Given where
  positionals : List String
  flags : List String
  options : List (String × String)
deriving DecidableEq, Repr

namespace Given

/-- No arguments. -/
def none : Given := ⟨[], [], []⟩

/-- The values of an option. -/
def values (g : Given) (name : String) : List String :=
  (g.options.filter (·.1 == name)).map (·.2)

/-- Whether a flag is given. -/
def has (g : Given) (name : String) : Bool := g.flags.contains name

/-- The arguments with one more flag, which may be given once but for the one that counts. -/
def addFlag (g : Given) (name : String) : Option Given :=
  if g.has name && name != "verbose" then Option.none else some { g with flags := g.flags ++ [name] }

/-- The arguments with one more option. -/
def addOption (g : Given) (name value : String) (kind : ValueKind) (repeats : Bool) :
    Option Given :=
  if kind.admits value && (repeats || (g.values name).isEmpty) then
    some { g with options := g.options ++ [(name, value)] }
  else Option.none

/-- The arguments with one more that is no option. -/
def addPositional (g : Given) (shape : Shape) (value : String) : Option Given :=
  if (shape.positionals[g.positionals.length]?).any (·.admits value) then
    some { g with positionals := g.positionals ++ [value] }
  else Option.none

end Given

/-- What comes of reading some arguments. -/
inductive Outcome (α : Type) where
  | done (value : α)
  | help
  | version
  | misuse
deriving Repr

/-- The flags that stand before the name of a command as well as behind it. -/
def globalFlags : List String := ["force", "verbose"]

/-- The flag of a letter. -/
def flagOfLetter? : Char → Option String
  | 'f' => some "force"
  | 'v' => some "verbose"
  | _ => Option.none

/-- Reads flags of one letter that are joined. -/
def readLetters (hasVersion : Bool) : Given → List Char → Outcome Given
  | g, [] => .done g
  | g, c :: cs =>
    if c = 'h' then .help
    else if c = 'V' ∧ hasVersion then .version
    else
      match (flagOfLetter? c).bind g.addFlag with
      | some g => readLetters hasVersion g cs
      | Option.none => .misuse

/-- The name of an option and the value behind its equals sign. -/
def splitOption (cs : List Char) : String × Option String :=
  let name := cs.takeWhile (· != '=')
  (String.ofList name,
    if name.length < cs.length then some (String.ofList (cs.drop (name.length + 1))) else Option.none)

/-- Whether an argument looks like an option. -/
def isOption (arg : String) : Bool := arg.toList.head? == some '-' && arg.length != 1

/-- Reads the arguments behind the name of a command. -/
def readGiven (shape : Shape) (g : Given) : List String → Outcome Given
  | [] => .done g
  | arg :: rest =>
    match arg.toList with
    | '-' :: '-' :: [] =>
      match rest.foldl (fun g? value => g?.bind (·.addPositional shape value)) (some g) with
      | some g => .done g
      | Option.none => .misuse
    | '-' :: '-' :: cs =>
      match splitOption cs with
      | (name, Option.none) =>
        if name == "help" then .help
        else if globalFlags.contains name || shape.flags.contains name then
          match g.addFlag name with
          | some g => readGiven shape g rest
          | Option.none => .misuse
        else
          match shape.options.lookup name, rest with
          | some (kind, repeats), value :: rest =>
            if isOption value then .misuse
            else
              match g.addOption name value kind repeats with
              | some g => readGiven shape g rest
              | Option.none => .misuse
          | _, _ => .misuse
      | (name, some value) =>
        match (shape.options.lookup name).bind fun (kind, repeats) =>
            g.addOption name value kind repeats with
        | some g => readGiven shape g rest
        | Option.none => .misuse
    | '-' :: c :: cs =>
      match readLetters false g (c :: cs) with
      | .done g => readGiven shape g rest
      | .help => .help
      | .version => .version
      | .misuse => .misuse
    | _ =>
      match g.addPositional shape arg with
      | some g => readGiven shape g rest
      | Option.none => .misuse

/-- The option that names a database. -/
def databaseOption : String × ValueKind × Bool := ("db", .path, false)

/-- What may stand behind the name of each command. -/
def shapes : List (String × Shape) :=
  [("search",
      ⟨[.path, .text], ["memory", "legacy", "json"], [("uid", .text, true), databaseOption]⟩),
   ("count", ⟨[.path, .text], [], [databaseOption]⟩),
   ("compile", ⟨[.text], ["legacy"], []⟩),
   ("index", ⟨[.path], [], []⟩),
   ("sync", ⟨[.path], [], [databaseOption]⟩),
   ("config", ⟨[], ["write"], []⟩),
   ("completions", ⟨[.shell], [], []⟩),
   ("manpage", ⟨[], [], []⟩)]

/-- The database of a command, if one is given. -/
def Given.database? (g : Given) : Option String := (g.values "db").head?

/-- The command of a name with its arguments. -/
def command? (name : String) (g : Given) : Option Command :=
  match name, g.positionals with
  | "search", [path, expression] =>
    some (.search path expression (g.values "uid") g.database? (g.has "memory") (g.has "legacy")
      (g.has "json"))
  | "count", [path, expression] => some (.count path expression g.database?)
  | "compile", [expression] => some (.compile expression (g.has "legacy"))
  | "index", [path] => some (.index path)
  | "sync", [path] => g.database?.map (.sync path)
  | "config", [] => some (.config (g.has "write"))
  | "completions", [_] => some .completions
  | "manpage", [] => some .manual
  | _, _ => none

/-- Reads the arguments of `help`: the name of a command, or nothing. -/
def readHelp : List String → Request
  | [] => .help
  | [name] => if name = "help" || (shapes.lookup name).isSome then .help else .misuse
  | _ => .misuse

/-- Reads the arguments of the program, of which the flags before the command are `g`. -/
def readFrom (g : Given) : List String → Request
  | [] => .misuse
  | arg :: rest =>
    match arg.toList with
    | '-' :: '-' :: cs =>
      match String.ofList cs with
      | "help" => .help
      | "version" => .version
      | name =>
        if globalFlags.contains name then
          match g.addFlag name with
          | some g => readFrom g rest
          | none => .misuse
        else .misuse
    | '-' :: c :: cs =>
      match readLetters true g (c :: cs) with
      | .done g => readFrom g rest
      | .help => .help
      | .version => .version
      | .misuse => .misuse
    | _ =>
      if arg = "help" then readHelp rest
      else
        match shapes.lookup arg with
        | none => .misuse
        | some shape =>
          match readGiven shape .none rest with
          | .done given =>
            match command? arg given with
            | some c => .run c (g.has "force" || given.has "force")
            | none => .misuse
          | .help => .help
          | .version => .version
          | .misuse => .misuse

/-- Reads the arguments of the program. -/
def Request.ofArguments (args : List String) : Request := readFrom .none args

end MailQuery.Cli
