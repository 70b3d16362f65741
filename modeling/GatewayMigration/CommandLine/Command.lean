/-!
# Commands

The arguments of the program are read into a command. An option takes its value from the same
argument or from the next one, and the option for providers takes all the next ones up to the next
option.

## Main definitions

* `Command`: what the arguments ask for
* `Command.ofArguments?`: the command of arguments, `none` if they make none
-/

namespace GatewayMigration

/-- The formats of the output. -/
inductive OutputFormat where
  | yaml
  | json
  deriving DecidableEq, Inhabited, Repr

/-- What to convert, and how to print it. -/
structure PrintRequest where
  providers : List String
  /-- The manifest to read; none asks for the cluster. -/
  inputFile : Option String
  /-- The namespace to read; none asks for all of them. -/
  ns : Option String
  format : OutputFormat
  deriving DecidableEq, Inhabited, Repr

/-- What the arguments ask for. -/
inductive Command where
  | print (request : PrintRequest)
  | version
  | usage
  deriving DecidableEq, Inhabited, Repr

namespace Command

/-- The options that take a value. -/
inductive ValueOption where
  | providers
  | inputFile
  | inNamespace
  | output
  deriving DecidableEq, Repr

/-- The options that are given or not. -/
inductive Switch where
  | logJson
  | allNamespaces
  deriving DecidableEq, Repr

/-- What the arguments so far say. -/
structure Draft where
  providers : List String
  inputFile : Option String
  ns : Option String
  format : Option OutputFormat
  switches : List Switch
  /-- The option that the next argument may be a value of, and whether it has one already. -/
  pending : Option (ValueOption × Bool)
  deriving Repr

/-- Reading arguments may end early: with a command, or without one. -/
abbrev Step := Except (Option Command)

/-- The arguments make no command. -/
def refuse {α : Type} : Step α := .error none

namespace Draft

/-- Nothing is said yet. -/
def blank : Draft := ⟨[], none, none, none, [], none⟩

/-- Begin with an option; the one before it has to have its value. -/
def begin (d : Draft) : Step Draft :=
  if d.pending.any fun p => !p.2 then refuse else .ok { d with pending := none }

/-- Give an option its value. Only providers may be given several times, or several at once. -/
def assign (d : Draft) (o : ValueOption) (v : String) : Step Draft :=
  match o with
  | .providers =>
    .ok { d with providers := d.providers ++ (v.toList.splitOn ',').map String.ofList }
  | .inputFile =>
    if d.inputFile.isSome || v.isEmpty then refuse else .ok { d with inputFile := some v }
  | .inNamespace => if d.ns.isSome then refuse else .ok { d with ns := some v }
  | .output =>
    match d.format, v with
    | none, "yaml" => .ok { d with format := some .yaml }
    | none, "json" => .ok { d with format := some .json }
    | _, _ => refuse

/-- An option with the value that stands in the same argument, or else in the next one. -/
def option (d : Draft) (o : ValueOption) : Option String → Step Draft
  | some v => do (← d.begin).assign o v
  | none => do return { ← d.begin with pending := some (o, false) }

/-- An option without a value, which may be given once. -/
def switch (d : Draft) (s : Switch) : Step Draft := do
  let d ← d.begin
  if d.switches.contains s then refuse else .ok { d with switches := s :: d.switches }

/-- An option by its long name. -/
def long (d : Draft) (name : String) (value : Option String) : Step Draft :=
  match name, value with
  | "providers", v => d.option .providers v
  | "input-file", v => d.option .inputFile v
  | "namespace", v => d.option .inNamespace v
  | "output", v => d.option .output v
  | "all-namespaces", none => d.switch .allNamespaces
  | "log-json", none => d.switch .logJson
  | "help", none => do
    let _ ← d.begin
    .error (some .usage)
  | _, _ => refuse

/-- The value that follows the letter of an option, if one does; an equals sign may stand
between. -/
def attached : List Char → Option String
  | [] => none
  | '=' :: cs => some (String.ofList cs)
  | cs => some (String.ofList cs)

/-- Options by their letters. -/
def short (d : Draft) : List Char → Step Draft
  | [] => .ok d
  | 'A' :: cs => do (← d.switch .allNamespaces).short cs
  | 'n' :: cs => d.option .inNamespace (attached cs)
  | 'o' :: cs => d.option .output (attached cs)
  | 'h' :: _ => do
    let _ ← d.begin
    .error (some .usage)
  | _ => refuse

/-- An argument that is no option: a value of the option before it. -/
def operand (d : Draft) (v : String) : Step Draft :=
  match d.pending with
  | none => refuse
  | some (o, _) => do
    let d ← d.assign o v
    return { d with pending := if o = .providers then some (o, true) else none }

/-- The name and the value of an option whose value follows an equals sign. -/
def splitValue (cs : List Char) : String × Option String :=
  let name := cs.takeWhile (· != '=')
  (String.ofList name, ((cs.drop name.length).tail?).map String.ofList)

/-- The next argument. -/
def next (d : Draft) (argument : String) : Step Draft :=
  match argument.toList with
  | '-' :: '-' :: cs =>
    let (name, value) := splitValue cs
    d.long name value
  | '-' :: c :: cs => d.short (c :: cs)
  | _ => d.operand argument

/-- The request of all arguments. Providers have to be given, and a namespace only where not all of
them are asked for. -/
def request? (d : Draft) : Option PrintRequest :=
  let all := d.switches.contains .allNamespaces
  if d.pending.any (fun p => !p.2) || d.providers.isEmpty || (all && d.ns.isSome) then none
  else some ⟨d.providers, d.inputFile, d.ns, d.format.getD .yaml⟩

end Draft

/-- The arguments after the name of the command. Two dashes end the options; nothing may follow. -/
def printArguments (d : Draft) : List String → Option Command
  | [] => d.request?.map .print
  | "--" :: rest => if rest.isEmpty then d.request?.map .print else none
  | argument :: rest =>
    match d.next argument with
    | .ok d => printArguments d rest
    | .error answer => answer

/-- The arguments in front of the name of the command. -/
def programArguments (logJson : Bool) : List String → Option Command
  | "print" :: rest => printArguments .blank rest
  | "help" :: rest => if [[], ["print"], ["help"]].contains rest then some .usage else none
  | "--log-json" :: rest => if logJson then none else programArguments true rest
  | "--version" :: _ => some .version
  | "--help" :: _ => some .usage
  | argument :: _ =>
    match argument.toList with
    | '-' :: 'V' :: _ => some .version
    | '-' :: 'h' :: _ => some .usage
    | _ => none
  | [] => none

/-- The command of the arguments of the program. -/
def ofArguments? (arguments : List String) : Option Command := programArguments false arguments

end Command

end GatewayMigration
