import ApiScaffold.Generate

/-!
The command line. Every setting is an option with a value, which stands behind it or behind an equals
sign; none may be given twice, and two of them have to be given.
-/

namespace ApiScaffold.CommandLine

inductive Setting where
  | swaggerAddress
  | package
  | path
  | componentsPackage
  | componentsPath
deriving DecidableEq, Repr

namespace Setting

def all : List Setting := [swaggerAddress, package, path, componentsPackage, componentsPath]

def word : Setting → String
  | swaggerAddress => "swagger-addr"
  | package => "package"
  | path => "path"
  | componentsPackage => "componentsPackage"
  | componentsPath => "componentsPath"

def placeholder : Setting → String
  | swaggerAddress => "SWAGGER_ADDR"
  | package => "PACKAGE"
  | path => "PATH"
  | componentsPackage => "COMPONENTS_PACKAGE"
  | componentsPath => "COMPONENTS_PATH"

def explanation : Setting → String
  | swaggerAddress => "Path or URL of the OpenAPI document [default: swagger.yaml]"
  | package => "Package of the generated router"
  | path => "Directory the router is written to"
  | componentsPackage => "Package of the generated components; defaults to `--package`"
  | componentsPath => "Directory the components are written to; defaults to `--path`"

/-- Directories have a name. -/
def admits (value : String) : Setting → Bool
  | path => !value.isEmpty
  | componentsPath => !value.isEmpty
  | _ => true

end Setting

inductive UsageError where
  | unexpected (argument : String)
  | valueMissing (setting : Setting)
  | valueNotTaken (argument : String)
  | givenTwice (setting : Setting)
  | settingMissing (setting : Setting)
deriving DecidableEq, Repr

namespace UsageError

def message : UsageError → String
  | unexpected argument => s!"unexpected argument '{argument}' found"
  | valueMissing setting => s!"a value is required for '--{setting.word}'"
  | valueNotTaken argument => s!"'{argument}' takes no value"
  | givenTwice setting => s!"'--{setting.word}' cannot be used multiple times"
  | settingMissing setting => s!"'--{setting.word}' was not provided"

end UsageError

inductive Request where
  | generate (config : Config)
  | version
  | help
deriving DecidableEq, Repr

abbrev Given := List (Setting × String)

namespace Given

def value? (given : Given) (setting : Setting) : Option String := given.lookup setting

def add (given : Given) (setting : Setting) (value : String) : Except UsageError Given :=
  if !setting.admits value then .error (.valueMissing setting)
  else if (given.value? setting).isSome then .error (.givenTwice setting)
  else .ok ((setting, value) :: given)

/-- The request, once every argument is read. -/
def request (given : Given) : Except UsageError Request :=
  match given.value? .package, given.value? .path with
  | some package, some path => .ok (.generate {
      swaggerAddress := (given.value? .swaggerAddress).getD "swagger.yaml"
      package
      path
      componentsPackage := given.value? .componentsPackage
      componentsPath := given.value? .componentsPath })
  | none, _ => .error (.settingMissing .package)
  | _, none => .error (.settingMissing .path)

end Given

inductive Argument where
  /-- The end of all options. -/
  | stop
  | long (name : String) (value : Option String)
  | short (letters : List Char)
  | plain (text : String)
deriving DecidableEq, Repr

namespace Argument

def ofLong (text : List Char) : Argument :=
  let name := Text.firstPiece (· == '=') text
  match text.drop name.length with
  | [] => long (String.ofList name) none
  | _ :: value => long (String.ofList name) (some (String.ofList value))

def ofString (text : String) : Argument :=
  match text.toList with
  | ['-', '-'] => stop
  | '-' :: '-' :: rest => ofLong rest
  | '-' :: letter :: letters => short (letter :: letters)
  | _ => plain text

end Argument

def plainRequest? : Argument → Option Request
  | .long "version" none => some .version
  | .long "help" none => some .help
  | .short ('V' :: _) => some .version
  | .short ('h' :: _) => some .help
  | _ => none

def refusal (text : String) : Argument → UsageError
  | .long "version" _ => .valueNotTaken "--version"
  | .long "help" _ => .valueNotTaken "--help"
  | _ => .unexpected text

/-- The setting that an argument names, with the value behind an equals sign. -/
def setting? : Argument → Option (Setting × Option String)
  | .long name value => (Setting.all.find? (·.word == name)).map (·, value)
  | _ => none

/-- Reads arguments one after another; the first that cannot be understood decides. -/
def parse (given : Given) : List String → Except UsageError Request
  | [] => given.request
  | text :: rest =>
    let argument := Argument.ofString text
    match setting? argument with
    | some (setting, some value) => do parse (← given.add setting value) rest
    | some (setting, none) =>
      match rest with
      | [] => .error (.valueMissing setting)
      | next :: others =>
        match Argument.ofString next with
        | .plain value => do parse (← given.add setting value) others
        | _ => .error (.valueMissing setting)
    | none =>
      match argument, plainRequest? argument, rest with
      | _, some request, _ => .ok request
      | .stop, _, [] => given.request
      | .stop, _, extra :: _ => .error (.unexpected extra)
      | other, _, _ => .error (refusal text other)

def programName : String := "oas3-servergen"

def versionText : String := s!"{programName} 0.1.0\n"

def usageLine : String :=
  s!"Usage: {programName} [OPTIONS] --package <PACKAGE> --path <PATH>\n"

def helpText : String :=
  let options := Setting.all.map fun setting =>
    s!"  --{setting.word} <{setting.placeholder}>\n          {setting.explanation}\n"
  "Generates a Go HTTP server scaffold from an OpenAPI 3 document\n\n" ++ usageLine ++
    "\nOptions:\n" ++ String.join options ++
    "  -h, --help\n          Print help\n  -V, --version\n          Print version\n"

structure Report where
  code : UInt32
  output : String := ""
  complaint : String := ""
deriving DecidableEq, Repr

namespace Report

def ofGeneration : Except Diagnostic (List String) → Report
  | .ok written => { code := 0, output := String.join (written.map (· ++ "\n")) }
  | .error diagnostic => { code := 1, complaint := diagnostic.render ++ "\n" }

def ofUsageError (reason : UsageError) : Report :=
  { code := 2, complaint := s!"error: {reason.message}\n\n{usageLine}" }

end Report

def run {m : Type → Type} [Monad m] (storage : Storage m) (arguments : List String) : m Report := do
  match parse [] arguments with
  | .ok (.generate config) => return Report.ofGeneration (← (generate storage config).run)
  | .ok .version => return { code := 0, output := versionText }
  | .ok .help => return { code := 0, output := helpText }
  | .error reason => return Report.ofUsageError reason

end ApiScaffold.CommandLine
