import FormLetter.Configuration.DotEnv
import FormLetter.Configuration.FilePath
import FormLetter.Configuration.JsonFile
import FormLetter.Configuration.Settings
import FormLetter.Configuration.Toml

/-!
# Loading settings

Settings come from several sources. Of two sources that set a key the later one counts: the
built-in defaults, the file for all run modes, the file for the run mode, and the environment with
what an environment file has added to it.
-/

namespace FormLetter.Configuration

/-- Why settings cannot be loaded. -/
inductive LoadFault
  /-- A file does not hold a table in its format. -/
  | unreadable (path : Text)
  /-- A key is no path. -/
  | badKey (fault : PathFault)
  /-- What the sources set cannot be used. -/
  | unusable (fault : Fault)

/-! ## Sources -/

/-- The built-in defaults: the calls of `set_default`. -/
def defaults : List (Text × Value) :=
  let d : Settings := {}
  let text (t : Text) : Value := .scalar none (.text t)
  let natural (n : Nat) : Value := .scalar none (.integer n)
  [("server.host".toList, text d.server.host), ("server.port".toList, natural d.server.port),
    ("server.max_body_bytes".toList, natural d.server.maxBodyBytes),
    ("merge.unsubscribe_base".toList, text d.merge.unsubscribeBase),
    ("merge.max_batch_size".toList, natural d.merge.maxBatchSize),
    ("merge.max_output_bytes".toList, natural d.merge.maxOutputBytes),
    ("log.format".toList, text "text".toList)]

/-- A format of configuration files: the endings of their names, and how a file with a path and a
text is read. -/
structure FileFormat where
  endings : List Text
  read? : Text → Text → Option (List (Text × Value))

/-- The formats whose readers are given here. Other formats may be registered with them, and the
order in which they are tried is not fixed; what depends on the formats takes them as a
parameter. -/
def fileFormats : List FileFormat :=
  [⟨["json".toList], JsonFile.read?⟩, ⟨["toml".toList], Toml.read?⟩]

/-- The file with a path, which may lack the ending of its format: its path, its text and its
format. A file whose path is complete hides those with an ending, even if its format is unknown. -/
def findFile? (files : Files) (path : Text) (formats : List FileFormat := fileFormats) :
    Option (Text × Text × FileFormat) :=
  let names := FilePath.names path
  let name := names.getLastD []
  let complete := if FilePath.endsAsFolder path then none else files.read? names
  match complete with
  | some text =>
    (formats.find? fun f => f.endings.any fun e => FilePath.ending? name == some e).map
      (FilePath.ofNames names, text, ·)
  | none =>
    if name = ['.', '.'] then none
    else
      formats.findSome? fun f =>
        f.endings.findSome? fun ending =>
          let names := names.dropLast ++ [name ++ '.' :: ending]
          (files.read? names).map (FilePath.ofNames names, ·, f)

/-- The entries that a file sets. A file that is not there sets none: it is not required. -/
def fileSource (files : Files) (path : Text) (formats : List FileFormat := fileFormats) :
    Except LoadFault (List (Text × Value)) :=
  match findFile? files path formats with
  | none => .ok []
  | some (path, text, format) =>
    match format.read? path text.withoutMark with
    | some entries => .ok entries
    | none => .error (.unreadable path)

/-! ## Loading -/

/-- The path of the environment file. -/
def dotEnvPath : Text := ".env".toList

/-- The environment with what the environment file adds. -/
def fullEnvironment (env : Environment) (files : Files) : Environment :=
  match files.lookup dotEnvPath with
  | some file => DotEnv.load env file
  | none => env

/-- The run mode. -/
def runMode (env : Environment) : Text :=
  (env.get? "RUN_MODE".toList).getD "development".toList

/-- The path of a configuration file without its ending. -/
def filePath (base : Text) : Text := "config/".toList ++ base

/-- All sources, the earlier ones first. -/
def sources (env : Environment) (files : Files) (formats : List FileFormat := fileFormats) :
    Except LoadFault (List (List (Text × Value))) := do
  let env := fullEnvironment env files
  let common ← fileSource files (filePath "default".toList) formats
  let special ← fileSource files (filePath (runMode env)) formats
  .ok [defaults, common, special, env.source]

/-- The configuration that sources make. -/
def combine (sources : List (List (Text × Value))) : Value :=
  sources.foldl Value.applySource .empty

/-- The settings that a configuration makes. -/
def settingsOf (value : Value) : Except LoadFault Settings :=
  (readSettings value).mapError .unusable

/-- The settings for an environment and the files beside the program: `Settings::new`. -/
def load (env : Environment) (files : Files) (formats : List FileFormat := fileFormats) :
    Except LoadFault Settings := do
  settingsOf (combine (← sources env files formats))

/-- The settings that scalars at paths make. Every key has to be a path. -/
def loadScalars (scalars : List (Text × Scalar)) : Except LoadFault Settings := do
  let assignments ← scalars.mapM fun s =>
    ((Path.read s.1).mapError .badKey).map (·, Value.scalar none s.2)
  settingsOf (Value.empty.setAll assignments)

end FormLetter.Configuration
