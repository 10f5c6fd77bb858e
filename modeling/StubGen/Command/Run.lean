import StubGen.Command.Help
import StubGen.Command.Invocation
import StubGen.Command.Outcome
import StubGen.Command.RequestFile
import StubGen.Generation

/-!
# Running a command line

`run` reads the command line, loads the settings, and carries out the job. Failures are reported
with exit code 1, and a command line that is refused has exit code 2. Some failures of reading a
file are not reported; they interrupt the run, and so does a type table without rows. The log is set
up once the settings are known, so the records of loading them are in none of the outputs.
-/

namespace StubGen.Command

/-- What a command finds around it. -/
structure Surroundings where
  files : Files.Source
  directory : Files.Path
  environment : Environment

def refusalReports : Refusal → List RawText
  | .malformed faults => faults.map fun f => RawText.whole (f.field ++ ": ") ++ f.message
  | refusal => [refusal.message]

def faultReports (faults : List Fault) : List RawText := refusalReports (.malformed faults)

/-- The records that pass the threshold of the log. -/
def shown (level : Log.Level) (records : List Log.Record) : List Output :=
  (records.filter fun record => level.keeps record.level).map .record

/-- How many collections are nested in a request down to a parameter. -/
def requestDepth : Nat := 4

/-- The request in a file, or the reports of why there is none. -/
def requestIn (r : Registry) (settings : Settings) (files : Files.Source) (file : String)
    (language : Option String) :
    Except Interruption (Except (List RawText) (Yaml.Document × ValidationRequest)) :=
  match readRequest files (.ofString file) language with
  | .error (.interrupted i) => .error i
  | .error (.reported e) => .ok (.error [.whole e.message])
  | .ok document =>
    let languages := r.requestLanguages (some settings)
    match ValidationRequest.ofJson languages (document.toJson requestDepth document.root) with
    | .error faults => .ok (.error (faultReports faults))
    | .ok request => .ok (.ok (document, request))

/-- How the question of a request shows in a record of a level, if the log keeps it. The text of a
value can be far longer than its document, so it is only made where it is shown. -/
def questionLabel (log : Log.Level) (document : Yaml.Document) : Option Log.Level → RawText
  | some level =>
    if log.keeps level then document.label ((document.get? document.root "question_id").getD .null)
    else .whole ""
  | none => .whole ""

/-- Prints the stub file of a request. -/
def generate (r : Registry) (settings : Settings) (level : Log.Level) (document : Yaml.Document)
    (request : ValidationRequest) : Outcome :=
  let language := request.language
  let source := SignatureSource.read request.signature
  let question :=
    questionLabel level document (Registry.recordLevel? (r.accept settings source language))
  let generated := r.generateLogged settings source language question (Text.quoted language)
  let outcome := match generated.value with
    | .ok text => Outcome.success [.standard (.whole text)]
    | .error refusal => .failure (refusalReports refusal)
  outcome.after (shown level generated.records)

/-- Reports the types of a request that its language does not support. -/
def validate (r : Registry) (settings : Settings) (request : ValidationRequest) : Outcome :=
  let language := request.language
  match r.typeFaults (some settings) request.signature.typeTexts language with
  | [] =>
    .success [.line (.whole ("No issues found. " ++ request.signature.functionName
      ++ " can be generated for " ++ language ++ "."))]
  | faults =>
    .failure (faults.map fun f => RawText.whole (f.position.field ++ ": ") ++ f.message)

/-- A text with blanks behind it, up to a width. -/
def padded (width : Nat) (text : String) : String := text ++ blanks (width - text.length)

/-- The lines of a table of two columns with two blanks between them, the first one as wide as its
longest text; a table without rows has no such text. -/
def tableLines (rows : List (String × String)) : Option (List String) :=
  (rows.map fun (left, _) => left.length).max?.map fun width =>
    rows.map fun (left, right) => padded width left ++ "  " ++ right

/-- Prints the type table of a language. -/
def types (r : Registry) (settings : Settings) (language : String) : Except Interruption Outcome :=
  if settings.languages.contains language then
    match tableLines (r.typeTable language settings.maxNestingDepth) with
    | some lines => .ok (.success (lines.map fun line => .line (.whole line)))
    | none => .error .emptyTable
  else .ok (.failure [(Unsupported.language language).message])

/-- Starts the service. An empty host and port zero count as not given. -/
def serve (settings : Settings) (port : Option Int) (host : Option String) : Outcome :=
  let host := match host with
    | none | some "" => settings.server.host
    | some h => .whole h
  let port := match port with
    | none | some 0 => settings.server.port
    | some p => p
  let address := host ++ RawText.whole (":" ++ toString port ++ "/")
  ⟨0, [.line (RawText.whole "Serving template preview at http://" ++ address)],
    some ⟨settings, host, port⟩⟩

def perform (r : Registry) (settings : Settings) (level : Log.Level) (files : Files.Source) :
    Job → Except Interruption Outcome
  | .generate file language => do
    match ← requestIn r settings files file language with
    | .error reports => return .failure reports
    | .ok (document, request) => return generate r settings level document request
  | .validate file language => do
    match ← requestIn r settings files file language with
    | .error reports => return .failure reports
    | .ok (_, request) => return validate r settings request
  | .languages => .ok (.success (settings.languages.map fun name => .line (.whole name)))
  | .types language => types r settings language
  | .serve port host => .ok (serve settings port host)

/-- The file of the settings: the one that is named, or that in the working directory if there is
one. -/
def settingsFile (surroundings : Surroundings) (named : Option String) : Option Files.Path :=
  match named with
  | some name => some (.ofString name)
  | none =>
    let path := surroundings.directory.child Settings.fileName
    if Files.has surroundings.files path then some path else none

/-- The log level of a run: that of the command line, or else that of the settings. -/
def Invocation.levelName (invocation : Invocation) (settings : Settings) : String :=
  invocation.logLevel.getD settings.logLevel

def Invocation.run (r : Registry) (surroundings : Surroundings) (invocation : Invocation) :
    Log.Logged (Except Interruption Outcome) :=
  let loaded := Settings.load r surroundings.files surroundings.environment
    (settingsFile surroundings invocation.config)
  loaded.map fun
    | .error (.interrupted i) => .error i
    | .error (.reported e) => .ok (.failure [e.message])
    | .ok settings =>
      let level := (Log.Level.ofName? (invocation.levelName settings)).getD .info
      perform r settings level surroundings.files invocation.job

/-- The outcome of a command line that asks for no job. -/
def Stop.outcome : Stop → Outcome
  | help scope => .success [.standard (.whole scope.help)]
  | refused scope fault => ⟨2, [.error (.whole (fault.report scope))], none⟩

def filesRead (directory : Files.Path) (line : List String) : List Files.Path :=
  match Invocation.ofArguments line with
  | .ok invocation =>
    directory.child Settings.fileName ::
      (invocation.config.toList ++ invocation.job.file?.toList).map Files.Path.ofString
  | .error _ => []

/-- Runs a command line. The records are those of the time before the log is set up. -/
def run (r : Registry) (surroundings : Surroundings) (line : List String) :
    Log.Logged (Except Interruption Outcome) :=
  match Invocation.ofArguments line with
  | .ok invocation => invocation.run r surroundings
  | .error stop => Log.silent (.ok stop.outcome)

end StubGen.Command
