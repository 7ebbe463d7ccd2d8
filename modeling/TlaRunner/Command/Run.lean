import TlaRunner.Command.Conclusion
import TlaRunner.Command.Request
import TlaRunner.Console.Findings

/-!
# Carrying out requests

Before a tool is started, everything that was asked for is looked at: first the
files, then the settings, then the options.  A check prints its findings, its summary
and a verdict; a parse prints its findings and a verdict.
-/

namespace TlaRunner.Command

open Console (Printed Screen findingLines summary)
open Files (Host SpecFiles)
open Supervision (Behavior)
open Workflow (Bench Floor)

/-- The machine a command is carried out on. -/
structure Machine where
  /-- The directory the program is installed in. -/
  package : Path
  /-- Where is printed. -/
  screen : Screen
  /-- The files. -/
  host : Host
  /-- The environment. -/
  environment : List (Text × Text)
  /-- What is made of a question for Java's version. -/
  javaBehavior : Behavior
  /-- What is made of the coming commands. -/
  behaviors : List Behavior
  /-- The port for a debugger. -/
  port : Int

namespace Machine

/-- A bench with some settings. -/
def bench (m : Machine) (c : Config) : Bench :=
  .idle m.host c true m.javaBehavior m.behaviors

/-- Where the settings for a request come from. -/
def sources (m : Machine) (r : Request) : Settings.Sources :=
  ⟨⟨.root, m.host.cwd⟩, r.configFile, m.environment, r.overrides⟩

/-- The settings for a request. -/
def settings (m : Machine) (r : Request) : Except Fault Config :=
  ((m.sources r).load (.ofPackage m.package) m.host).mapError .settings

/-- The files a check is asked for. -/
def spec (m : Machine) (t : Target) : Except Fault SpecFiles :=
  (match t.model with
    | some model => SpecFiles.ofFiles m.host t.file model
    | none => SpecFiles.ofPath m.host t.file).mapError fun fault => .run (.spec fault)

/-- Ends a command that has not started anything. -/
def refuse (m : Machine) (v : Voice) (fault : Fault) : Conclusion :=
  .ofFault v (m.bench (.default m.package)) [] fault

/-! ## Verdicts -/

/-- The verdict on a check. -/
def verdict (v : Voice) (report : CheckReport) : List Text :=
  (if report.truncated then
    v.say .caution "TLC output ended before its last message was complete".toList
  else []) ++
  match report.outcome with
  | .success => v.say .success "No errors found".toList
  | .stopped => v.say .caution "Model checking was stopped".toList
  | outcome => v.say .failure ("Model checking finished with state ".toList ++ outcome.name)

/-- What a check prints at its end. -/
def checkPages (screen : Screen) (b : Bench) (report : CheckReport) : Printed :=
  match findingLines screen b.sink.mapping with
  | .error fault => ⟨[], some fault⟩
  | .ok lines =>
    let rest := summary screen report
    { rest with lines := lines ++ rest.lines }

/-- Ends a check. -/
def concludeCheck (v : Voice) (echoes : Bool)
    (ended : Floor × Except Workflow.Failure CheckReport) : Conclusion :=
  let b := ended.1.bench
  let lines := transcript v ⟨echoes, true⟩ none b.log
  match ended.2 with
  | .error failure => .ofFault v b lines (.run failure)
  | .ok report =>
    .ofPrinted v b lines (checkPages v.pages b report) (statusOf report.outcome)
      (verdict v report)

/-- Ends a parse. -/
def concludeParse (v : Voice) (module : Path) (echoes : Bool)
    (ended : Floor × Except Workflow.Failure Workflow.ParseOutcome) : Conclusion :=
  let b := ended.1.bench
  let lines := transcript v ⟨echoes, false⟩ none b.log
  let findings := b.sink.mapping
  match ended.2, findingLines v.pages findings with
  | .error failure, _ => .ofFault v b lines (.run failure)
  | .ok _, .error fault => .ofFault v b lines (.markup fault)
  | .ok _, .ok found =>
    if (Diagnostic.Collection.ofMapping findings).hasErrors then
      ⟨findingsStatus, lines ++ found ++ v.say .failure ("Errors found in ".toList ++ module.name),
        none, b⟩
    else
      ⟨0, lines ++ found ++ v.say .success (module.name ++ " parsed without errors".toList),
        none, b⟩

/-! ## Commands -/

/-- Checks a model. -/
def check (m : Machine) (v : Voice) (r : Request) (t : Target) (options : List Text)
    (echoes : Bool) : Conclusion :=
  let prepared : Except Fault (SpecFiles × Config × List Text) := do
    let spec ← m.spec t
    let config ← m.settings r
    return (spec, config, ← (Arguments.splitAll options).mapError .options)
  match prepared with
  | .error fault => m.refuse v fault
  | .ok (spec, config, extra) =>
    concludeCheck v echoes ((Floor.empty (m.bench config)).check spec extra)

/-- Checks a model with a debugger. -/
def debug (m : Machine) (v : Voice) (r : Request) (t : Target) (delay : Option Decimal.Double)
    (echoes : Bool) : Conclusion :=
  let prepared : Except Fault (SpecFiles × Config) := do
    let spec ← m.spec t
    return (spec, ← m.settings r)
  match prepared with
  | .error fault => m.refuse v fault
  | .ok (spec, config) =>
    concludeCheck v echoes
      ((Floor.empty (m.bench config)).debug spec m.port (delay.getD config.debuggerDelay) .listens)

/-- Parses a module. -/
def parse (m : Machine) (v : Voice) (r : Request) (module : Path) (echoes : Bool) : Conclusion :=
  if module.suffix ≠ Files.moduleSuffix then m.refuse v (.foreignModule module.name)
  else
    match m.settings r with
    | .error fault => m.refuse v fault
    | .ok config =>
      let floor := Floor.empty (m.bench config)
      concludeParse v module echoes <|
        match SpecFiles.ofModule m.host module with
        | .error fault => (floor, .error (.spec fault))
        | .ok spec => floor.parse spec

/-- Drops the sequences by which a terminal is told to change its colors.  `skip` is
how many characters of one are left. -/
def withoutColors (skip : Nat) : Text → Text
  | [] => []
  | c :: s =>
    match skip with
    | n + 1 => withoutColors n s
    | 0 =>
      let parameters :=
        (s.drop 1).takeWhile fun d => d.isDigit || d = ';' || d = '?'
      match s, s.drop (1 + parameters.length) with
      | '[' :: _, d :: _ =>
        if c = '\x1b' && d.isAlpha then withoutColors (2 + parameters.length) s
        else c :: withoutColors 0 s
      | _, _ => c :: withoutColors 0 s

/-- The lines about the Java in use. -/
def javaLines (b : Bench) (executable : Path) : List Text :=
  let version := ((b.cache.entry.map (·.version.text)).getD ['?'])
  let archive := b.config.toolsArchive
  let facts := ["Executable: ".toList ++ executable.toText, "Version:    ".toList ++ version,
    "Tools:      ".toList ++ archive.toText]
  facts.flatMap fun s => Text.cutAt '\n' (withoutColors 0 s)

/-- Ends the command that tells which Java is used, with a look for the tools archive. -/
def concludeJava (v : Voice) (b : Bench) (lines : List Text) : Conclusion :=
  let archive := b.config.toolsArchive
  match b.host.has archive with
  | .error error => .ofFault v b lines (.long error)
  | .ok true => ⟨0, lines, none, b⟩
  | .ok false =>
    ⟨0, lines ++ v.say .caution ("TLA+ tools archive not found at ".toList ++ archive.toText),
      none, b⟩

/-- Tells which Java is used. -/
def java (m : Machine) (v : Voice) (r : Request) : Conclusion :=
  match m.settings r with
  | .error fault => m.refuse v fault
  | .ok config =>
    let (b, found) := (m.bench config).resolveJava
    let lines := transcript v ⟨false, false⟩ none b.log
    match found, v.messages.heading "Java runtime".toList with
    | .error failure, _ => .ofFault v b lines (.run failure)
    | .ok _, .error fault => .ofFault v b lines (.markup fault)
    | .ok executable, .ok heading =>
      concludeJava v b (lines ++ heading ++ javaLines b executable)

/-- Carries a request out. -/
def carryOut (m : Machine) (v : Voice) (r : Request) : Conclusion :=
  match r.command with
  | .parse module echoes => m.parse v r module echoes
  | .check target options echoes => m.check v r target options echoes
  | .debug target delay echoes => m.debug v r target delay echoes
  | .java => m.java v r

/-- How a command line ends: with a request carried out, or with none.  The size of the
screen comes first, for help and complaints about the words need it too. -/
def run (m : Machine) (words : List Text) : Conclusion :=
  let m := { m with host := m.host.under m.environment }
  let b := m.bench (.default m.package)
  match m.screen.under m.environment, read m.host words with
  | .error error, _ => ⟨findingsStatus, [], some (.screen error), b⟩
  | .ok pages, .ok (.request r) => m.carryOut ⟨m.screen, pages, r.marked⟩ r
  | .ok _, .ok .help => ⟨0, [], none, b⟩
  | .ok _, .error _ => ⟨toolingStatus, [], none, b⟩

end Machine

end TlaRunner.Command
