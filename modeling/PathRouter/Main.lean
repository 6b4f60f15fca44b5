import PathRouter.Command.Run

/-!
# The program

The outer layer of the command line: it brings the files that a command works on into a store,
carries out the command, and puts the files and the texts it leaves behind in their places. While a
route file is being watched, it is read again before every request.
-/

namespace PathRouter

/-- Whether a path names a directory. -/
def isDirectory (path : String) : IO Bool := do
  try (← IO.FS.realPath path).isDir catch _ => return false

/-- What a file holds, if it can be read. -/
def content? (path : String) : IO (Option Content) := do
  try return some (.ofBytes (← IO.FS.readBinFile path).toList) catch _ => return none

/-- Brings a file or a directory into a store, with the directories on the way. -/
def fetch (files : Files) (path : String) : IO Files := do
  if path.isEmpty then return files
  if ← isDirectory path then return files.makeDirectory path
  let way := "/".intercalate (path.splitOn "/").dropLast
  let files ← if ← isDirectory way then pure (files.makeDirectory way) else pure files
  match ← content? path with
  | none => return files
  | some content => return (files.write path content).toOption.getD files

/-- Puts a file in its place if it has changed. -/
def deliver (before after : Files) (path : String) : IO Unit := do
  match before.find path, after.find path with
  | .ok (.file (.text old)), .ok (.file (.text new)) =>
    if old != new then IO.FS.writeFile path new
  | _, .ok (.file (.text new)) => IO.FS.writeFile path new
  | _, _ => return ()

/-- The files that a command works on, its route file apart. -/
def workFiles (c : Command) (f : RouteFile) : List String :=
  let out := match c.action with
    | .compile out => out
    | _ => none
  out.toList ++ f.cachePath.toList

/-- Shows the events of some notes that pass a filter. -/
def report (filter : Filter) (notes : List Note) : IO Unit :=
  ((Note.events notes).filter filter.shows).forM fun e => IO.eprintln e.line

/-- Answers requests line by line, and follows the route file. -/
partial def serve (filter : Filter) (input : IO.FS.Stream) (w : Watch) (last : Files) :
  IO Unit := do
  let line ← input.getLine
  if line.isEmpty then return
  let now ← fetch {} w.path
  let same := (now.readText w.path).toOption == (last.readText w.path).toOption
  let w ← if same then pure w else do
    let files ← match (RouteFile.load now w.path).value with
      | .ok f => f.cachePath.toList.foldlM fetch now
      | .error _ => pure now
    let done := w.change files
    report filter done.notes
    let (after, w, _) := done.value
    match (RouteFile.load now w.path).value with
    | .ok f => f.cachePath.toList.forM (deliver files after)
    | .error _ => pure ()
    pure w
  match Command.readRequest? line.toList with
  | none => pure ()
  | some (path, method) =>
    let answer := w.matcher.request path method
    report filter answer.notes
    IO.println answer.value.json.compact
    (← IO.getStdout).flush
  serve filter input w now

/-- Carries out a command. -/
def perform (c : Command) : IO UInt32 := do
  let config ← fetch {} c.config
  let environment ← IO.getEnv "RUST_LOG"
  match (RouteFile.load config c.config).value with
  | .error e =>
    IO.eprintln s!"Error: {e.message}"
    return 1
  | .ok f =>
    let files ← (workFiles c f).foldlM fetch config
    if c.action = .watch then
      let filter := Filter.choose environment f.logLevel
      report filter [.event (.starting c.config)]
      let start := Command.initialMatcher files c.config f
      report filter start.notes
      (workFiles c f).forM (deliver files start.value.1)
      match start.value.2 with
      | .error e =>
        IO.eprintln s!"Error: {e.message}"
        return 1
      | .ok matcher =>
        let watch := Watch.start c.config matcher
        report filter watch.notes
        serve filter (← IO.getStdin) watch.value config
        return 0
    else
      let (done, lines) := c.run files "" environment
      lines.forM IO.eprintln
      (workFiles c f).forM (deliver files done.files)
      IO.print done.output
      match done.status with
      | .ok _ => pure ()
      | .error e => IO.eprintln s!"Error: {e.message}"
      return UInt32.ofNat done.code

end PathRouter

/-- The program. -/
def main (args : List String) : IO UInt32 := do
  match PathRouter.Command.read args with
  | some c => PathRouter.perform c
  | none =>
    IO.eprintln
      ("usage: route-matcher [--config FILE] compile [--out FILE] | " ++
        "match PATH [--method METHOD] [--no-cache] | routes | watch")
    return 2
