import BasiliskServer.Files.Uri
import BasiliskServer.Json.Value
import BasiliskServer.World.Program

/-!
# Descriptions of scripts

Scripts of programs and of the editor, files, configurations and command line options, written as
JSON. A description names only what differs from the usual behaviour.
-/

namespace BasiliskServer.World

open Json (Value Fields)

/-- The bytes that pairs of hexadecimal digits denote. -/
def hexBytes : List Char → List UInt8
  | high :: low :: rest =>
    (((Files.hexDigit? high).getD 0) * 16 + (Files.hexDigit? low).getD 0).toUInt8 :: hexBytes rest
  | _ => []

/-- The bytes that are described: a text stands for its encoding, digits in the field `hex` for the
bytes that they denote, and a value in the field `frame` for its frame. -/
def bytesOf : Value → List UInt8
  | .string s => Text.Utf8.encode s
  | value =>
    match value.get? "hex", value.get? "frame" with
    | some (.string digits), _ => hexBytes (digits.toList.filter (!·.isWhitespace))
    | _, some framed => Rpc.frameValue framed
    | _, _ => []

/-- A limit of time: the one given, none if it is null, and the usual one if it is missing. -/
def limitAt (value : Value) (name : String) (usual : Option Nat) : Option Nat :=
  match value.get? name with
  | none => usual
  | some limit => limit.integer?.map Int.toNat

/-- What the companion program does with a request. -/
def Reply.ofJson (value : Value) : Reply :=
  let delay := value.natAt "delay_ms"
  match value with
  | .object fields =>
    if Json.Fields.has fields "exit" then .quit (value.intAt "exit") delay
    else if Json.Fields.has fields "error" then .refusal (value.getD "error") delay
    else .result (value.getD "result") delay
  | _ => .silence

/-- One entry or a list of them. -/
def oneOrMany {α : Type} (read : Value → α) : Value → List α
  | .array items => items.map read
  | value => [read value]

/-- How the companion program behaves. -/
def CompanionScript.ofJson (value : Value) : CompanionScript :=
  { startDelay := value.natAt "spawn_delay_ms"
    isMissing := value.flagAt "spawn_error"
    replies := (value.fieldsAt "responses").map fun (method, reply) =>
      (method, oneOrMany Reply.ofJson reply)
    problemsOnOpen := (value.get? "on_open").bind Value.items?
    errorsOnOpen := bytesOf (value.getD "stderr_on_open")
    ignoresEnd := value.flagAt "ignore_term"
    isUnreachable := value.flagAt "lookup_error"
    refusesInput := value.flagAt "write_error" }

/-- How a command behaves. -/
def CommandScript.ofJson (value : Value) : CommandScript :=
  { stdout := bytesOf (value.getD "stdout")
    stderr := bytesOf (value.getD "stderr")
    code := value.intAt "returncode"
    delay := value.natAt "delay_ms"
    hangs := value.flagAt "hang"
    isMissing := value.flagAt "spawn_error"
    isUnreachable := value.flagAt "lookup_error" }

/-- The editor with the described behaviour; what is not described stays as it is. -/
def EditorScript.update (script : EditorScript) (value : Value) : EditorScript :=
  { script with
    config := (value.get? "config").getD script.config
    perDocument :=
      if (value.get? "configs").isSome then value.fieldsAt "configs" else script.perDocument
    delay :=
      if (value.get? "config_delay_ms").isSome then value.natAt "config_delay_ms"
      else script.delay
    refuses :=
      if (value.get? "config_error").isSome then value.flagAt "config_error" else script.refuses }

/-- A world before anything has happened in it. -/
def ofJson (host : Files.Host) (value : Value) : World :=
  { host
    companions :=
      match value.itemsAt "clangd" with
      | [] => [{}]
      | scripts => scripts.map CompanionScript.ofJson
    versionScript := .ofJson ((value.getD "qcc").getD "version")
    runScripts := oneOrMany CommandScript.ofJson ((value.getD "qcc").getD "run")
    editor := { ({} : EditorScript).update value with
      answersList := value.flagAt "raw_configuration" }
    session := { featureLimit := (limitAt value "feature_timeout_ms" none).getD 10000 } }

/-- A file or a directory: a text stands for a file that holds it. -/
def nodeOfJson (value : Value) : Files.Node :=
  match value, value.get? "exec", value.get? "hex" with
  | .string s, _, _ => .file (Text.Utf8.encode s) false
  | _, some text, _ => .file (bytesOf text) true
  | _, none, some _ => .file (bytesOf value) false
  | _, none, none => .directory

/-- The environment variables that are described, the last of those with one name first. -/
def environmentOf (value : Value) : List (String × String) :=
  ((value.fieldsAt "env").filterMap fun (name, v) => v.string?.map (name, ·)).reverse

/-- A machine with the described files below a root, or without any files. It has a home directory
and searches for programs below the root. -/
def hostOfJson (root : Option String) (value : Value) : Files.Host :=
  let host : Files.Host :=
    { cwd := .ofString "/nowhere"
      environment := environmentOf value ++ [("HOME", "/home/tester"),
        ("PATH", (root.map (· ++ "/bin")).getD "/nonexistent")] }
  match root with
  | none => host
  | some spelled =>
    let root := Files.Path.ofString spelled
    let cwd := root.child (value.textAt "cwd")
    let host := (host.place (root.names ++ ["bin"]) .directory).place cwd.names .directory
    (value.fieldsAt "files").foldl
      (fun host (name, v) => host.place (root.child name).names (nodeOfJson v)) { host with cwd }

/-- A companion process asks something. Unless it is given, the number of its question is one more
than that of its last one. -/
def askServer (process : Nat) (id : Option Value) (method : String) (params : Value) :
    Act Unit := do
  let asks := (((← get).processes[process]?).map (·.asks)).getD 0
  updateProcess process fun p => { p with asks := p.asks + 1 }
  say process (Rpc.requestMessage (id.getD (.nat (1000 + asks))) method params)

/-- What a companion process does on its own. -/
def peerAct (w : World) (value : Value) : Act Unit :=
  let index := value.intAt "process" (-1)
  let process := (if index < 0 then (w.processes.length : Int) + index else index).toNat
  let method := value.textAt "method"
  let params := value.getD "params"
  match value.textAt "peer" with
  | "publish" =>
    sayProblems process (value.getD "uri") (value.itemsAt "diagnostics") (value.getD "version")
  | "notify" => say process (Rpc.notificationMessage method params)
  | "ask" => askServer process (value.get? "id") method params
  | "reply" =>
    let id := value.getD "id"
    let message := match value.get? "error" with
      | some error => refusalMessage id error
      | none => Rpc.resultMessage id (value.getD "result")
    say process message (value.natAt "delay_ms")
  | "feed" => writeOutput process (bytesOf (value.getD "data"))
  | "stderr" => writeErrors process (bytesOf (value.getD "data"))
  | "read_error" => breakOutput process (value.textAt "message")
  | _ => quit process (value.intAt "code")

/-- The method of the editor that a short name stands for; other names stand for themselves. -/
def methodNamed : String → String
  | "did_change_configuration" => "workspace/didChangeConfiguration"
  | "did_change_watched_files" => "workspace/didChangeWatchedFiles"
  | "did_open" => "textDocument/didOpen"
  | "did_change" => "textDocument/didChange"
  | "did_save" => "textDocument/didSave"
  | "did_close" => "textDocument/didClose"
  | "completion" => "textDocument/completion"
  | "completion_resolve" => "completionItem/resolve"
  | "hover" => "textDocument/hover"
  | "definition" => "textDocument/definition"
  | "references" => "textDocument/references"
  | "document_symbol" => "textDocument/documentSymbol"
  | "workspace_symbol" => "workspace/symbol"
  | "semantic_tokens_full" => "textDocument/semanticTokens/full"
  | name => name

/-- Folders with their names, as pairs. -/
def foldersAt (value : Value) (name : String) : List (String × String) :=
  (value.itemsAt name).filterMap fun
    | .array [.string uri, .string name] => some (uri, name)
    | _ => none

/-- How the companion process is started. -/
def configOfJson (value : Value) : Companion.Config :=
  { path := value.textAt "path"
    args := value.textsAt "args"
    compileCommandsDir := value.textAt "compile_commands_dir"
    fallbackFlags := value.textsAt "fallback_flags"
    rootUri := value.textAt? "root_uri"
    folders := foldersAt value "workspace_folders" }

/-- A truth value that may be missing. -/
def boolAt? (value : Value) (name : String) : Option Bool :=
  match value.get? name with
  | some (.bool b) => some b
  | _ => none

/-- Options of the command line. -/
def optionsOfJson (value : Value) : Tool.Options :=
  { maxProblems := value.intAt? "max_problems"
    qccPath := value.textAt? "qcc_path"
    basiliskPath := value.textAt? "basilisk_path"
    projectConfig := value.textAt? "project_config"
    enableQcc := boolAt? value "enable_qcc"
    qccIncludes := value.textsAt "qcc_includes"
    clangdEnabled := boolAt? value "clangd_enabled"
    clangdPath := value.textAt? "clangd_path"
    clangdArgs := value.textsAt "clangd_args"
    compileCommandsDir := value.textAt? "compile_commands_dir"
    fallbackFlags := value.textsAt "fallback_flags"
    clangdDiagnostics := (value.textAt? "clangd_diagnostics").bind DiagnosticsMode.ofName?
    verbose := value.flagAt "verbose" }

end BasiliskServer.World
