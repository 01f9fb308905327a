/-
A host in memory.
-/
import Atelier.CommandLine.Host

namespace Atelier

/-- The answer of a server to a request. -/
structure Response where
  status : Nat
  body : String
deriving DecidableEq, Repr

/-- The body of an answer, if its status is one of success.  Answers that are about a body
elsewhere, or about none, have none, and a byte order mark does not belong to a body. -/
def Response.text (r : Response) : Except FetchError String :=
  let body := if r.status = 204 || r.status = 304 then [] else r.body.toList
  let body := if body.head? = some '\uFEFF' then body.tail else body
  if 200 ≤ r.status && r.status < 300 then .ok (String.ofList body)
  else .error (.status r.status (String.ofList body))

/-- A system in memory. -/
structure Memory where
  settings : List (String × String) := []
  /-- The files by the paths to them. -/
  files : List (String × ByteArray) := []
  /-- The lines that are printed, the last one first. -/
  printed : List String := []
  /-- The origin of what is asked of the server. -/
  server : String := ""
  /-- The answers that the server will give. -/
  responses : List Response := []
  /-- The paths and queries that the server has answered, the last one first. -/
  requests : List String := []

namespace Memory

/-- A path without the marks of the directory it starts from. -/
def plainPath : List Char → List Char
  | '.' :: '/' :: rest => plainPath rest
  | path => path

/-- The path as a key of the files. -/
def key (path : String) : String :=
  String.ofList (plainPath path.toList)

/-- Whether files stand in a directory. -/
def isDirectory (s : Memory) (path : List Char) : Bool :=
  s.files.any fun (name, _) => (path ++ ['/']).isPrefixOf name.toList

/-- Whether a file can stand at a path: its directory is there, and it is none itself. -/
def isFree (s : Memory) (path : List Char) : Bool :=
  let name := (path.reverse.takeWhile (· ≠ '/')).reverse
  let directory := (path.reverse.dropWhile (· ≠ '/')).reverse.dropLast
  (name.length = path.length || s.isDirectory directory) && !s.isDirectory path
    && !(name.all (· = '.') && name.length ≤ 2)

/-- The file at a path. -/
def file? (s : Memory) (path : String) : Option ByteArray :=
  s.files.lookup (key path)

/-- The system with a file replaced or added. -/
def withFile (s : Memory) (path : String) (content : ByteArray) : Memory :=
  { s with files := (key path, content) :: s.files.filter (·.1 ≠ key path) }

/-- The system after a request, and the answer.  The server is gone once it has given all its
answers, and nobody else can be asked. -/
def ask (s : Memory) (url : Url) : Except FetchError String × Memory :=
  if url.origin = s.server then
    match s.responses with
    | response :: rest =>
      (response.text, { s with
        responses := rest
        requests := String.ofList url.target :: s.requests })
    | [] => (.error (.transport "no answer"), s)
  else (.error (.transport "no server"), s)

end Memory

instance : Host (StateM Memory) where
  setting? name := return (← get).settings.lookup name
  readBytes path := return match (← get).file? path with
    | some bytes => .ok bytes
    | none => .error "No such file or directory (os error 2)"
  writeText path text := do
    let s ← get
    if s.isFree (Memory.key path).toList then
      set (s.withFile path text.toUTF8)
      return .ok ()
    else return .error "No such file or directory (os error 2)"
  printLine text := modify fun s => { s with printed := text :: s.printed }
  fetch url := modifyGet (·.ask url)

/-- All that is printed, each text with the end of its line. -/
def Memory.output (s : Memory) : String :=
  String.join (s.printed.reverse.map (· ++ "\n"))

end Atelier
