import VideoStats.Text.Infix
import VideoStats.Text.Quote

namespace VideoStats.Host

inductive Entry where
  | file (text : String)
  | directory
  deriving DecidableEq, Repr

structure Files where
  entries : List (List String × Entry) := []
  deriving Repr, Inhabited

def pathParts (p : String) : List String :=
  (Text.split p "/").filter fun c => c != "" && c != "."

def showPath (p : String) : String :=
  let body := "/".intercalate (pathParts p)
  if p.startsWith "/" then "/" ++ body
  else if body.isEmpty then "." else body

inductive FileError where
  | notFound (path : String)
  | isDirectory (path : String)
  | notDirectory (path : String)
  deriving DecidableEq, Repr

def FileError.className : FileError → String
  | .notFound _ => "FileNotFoundError"
  | .isDirectory _ => "IsADirectoryError"
  | .notDirectory _ => "NotADirectoryError"

def FileError.message : FileError → String
  | .notFound p => "[Errno 2] No such file or directory: " ++ Text.quoteLiteral (showPath p)
  | .isDirectory p => "[Errno 21] Is a directory: " ++ Text.quoteLiteral (showPath p)
  | .notDirectory p => "[Errno 20] Not a directory: " ++ Text.quoteLiteral (showPath p)

inductive Found where
  | missing
  | underFile
  | entry (e : Entry)
  deriving DecidableEq, Repr

namespace Files

def entryAt (fs : Files) (parts : List String) : Option Entry :=
  if parts.isEmpty then some .directory else fs.entries.lookup parts

def walk (fs : Files) (here : List String) : List String → Found
  | [] => match fs.entryAt here with
    | some e => .entry e
    | none => .missing
  | part :: rest =>
    match fs.entryAt here with
    | some .directory =>
      if part == ".." then
        if here.isEmpty then .missing else fs.walk here.dropLast rest
      else fs.walk (here ++ [part]) rest
    | some (.file _) => .underFile
    | none => .missing

def find (fs : Files) (p : String) : Found :=
  if p.startsWith "/" then .missing else fs.walk [] (pathParts p)

def exists? (fs : Files) (p : String) : Bool :=
  match fs.find p with
  | .entry _ => true
  | _ => false

def unifyLineEnds : List Char → List Char
  | '\r' :: '\n' :: rest => '\n' :: unifyLineEnds rest
  | '\r' :: rest => '\n' :: unifyLineEnds rest
  | c :: rest => c :: unifyLineEnds rest
  | [] => []

def readRaw (fs : Files) (p : String) : Except FileError String :=
  match fs.find p with
  | .entry (.file t) => .ok t
  | .entry .directory => .error (.isDirectory p)
  | .underFile => .error (.notDirectory p)
  | .missing => .error (.notFound p)

def readText (fs : Files) (p : String) : Except FileError String :=
  (fs.readRaw p).map fun t => String.ofList (unifyLineEnds t.toList)

def list (fs : Files) (p : String) : Except FileError (List (String × Bool)) :=
  match fs.find p with
  | .entry .directory =>
    let dir := (pathParts p).foldl (fun acc c => if c == ".." then acc.dropLast else acc ++ [c]) []
    .ok (fs.entries.filterMap fun (parts, e) =>
      if parts.dropLast == dir && parts.length == dir.length + 1 then
        some (parts.getLastD "", match e with
          | .file _ => true
          | .directory => false)
      else none)
  | .entry (.file _) | .underFile => .error (.notDirectory p)
  | .missing => .error (.notFound p)

def add (fs : Files) (p : String) (e : Entry) : Files :=
  let parts := pathParts p
  let above := (List.range parts.length).map fun k => parts.take k
  let dirs := (above.filter fun d => !d.isEmpty && (fs.entries.lookup d).isNone).map
    fun d => (d, Entry.directory)
  ⟨(fs.entries.filter fun m => m.1 != parts) ++ dirs ++ [(parts, e)]⟩

def isFile (fs : Files) (p : String) : Bool :=
  match fs.find p with
  | .entry (.file _) => true
  | _ => false

end Files

end VideoStats.Host
