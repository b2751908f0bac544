import Platen.Text.Segment

/-!
# Files

Commands read and write text files by their paths.  The operations are given as a record, so that
the files can be those of the system or a directory that is held in memory.
-/

namespace Platen.Command

/-- Why a file operation fails. -/
inductive FileError where
  | notFound
  | alreadyExists
  | notDirectory
  | isDirectory
  | other (text : String)
  deriving DecidableEq, Repr

/-- The wording of an error. -/
def FileError.message : FileError → String
  | notFound => "No such file or directory (os error 2)"
  | alreadyExists => "File exists (os error 17)"
  | notDirectory => "Not a directory (os error 20)"
  | isDirectory => "Is a directory (os error 21)"
  | other text => text

/-- The operations on files that commands need. -/
structure FileStore (m : Type → Type) where
  /-- The content of a file. -/
  read : String → m (Except FileError String)
  /-- Writes a file, which need not exist yet. -/
  write : String → String → m (Except FileError Unit)
  /-- Makes a directory and those around it, as far as they do not exist yet. -/
  makeDirectories : String → m (Except FileError Unit)

/-! ## A directory in memory -/

/-- The names on the way to a file or directory. -/
abbrev Route := List String

/-- A directory with the files and directories in it, however deep. -/
structure Workspace where
  files : List (Route × String) := []
  directories : List Route := []
  deriving DecidableEq, Repr

namespace Workspace

/-- The names in a path. -/
def names (path : String) : List String :=
  (Text.split '/' path).filter fun name => name ≠ "" && name ≠ "."

/-- The directories on the way to a file. -/
def around (route : Route) : List Route :=
  (List.range route.length).tail.map route.take

/-- A workspace with given files, and the directories that they are in. -/
def ofFiles (files : List (String × String)) : Workspace :=
  let routes := files.map fun (path, _) => names path
  { files := files.map fun (path, content) => (names path, content)
    directories := routes.flatMap around }

/-- The content of a file. -/
def file? (w : Workspace) (route : Route) : Option String :=
  w.files.lookup route

/-- Whether a route leads to a directory. -/
def isDirectory (w : Workspace) (route : Route) : Bool :=
  route.isEmpty || w.directories.contains route

/-- Goes from a directory along names.  The way must not lead out of the workspace. -/
def follow (w : Workspace) (route : Route) : List String → Except FileError Route
  | [] => .ok route
  | name :: rest =>
    if w.isDirectory route then
      if name = ".." then
        if route.isEmpty then .error .notFound else w.follow route.dropLast rest
      else w.follow (route ++ [name]) rest
    else if (w.file? route).isSome then .error .notDirectory
    else .error .notFound

/-- The route that a path means; paths are relative to the workspace. -/
def locate (w : Workspace) (path : String) : Except FileError Route :=
  if path.isEmpty || path.startsWith "/" then .error .notFound else w.follow [] (names path)

/-- Whether a path can only mean a directory. -/
def namesDirectory (path : String) : Bool :=
  Text.endsWith path "/" || Text.endsWith path "/." || path = "."

/-- The content of the file at a path. -/
def read (w : Workspace) (path : String) : Except FileError String := do
  let route ← w.locate path
  if w.isDirectory route then .error .isDirectory
  else
    match w.file? route with
    | some content => if namesDirectory path then .error .notDirectory else .ok content
    | none => .error .notFound

/-- The workspace with a file put at a route. -/
def put (w : Workspace) (route : Route) (content : String) : Workspace :=
  { w with files := (route, content) :: w.files.filter (·.1 ≠ route) }

/-- The workspace with a file written at a path. -/
def write (w : Workspace) (path content : String) : Except FileError Workspace := do
  let route ← w.locate path
  if w.isDirectory route then .error .isDirectory
  else if namesDirectory path then
    .error (if (w.file? route).isSome then .notDirectory else .isDirectory)
  else .ok (w.put route content)

/-- Makes the directories along names. -/
def makeAlong (w : Workspace) (route : Route) : List String → Except FileError Workspace
  | [] => .ok w
  | name :: rest =>
    if name = ".." then
      if route.isEmpty then .error .notFound else w.makeAlong route.dropLast rest
    else
      let next := route ++ [name]
      if (w.file? next).isSome then
        .error (if rest.isEmpty then .alreadyExists else .notDirectory)
      else if w.isDirectory next then w.makeAlong next rest
      else { w with directories := next :: w.directories }.makeAlong next rest

/-- The workspace with the directories of a path made. -/
def makeDirectories (w : Workspace) (path : String) : Except FileError Workspace :=
  if path.startsWith "/" then .error .notFound else w.makeAlong [] (names path)

/-- A change of the workspace, which stays as it is when the change fails. -/
def change (f : Workspace → Except FileError Workspace) :
    StateM Workspace (Except FileError Unit) := do
  match f (← get) with
  | .ok w =>
    set w
    return .ok ()
  | .error e => return .error e

/-- The files of a workspace. -/
def store : FileStore (StateM Workspace) where
  read path := return (← get).read path
  write path content := change fun w => w.write path content
  makeDirectories path := change fun w => w.makeDirectories path

end Workspace

end Platen.Command
