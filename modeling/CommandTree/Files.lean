
namespace CommandTree

inductive Entry where
  | file (bytes : ByteArray)
  | directory

inductive PathError where
  | absent
  | throughFile
  | nameTooLong

inductive ReadError where
  | notFound
  | notDirectory
  | isDirectory
  | nameTooLong
  | notText
  | nulInName
  deriving DecidableEq

def ReadError.message : ReadError → String
  | .notFound => "No such file or directory (os error 2)"
  | .notDirectory => "Not a directory (os error 20)"
  | .isDirectory => "Is a directory (os error 21)"
  | .nameTooLong => "File name too long (os error 36)"
  | .notText => "stream did not contain valid UTF-8"
  | .nulInName => "file name contained an unexpected NUL byte"

/-- What is known to lie somewhere. A place is given by the names on the way to it from the directory in
which the program runs; a way that starts at the root has the name of the root first. -/
structure Files where
  entries : List (List String × Entry)

namespace Path

def parts (path : String) : List String :=
  (path.splitOn "/").filter fun part => !part.isEmpty && part != "."

def root : String := "/"

def isAbsolute (path : String) : Bool :=
  path.startsWith root

def start (path : String) : List String :=
  if isAbsolute path then [root] else []

def isAbove (place : List String) : Bool :=
  place.all (· == "..")

def step (place : List String) (part : String) : List String :=
  if part == ".." then
    if place == [root] then place
    else if isAbove place then place ++ [part]
    else place.dropLast
  else place ++ [part]

def join (directory name : String) : String :=
  if isAbsolute name || directory.isEmpty then name
  else if directory.endsWith "/" then directory ++ name
  else directory ++ "/" ++ name

def isTooLongName (name : String) : Bool :=
  255 < name.utf8ByteSize

def isTooLong (path : String) : Bool :=
  4095 < path.utf8ByteSize

def fileName? (path : String) : Option String :=
  match (parts path).getLast? with
  | some part => if part == ".." then none else some part
  | none => none

def extension (path : String) : String :=
  match fileName? path with
  | none => ""
  | some name =>
      match (name.splitOn ".").reverse with
      | last :: before@(_ :: _) => if before == [""] then "" else last
      | _ => ""

end Path

namespace Files

def empty : Files := ⟨[]⟩

/-- What lies at a place. What other places lie below is a directory. -/
def at? (f : Files) (place : List String) : Option Entry :=
  match f.entries.lookup place with
  | some entry => some entry
  | none =>
      if Path.isAbove place || place == [Path.root]
          || f.entries.any (fun entry => place.isPrefixOf entry.1) then some .directory
      else none

def put (f : Files) (place : List String) (entry : Entry) : Files :=
  ⟨(place, entry) :: f.entries.filter (·.1 != place)⟩

def followFrom (f : Files) : List String → List String → Except PathError (List String × Entry)
  | place, [] =>
      match f.at? place with
      | some entry => .ok (place, entry)
      | none => .error .absent
  | place, part :: rest =>
      match f.at? place with
      | none => .error .absent
      | some (.file _) => .error .throughFile
      | some .directory =>
          if Path.isTooLongName part then .error .nameTooLong
          else f.followFrom (Path.step place part) rest

def follow (f : Files) (path : String) : Except PathError (List String × Entry) :=
  if path.isEmpty || path.contains '\x00' then .error .absent
  else if Path.isTooLong path then .error .nameTooLong
  else
    match f.followFrom (Path.start path) (Path.parts path) with
    | .ok (place, .file bytes) =>
        if path.endsWith "/" || path.endsWith "/." then .error .throughFile
        else .ok (place, .file bytes)
    | result => result

def pathExists (f : Files) (path : String) : Bool :=
  match f.follow path with
  | .ok _ => true
  | .error _ => false

def isFile (f : Files) (path : String) : Bool :=
  match f.follow path with
  | .ok (_, .file _) => true
  | _ => false

def read (f : Files) (path : String) : Except ReadError String :=
  if path.contains '\x00' then .error .nulInName
  else
    match f.follow path with
    | .error .absent => .error .notFound
    | .error .throughFile => .error .notDirectory
    | .error .nameTooLong => .error .nameTooLong
    | .ok (_, .directory) => .error .isDirectory
    | .ok (_, .file bytes) =>
        match String.fromUTF8? bytes with
        | some text => .ok text
        | none => .error .notText

end Files

end CommandTree
