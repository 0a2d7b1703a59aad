import CommandTree.Files
import CommandTree.Logging.Setup
import CommandTree.Logging.Stamp

namespace CommandTree.Logging

def unnamedFile : String := "quill.log"

def baseName (path : String) : String :=
  (Path.fileName? path).getD unnamedFile

def directoryParts (path : String) : List String :=
  (Path.parts path).dropLast

def makeDirectories (files : Files) : List String → List String → Option (List String)
  | place, [] => some place
  | place, part :: rest =>
      let next := Path.step place part
      match Path.isTooLongName part, files.at? next with
      | true, _ => none
      | false, some (.file _) => none
      | false, _ => makeDirectories files next rest

def logPlace? (files : Files) (path : String) : Option (List String) :=
  match makeDirectories files (Path.start path) (directoryParts path) with
  | none => none
  | some directory =>
      let name := baseName path
      let place := directory ++ [name]
      match Path.isTooLongName name || Path.isTooLong path, files.at? place with
      | true, _ => none
      | false, some .directory => none
      | false, _ => some place

def Setup.place? (s : Setup) (files : Files) : Option (List String) :=
  match s.output, s.rotation, s.filePath with
  | .file, .never, some path => logPlace? files path
  | _, _, _ => none

def Setup.fileName (s : Setup) (path : String) (t : Stamp) : String :=
  match s.rotation with
  | .never => baseName path
  | .daily => baseName path ++ "." ++ t.day.text
  | .hourly => baseName path ++ "." ++ t.day.text ++ "-" ++ padded 2 t.hour

def directoryPath (path : String) : String :=
  (directoryParts path).foldl Path.join (if Path.isAbsolute path then Path.root else ".")

def Setup.surplus (s : Setup) (path : String) (names : List String) : List String :=
  match s.rotation with
  | .never => []
  | _ =>
      let logs := (names.filter (baseName path).isPrefixOf).mergeSort fun a b => !decide (b < a)
      logs.take (logs.length + 1 - s.maxFiles)

def appendLines (files : Files) (place : List String) (lines : List String) : Files :=
  let added := String.join (lines.map (· ++ "\n"))
  let before :=
    match files.at? place with
    | some (.file bytes) => bytes
    | _ => .empty
  files.put place (.file (before ++ added.toUTF8))

end CommandTree.Logging
