import BeanBridge.Text.Pieces

/-! Files by their paths.  A path is walked part by part, and what is in the way ends the walk. -/

namespace BeanBridge

/-- The files that are known, by the parts of their paths. -/
structure Files where
  list : List (List String × ByteArray) := []

namespace Files

/-- Why a path leads to nothing that can be used. -/
inductive Fault where
  | missing
  | notPermitted
  | notDirectory
  | isDirectory
  | nameTooLong
  /-- No path to a file has a character like one of the path. -/
  | badPath
  /-- No program has a character like one of what it was to be started with. -/
  | badCommand
  deriving DecidableEq

/-- The fault in words. -/
def Fault.message : Fault → String
  | missing => "No such file or directory (os error 2)"
  | notPermitted => "Permission denied (os error 13)"
  | notDirectory => "Not a directory (os error 20)"
  | isDirectory => "Is a directory (os error 21)"
  | nameTooLong => "File name too long (os error 36)"
  | badPath => "file name contained an unexpected NUL byte"
  | badCommand => "nul byte found in provided data"

/-- What is at the end of a path. -/
inductive Place where
  | directory
  | file (content : ByteArray)

/-- Directories that are there in any case. -/
def usualDirectories : List (List String) :=
  [[], ["bin"], ["boot"], ["dev"], ["etc"], ["home"], ["lib"], ["media"], ["mnt"], ["opt"],
    ["proc"], ["root"], ["run"], ["sbin"], ["srv"], ["sys"], ["tmp"], ["usr"], ["usr", "bin"],
    ["usr", "lib"], ["usr", "local"], ["usr", "share"], ["var"], ["var", "lib"], ["var", "log"],
    ["var", "tmp"]]

/-- Files that are there in any case.  What they hold says nothing here. -/
def usualFiles : List (List String) :=
  [["dev", "null"], ["etc", "passwd"], ["etc", "group"], ["etc", "hosts"], ["etc", "hostname"]]

/-- The directory that paths start from when they do not start from the root. -/
def workingDirectory : List String := ["srv", "bean"]

/-- The path leads through the directory, and on. -/
def leadsTo (path directory : List String) : Bool :=
  directory.isPrefixOf path && directory.length < path.length

def at? (files : Files) (path : List String) : Option Place :=
  match files.list.lookup path with
  | some content => some (.file content)
  | none =>
    if usualFiles.elem path then some (.file .empty)
    else if usualDirectories.elem path || (files.list.any fun file => leadsTo file.1 path) ||
      workingDirectory == path then some .directory
    else none

/-- The most bytes of a part of a path. -/
def maxPart : Nat := 255

/-- The most bytes of a path. -/
def maxPath : Nat := 4095

/-- Walks the parts of a path from a directory. -/
def walk (files : Files) (directory : List String) : List String → Except Fault Place
  | [] => .ok .directory
  | part :: parts =>
    if part.isEmpty || part == "." then walk files directory parts
    else if part == ".." then walk files directory.dropLast parts
    else if maxPart < part.utf8ByteSize then .error .nameTooLong
    else match files.at? (directory ++ [part]) with
      | none => .error .missing
      | some .directory => walk files (directory ++ [part]) parts
      | some (.file content) => if parts.isEmpty then .ok (.file content) else .error .notDirectory

/-- What a path leads to. -/
def follow (files : Files) (path : String) : Except Fault Place :=
  if path.isEmpty then .error .missing
  else if maxPath < path.utf8ByteSize then .error .nameTooLong
  else
    let parts := (Text.pieces (· == '/') path.toList).map String.ofList
    walk files (if path.startsWith "/" then [] else workingDirectory) parts

/-- The content of the file that a path leads to. -/
def read (files : Files) (path : String) : Except Fault ByteArray :=
  if path.any (· == '\x00') then .error .badPath
  else match files.follow path with
    | .ok (.file content) => .ok content
    | .ok .directory => .error .isDirectory
    | .error fault => .error fault

/-- Why a program cannot be started with arguments.  None of the files can be. -/
def startFault (files : Files) (program : String) (arguments : List String) : Fault :=
  let isBad (text : String) : Bool := text.any (· == '\x00')
  if isBad program || arguments.any isBad then .badCommand
  else if program.any (· == '/') then
    match files.follow program with
    | .ok _ => .notPermitted
    | .error fault => fault
  else if maxPart < program.utf8ByteSize then .nameTooLong
  else if program == "." || program == ".." then .notPermitted
  else .missing

end Files

end BeanBridge
