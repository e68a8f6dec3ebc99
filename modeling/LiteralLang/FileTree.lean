import LiteralLang.FileSystem

/-! A file system held as a tree: its files by their paths from the root, the directories that these
paths pass through, and a working directory, from which relative paths lead on. -/
namespace LiteralLang

def pathParts : Text → List Text
  | [] => [[]]
  | c :: t =>
    if c = '/' then [] :: pathParts t
    else match pathParts t with
      | [] => [[c]]
      | p :: ps => (c :: p) :: ps

def maxNameBytes : Nat := 255

def maxPathBytes : Nat := 4095

/-- Files and directories are known by the parts of their paths from the root. -/
structure FileTree where
  home : List Text
  files : List (List Text × ByteArray)

namespace FileTree

inductive Entry
  | file (content : ByteArray)
  | directory

def workshop : List Text := ["tmp", "workshop"]

/-- The tree of files at relative paths. -/
def ofFiles (files : List (Text × ByteArray)) : FileTree where
  home := workshop
  files := files.map fun f =>
    (workshop ++ (pathParts f.1).filter (fun p : Text => !p.isEmpty && p != "."), f.2)

def content? (t : FileTree) (parts : List Text) : Option ByteArray :=
  (t.files.find? (·.1 = parts)).map Prod.snd

def entry? (t : FileTree) (parts : List Text) : Option Entry :=
  match t.content? parts with
  | some b => some (.file b)
  | none =>
    if parts.isPrefixOf t.home ∨ t.files.any (parts.isPrefixOf ·.1) then some .directory else none

/-- What a part of a path names in a directory, and where. The root is its own parent. -/
def enter (t : FileTree) (directory : List Text) (part : Text) :
    Except SystemError (Entry × List Text) :=
  if part = "." then .ok (.directory, directory)
  else if part = ".." then .ok (.directory, directory.dropLast)
  else if maxNameBytes < part.toUtf8.size then .error .nameTooLong
  else match t.entry? (directory ++ [part]) with
    | none => .error .missing
    | some e => .ok (e, directory ++ [part])

def walk (t : FileTree) : List Text → List Text → Except SystemError (List Text)
  | directory, [] => .ok directory
  | directory, part :: parts =>
    match t.enter directory part with
    | .error e => .error e
    | .ok (.file _, _) => .error .notDirectory
    | .ok (.directory, next) => walk t next parts

/-- A path taken apart: the directory that it leads to and the part that it names there. A path of
slashes only names nothing further. -/
structure Route where
  directory : List Text
  last : Option Text

def route (t : FileTree) (path : Text) : Except SystemError Route :=
  if path = [] then .error .missing
  else if maxPathBytes < path.toUtf8.size then .error .nameTooLong
  else
    let start := if path.head? = some '/' then [] else t.home
    let parts := (pathParts path).filter (!·.isEmpty)
    (t.walk start parts.dropLast).map (⟨·, parts.getLast?⟩)

def endsInSlash (path : Text) : Bool := path.getLast? == some '/'

/-- The content of a file. A path with a slash at its end names a directory only. -/
def read (t : FileTree) (path : Text) : Except SystemError ByteArray := do
  let r ← t.route path
  match r.last with
  | none => .error .isDirectory
  | some last =>
    match ← t.enter r.directory last with
    | (.directory, _) => .error .isDirectory
    | (.file b, _) => if endsInSlash path then .error .notDirectory else .ok b

def system (t : FileTree) : FileSystem where
  read path := (t.read path).mapError .opening

instance : Coe FileTree FileSystem := ⟨system⟩

/-- The place of a file that is to be written at its end, and is made if there is none. -/
def openEnd (t : FileTree) (path : Text) : Except SystemError (List Text) := do
  let r ← t.route path
  match r.last with
  | none => .error .isDirectory
  | some last =>
    if endsInSlash path then .error .isDirectory
    else match t.enter r.directory last with
      | .ok (.directory, _) => .error .isDirectory
      | .ok (.file _, parts) => .ok parts
      | .error e => if e = .missing then .ok (r.directory ++ [last]) else .error e

def append (t : FileTree) (parts : List Text) (bytes : ByteArray) : FileTree :=
  match t.content? parts with
  | some b => { t with files := t.files.map fun f => if f.1 = parts then (parts, b ++ bytes) else f }
  | none => { t with files := t.files ++ [(parts, bytes)] }

/-- The files below the working directory that are new or differ, by their paths from there. -/
def changes (before after : FileTree) : List (Text × ByteArray) :=
  (after.files.filter fun f => before.content? f.1 != some f.2).filterMap fun f =>
    (after.home.isPrefixOf? f.1).map fun parts => (List.intercalate ['/'] parts, f.2)

end FileTree
end LiteralLang
