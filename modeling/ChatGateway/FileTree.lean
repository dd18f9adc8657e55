import ChatGateway.FilePath
import ChatGateway.SystemFault

namespace ChatGateway

/-! A tree of files as a value, for running the gateway's start away from a disk. -/

structure FileTree where
  /-- Each file by its steps from the root. -/
  files : List (List String × ByteArray)
  /-- Directories, also those that hold no file. -/
  directories : List (List String)
  deriving Inhabited

namespace FileTree

inductive Node where
  | missing
  | directory
  | file (content : ByteArray)
  deriving Inhabited

def node (tree : FileTree) (place : List String) : Node :=
  match tree.files.lookup place with
  | some content => .file content
  | none =>
      if (tree.files.map Prod.fst ++ tree.directories).any fun other => place.isPrefixOf other then
        .directory
      else if place = [] then .directory
      else .missing

/-- Walks from a directory; `..` leads back. Every step but the last must lead to a
directory. -/
def walk (tree : FileTree) : (here steps : List String) → Except SystemFault (List String)
  | here, [] => .ok here
  | here, step :: steps =>
      match tree.node here with
      | .missing => .error .notFound
      | .file _ => .error .notADirectory
      | .directory =>
          tree.walk (if step = ".." then here.dropLast else here ++ [step]) steps

def locate (tree : FileTree) (working : List String) (path : String) :
    Except SystemFault (List String) :=
  if path = "" then .error .notFound
  else tree.walk (if FilePath.isAbsolute path then [] else working) (FilePath.steps path)

def nodeAt (tree : FileTree) (working : List String) (path : String) :
    Except SystemFault Node := do
  return tree.node (← tree.locate working path)

def read (tree : FileTree) (working : List String) (path : String) :
    Except SystemFault ByteArray := do
  match ← tree.nodeAt working path with
  | .missing => .error .notFound
  | .directory => .error .isADirectory
  | .file content => if FilePath.endsWithSlash path then .error .notADirectory else .ok content

def isPresent (tree : FileTree) (working : List String) (path : String) : Bool :=
  match tree.nodeAt working path with
  | .ok .missing | .error _ => false
  | .ok _ => true

def makeDirectories (tree : FileTree) : (here steps : List String) → Except SystemFault FileTree
  | _, [] => .ok tree
  | here, step :: steps =>
      let next := if step = ".." then here.dropLast else here ++ [step]
      match tree.node next with
      | .file _ => .error (if steps.isEmpty then .alreadyExists else .notADirectory)
      | .directory => tree.makeDirectories next steps
      | .missing =>
          { tree with directories := next :: tree.directories }.makeDirectories next steps

def makeParents (tree : FileTree) (working : List String) (path : String) :
    Except SystemFault FileTree :=
  match FilePath.parent? path with
  | none => .ok tree
  | some above =>
      tree.makeDirectories (if FilePath.isAbsolute path then [] else working)
        (FilePath.steps above)

def put (tree : FileTree) (place : List String) (content : ByteArray) : FileTree :=
  { tree with files := (place, content) :: tree.files.filter fun (other, _) => other != place }

def writable (tree : FileTree) (working : List String) (path : String) :
    Except SystemFault (List String) := do
  let place ← tree.locate working path
  match tree.node place with
  | .directory => .error .isADirectory
  | .missing => if FilePath.endsWithSlash path then .error .isADirectory else .ok place
  | .file _ => if FilePath.endsWithSlash path then .error .notADirectory else .ok place

def openAppend (tree : FileTree) (working : List String) (path : String) :
    Except SystemFault (FileTree × List String) := do
  let place ← tree.writable working path
  match tree.node place with
  | .file _ => .ok (tree, place)
  | _ => .ok (tree.put place .empty, place)

end FileTree

end ChatGateway
