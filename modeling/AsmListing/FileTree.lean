/-!
# File trees

A file tree holds files under paths.  A path that leads on from a file leads
nowhere, and a directory is whatever has a file below it.  Names are resolved
from the top of the tree, and everything outside of it is missing.
-/

namespace AsmListing

inductive PathCause where
  | missing
  | notDirectory
  | isDirectory
  | other (text : String)
deriving DecidableEq, Repr

/-- The wording of why a path cannot be used. -/
def PathCause.message : PathCause → String
  | .missing => "no such file or directory"
  | .notDirectory => "not a directory"
  | .isDirectory => "is a directory"
  | .other text => text

/-- What was tried with a path, under which name, and why it failed. -/
structure PathError where
  attempt : String
  name : String
  cause : PathCause
deriving DecidableEq, Repr

def PathError.message (failure : PathError) : String :=
  failure.attempt ++ " " ++ failure.name ++ ": " ++ failure.cause.message

/-- Files with their paths from the top. -/
structure FileTree where
  files : List (List String × List UInt8)
deriving DecidableEq, Repr

namespace FileTree

/-- The parts of a name between slashes. -/
def parts (name : String) : List String :=
  name.splitOn "/"

def nameOf (path : List String) : String :=
  "/".intercalate path

def isOutside (name : String) : Bool :=
  name.toList.head? == some '/'

/-- Puts contents at a path: in place if there is a file, and at the end
otherwise. -/
def putAt (path : List String) (contents : List UInt8) :
    List (List String × List UInt8) → List (List String × List UInt8)
  | [] => [(path, contents)]
  | (other, held) :: rest =>
      if other = path then (path, contents) :: rest
      else (other, held) :: putAt path contents rest

def put (tree : FileTree) (path : List String) (contents : List UInt8) : FileTree :=
  ⟨putAt path contents tree.files⟩

/-- The tree of files under names that need no resolution. -/
def ofList (files : List (String × List UInt8)) : FileTree :=
  files.foldl (fun tree (name, contents) =>
    tree.put ((parts name).filter fun part => part != "" && part != ".") contents) ⟨[]⟩

def contents? (tree : FileTree) (path : List String) : Option (List UInt8) :=
  tree.files.lookup path

def isDirectory (tree : FileTree) (path : List String) : Bool :=
  path.isEmpty || tree.files.any fun file =>
    path.isPrefixOf file.1 && path.length < file.1.length

def occupied (tree : FileTree) (path : List String) : Bool :=
  tree.isDirectory path || (tree.contents? path).isSome

def follow (tree : FileTree) (path : List String) : List String → Except PathCause (List String)
  | [] => .ok path
  | part :: rest =>
      if !tree.isDirectory path then .error .notDirectory
      else if part == "" || part == "." then tree.follow path rest
      else if part == ".." then
        if path.isEmpty then .error .missing else tree.follow path.dropLast rest
      else
        let next := path ++ [part]
        if tree.occupied next then tree.follow next rest else .error .missing

def read (tree : FileTree) (name : String) : Except PathError (List UInt8) :=
  if name.isEmpty || isOutside name then .error ⟨"open", name, .missing⟩
  else
    match tree.follow [] (parts name) with
    | .error cause => .error ⟨"open", name, cause⟩
    | .ok path =>
        match tree.contents? path with
        | some contents => .ok contents
        | none => .error ⟨"read", name, .isDirectory⟩

/-- The path where a file of a name can be created.  A name that ends in a
slash cannot be one. -/
def place (tree : FileTree) (name : String) : Except PathCause (List String) :=
  if name.isEmpty || isOutside name then .error .missing
  else
    let backward := (parts name).reverse
    match backward.dropWhile (· == "") with
    | [] => .error .isDirectory
    | last :: before =>
        match tree.follow [] before.reverse with
        | .error cause => .error cause
        | .ok path =>
            if !tree.isDirectory path then .error .notDirectory
            else if backward.head? == some "" || last == "." || last == ".." then
              .error .isDirectory
            else if tree.isDirectory (path ++ [last]) then .error .isDirectory
            else .ok (path ++ [last])

/-- Creates the file of a name with the given contents.  A file that is there
loses what it held. -/
def create (tree : FileTree) (name : String) (contents : List UInt8) :
    Except PathError FileTree :=
  match tree.place name with
  | .error cause => .error ⟨"open", name, cause⟩
  | .ok path => .ok (tree.put path contents)

/-- The files that are new or different in a later tree. -/
def changes (before later : FileTree) : List (String × List UInt8) :=
  later.files.filterMap fun (path, contents) =>
    if before.contents? path = some contents then none else some (nameOf path, contents)

end FileTree

end AsmListing
