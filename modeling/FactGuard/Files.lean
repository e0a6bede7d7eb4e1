/-!
# Files — what is found at paths

A program asks two things of a path: whether it leads to anything, and what it reads there. What the
program does is a function of the answers, which are `Files`. A `FileTree` is a set of files held in
memory.
-/

namespace FactGuard

/-- Why a file cannot be read. -/
inductive FileFault
  | notFound
  | isDirectory
  | notDirectory
  | notUtf8
  /-- The path, or a segment of it, is too long. -/
  | nameTooLong
  /-- The file may not be read, or a directory on the way not searched. -/
  | forbidden
  /-- Links on the way lead round in a circle. -/
  | linkLoop
  /-- The character numbered zero stands in the path. -/
  | zeroInName
  | other (reason : String)
  deriving DecidableEq, Repr

/-- The wording of a fault. -/
def FileFault.message : FileFault → String
  | notFound => "No such file or directory (os error 2)"
  | isDirectory => "Is a directory (os error 21)"
  | notDirectory => "Not a directory (os error 20)"
  | notUtf8 => "stream did not contain valid UTF-8"
  | nameTooLong => "File name too long (os error 36)"
  | forbidden => "Permission denied (os error 13)"
  | linkLoop => "Too many levels of symbolic links (os error 40)"
  | zeroInName => "file name contained an unexpected NUL byte"
  | other reason => reason

/-- **What is found at paths.** One answer does not tell the other: what is there may be unreadable, and
a path that cannot be followed may fail in the same way as a file that cannot be read. -/
structure Files where
  /-- Whether a path leads to anything, readable or not. -/
  present : String → Bool
  /-- How reading a path comes out. -/
  read : String → Except FileFault String

/-- Files that are there, with the given texts, and nothing else. -/
def Files.ofTexts (texts : List (String × String)) : Files where
  present path := (texts.lookup path).isSome
  read path :=
    match texts.lookup path with
    | some text => .ok text
    | none => .error .notFound

/-! ## Files in memory -/

/-- A file, or a directory. -/
inductive FileTree.Node
  | file (content : ByteArray)
  | directory

/-- Files and directories by the segments of their paths. A directory is there when something in it is. -/
structure FileTree where
  nodes : List (List String × FileTree.Node) := []

namespace FileTree

/-- The segments of a path. Empty ones, and those that stay where they are, do not count. -/
def segments (path : String) : List String :=
  ((path.splitOn "/").filter fun segment => segment ≠ "" && segment ≠ ".")

/-- Adds a file or a directory. -/
def add (tree : FileTree) (path : String) (node : Node) : FileTree :=
  ⟨tree.nodes ++ [(segments path, node)]⟩

/-- Whether the segments lead to a directory. -/
def isDirectory (tree : FileTree) (place : List String) : Bool :=
  place.isEmpty || tree.nodes.any fun (path, node) =>
    (place.isPrefixOf path && place.length < path.length) ||
      (path = place && match node with
        | .directory => true
        | .file _ => false)

/-- The content of a file. -/
def content? (tree : FileTree) (place : List String) : Option ByteArray :=
  tree.nodes.reverse.findSome? fun (path, node) =>
    if path = place then
      match node with
      | .file content => some content
      | .directory => none
    else none

/-- The number of bytes that a segment may have. -/
def segmentLimit : Nat := 255

/-- The number of bytes from which on a path is too long. -/
def pathLimit : Nat := 4096

/-- Whether no directory can have an entry of the given name. -/
def isTooLong (segment : String) : Bool := segmentLimit < segment.utf8ByteSize

/-- Follows segments from a directory outside the tree. Nothing is known of such directories but that they
are there, and so the root of the tree stands for all of them. -/
def followOutside : List String → Except FileFault (List String)
  | [] => .ok []
  | segment :: rest =>
    if segment = ".." then followOutside rest
    else if isTooLong segment then .error .nameTooLong
    else .error .notFound

/-- Follows segments from `place`; two dots go back to the directory before. -/
def follow (tree : FileTree) : List String → List String → Except FileFault (List String)
  | place, [] => .ok place
  | place, segment :: rest =>
    if tree.isDirectory place then
      if segment = ".." then
        if place = [] then followOutside rest else follow tree place.dropLast rest
      else if isTooLong segment then .error .nameTooLong
      else follow tree (place ++ [segment]) rest
    else if (tree.content? place).isSome then .error .notDirectory
    else .error .notFound

/-- Whether a path can only mean a directory. -/
def wantsDirectory (path : String) : Bool := path.endsWith "/" || path.endsWith "/."

/-- Where a path leads. Paths from the root of the file system lead out of the tree. -/
def resolve (tree : FileTree) (path : String) : Except FileFault (List String) :=
  if path.toList.contains '\x00' then .error .zeroInName
  else if path = "" then .error .notFound
  else if pathLimit ≤ path.utf8ByteSize then .error .nameTooLong
  else if path.startsWith "/" then followOutside (segments path)
  else tree.follow [] (segments path)

/-- Whether a path leads to a file or a directory. -/
def present (tree : FileTree) (path : String) : Bool :=
  match tree.resolve path with
  | .ok place => if (tree.content? place).isSome then !wantsDirectory path else tree.isDirectory place
  | .error _ => false

/-- The text that a path leads to. -/
def text (tree : FileTree) (path : String) : Except FileFault String := do
  let place ← tree.resolve path
  match tree.content? place with
  | some content =>
    if wantsDirectory path then throw .notDirectory
    match String.fromUTF8? content with
    | some text => return text
    | none => throw .notUtf8
  | none => throw (if tree.isDirectory place then .isDirectory else .notFound)

/-- What is found at the paths of a tree. -/
def read (tree : FileTree) : Files := ⟨tree.present, tree.text⟩

end FileTree

end FactGuard
