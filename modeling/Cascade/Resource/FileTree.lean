import Cascade.Resource.Path

/-! The files below a working directory.  A path cannot lead through a file, and of the directories
outside of the tree nothing is known. -/

namespace Cascade.Resource

inductive Entry where
  | file (bytes : List UInt8)
  | directory
  | missing
  | throughFile
deriving DecidableEq, Repr

abbrev FileSystem := Path → Entry

structure FileTree where
  files : List (List Text × List UInt8)

/-- Where a walk stands: in a directory of the tree, or outside of the tree. -/
inductive Place where
  | inside (directory : List Text)
  | outside

namespace Place

def ofAnchor : Anchor → Place
  | .working => .inside []
  | .root | .doubleRoot => .outside

def parent : Place → Place
  | .inside [] => .outside
  | .inside (c :: rest) => .inside (c :: rest).dropLast
  | .outside => .outside

end Place

namespace FileTree

def entryAt (tree : FileTree) (components : List Text) : Entry :=
  match tree.files.lookup components with
  | some bytes => .file bytes
  | none =>
    if tree.files.any fun (other, _) => components.isPrefixOf other then .directory else .missing

def walk (tree : FileTree) : Place → List Text → Entry
  | _, [] => .directory
  | place, c :: rest =>
    if c = parentName then walk tree place.parent rest
    else
      match place with
      | .outside => .missing
      | .inside directory =>
        match tree.entryAt (directory ++ [c]) with
        | .directory => walk tree (.inside (directory ++ [c])) rest
        -- A file ends the path or stops it.
        | .file bytes => if rest.isEmpty then .file bytes else .throughFile
        | e => e

def fileSystem (tree : FileTree) : FileSystem := fun p =>
  tree.walk (.ofAnchor p.anchor) p.components

end FileTree
end Cascade.Resource
