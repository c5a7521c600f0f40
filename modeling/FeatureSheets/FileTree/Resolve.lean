import FeatureSheets.FileTree.Basic

/-!
# Resolving paths

Where a path leads in a tree. A path is followed name by name; an empty segment or a dot stays,
two dots go up, and at the top they stay. A link in the way is replaced by its target, at most
forty times; what is done at the last name depends on what the path is followed for. Paths that
begin with a slash and paths that do not both begin at the top, which is the working directory. A
path may not be too long, and no more may a name that is looked up.
-/

namespace FeatureSheets

/-- What a path is followed for. -/
inductive Purpose where
  /-- To see what is there. A link at the end is followed. -/
  | look
  /-- To write a file. A link at the end is followed; a last name that slashes follow can only
  mean a directory, and is refused before it is looked up. -/
  | write
  /-- To make an entry. A link at the end is not followed, and is itself in the way. -/
  | make
  deriving DecidableEq, Repr

/-- Where a path leads. The mark `slash` says that a slash follows the last name. -/
inductive Place where
  /-- To a directory. -/
  | directory (key : Key)
  /-- To a file. -/
  | file (key : Key) (content : List UInt8) (slash : Bool)
  /-- To a link that is not followed. -/
  | link (key : Key)
  /-- To a name that a directory does not have. -/
  | vacant (dir : Key) (name : Text) (slash : Bool)
  deriving DecidableEq, Repr

/-- How far a path is followed up to its next link. -/
inductive Stretch where
  /-- To its end. -/
  | ended (place : Place)
  /-- To a link, from whose directory these segments lead on. -/
  | linked (dir : Key) (segments : List Text)
  deriving DecidableEq, Repr

namespace FileTree

/-- The greatest number of links in the way of one path. -/
def maxLinks : Nat := 40

/-- The greatest number of bytes of a name. -/
def maxNameBytes : Nat := 255

/-- Follows segments from the directory `dir` up to the next link. A name is the last one when
nothing but slashes follows it. -/
def follow (t : FileTree) (purpose : Purpose) (dir : Key) :
    List Text → Except FileFault Stretch
  | [] => .ok (.ended (.directory dir))
  | s :: rest =>
    if s = [] ∨ s = ['.'] then follow t purpose dir rest
    else if s = ['.', '.'] then follow t purpose dir.dropLast rest
    else if purpose = .write ∧ rest ≠ [] ∧ rest.all (· == []) then .error .isDirectory
    else if maxNameBytes < s.byteCount then .error .tooLong
    else
      match t.get? (dir ++ [s]) with
      | none =>
        if rest.all (· == []) then .ok (.ended (.vacant dir s (rest != [])))
        else .error .missing
      | some .directory => follow t purpose (dir ++ [s]) rest
      | some (.file content) =>
        if rest.all (· == []) then .ok (.ended (.file (dir ++ [s]) content (rest != [])))
        else .error .notDirectory
      | some (.link target) =>
        if purpose = .make ∧ rest.all (· == []) then .ok (.ended (.link (dir ++ [s])))
        else .ok (.linked (if target.isAbsolute then [] else dir) (target.segments ++ rest))

/-- Follows segments through at most `links` links. -/
def resolveFrom (t : FileTree) (purpose : Purpose) :
    (links : Nat) → Key → List Text → Except FileFault Place
  | links, dir, segments =>
    match t.follow purpose dir segments, links with
    | .error fault, _ => .error fault
    | .ok (.ended place), _ => .ok place
    | .ok (.linked _ _), 0 => .error .tooManyLinks
    | .ok (.linked dir segments), links + 1 => resolveFrom t purpose links dir segments

/-- Where a path leads. -/
def resolve (t : FileTree) (purpose : Purpose) (p : Path) : Except FileFault Place :=
  if p.text = [] then .error .missing
  else if p.text.contains '\x00' then .error .nulInPath
  else if p.isTooLong then .error .tooLong
  else t.resolveFrom purpose maxLinks [] p.segments

end FileTree

end FeatureSheets
