import FieldSearch.Text.Split

/-!
# Paths

A path is a sequence of parts between slashes. A part that is empty or a dot leads nowhere, and two
dots lead back. The plain form of a path is without parts that can be told to be of no use from the
path alone, so that two paths of one plain form lead to the same file.
-/

namespace FieldSearch.Cli.Path

/-- The parts of a path. -/
def parts (path : String) : List String :=
  (Text.splitAll (· = '/') path.toList).map String.ofList

/-- Whether a path begins at the root of all files. -/
def isAbsolute (path : String) : Bool := path.toList.head? == some '/'

/-- Puts a part before the parts that have been taken, the last of them first. -/
def push (absolute : Bool) (taken : List String) (part : String) : List String :=
  if part == "" || part == "." then taken
  else if part == ".." then
    match taken with
    | [] => if absolute then [] else [part]
    | ".." :: _ => part :: taken
    | _ :: earlier => earlier
  else part :: taken

/-- The plain form of a path. -/
def plain (path : String) : String :=
  let taken := (parts path).foldl (push (isAbsolute path)) []
  (if isAbsolute path then "/" else "") ++ "/".intercalate taken.reverse

end FieldSearch.Cli.Path
