/-!
Log files that are replaced when they grow too large.

* `resolvePath`: a path without empty names, single dots and steps back.
* `Files`: the contents of files by path.
* `FileLog`: a file with the size it must not reach and the number of older files that are kept.
* `FileLog.append`: one more line. When it would fill the file, the older files move up by one
  number, the file becomes number 1, and the line starts a new file.
-/

namespace EntityGraph.Log

/-- The names of a path, the last one first: a step back takes away the name before it. -/
def pathNames (names : List String) : List String :=
  names.foldl (fun seen name =>
    if name = "" ∨ name = "." then seen
    else if name = ".." ∧ seen.head?.any (· != "..") then seen.tail
    else name :: seen) []

/-- The path of a file in its only form. -/
def resolvePath (path : String) : String := "/".intercalate (pathNames (path.splitOn "/")).reverse

/-- The contents of files by path. -/
abbrev Files := List (String × String)

namespace Files

/-- The content of a file. -/
def get? (files : Files) (path : String) : Option String := files.lookup path

/-- Remove a file. -/
def remove (files : Files) (path : String) : Files := files.filter fun (p, _) => p ≠ path

/-- Give a file its content. -/
def put (files : Files) (path content : String) : Files := (path, content) :: files.remove path

/-- Create a file unless it exists. -/
def touch (files : Files) (path : String) : Files :=
  if (files.get? path).isSome then files else files.put path ""

/-- Move a file over another one; nothing happens when it does not exist. -/
def move (files : Files) (source target : String) : Files :=
  match files.get? source with
  | some content => (files.remove source).put target content
  | none => files

end Files

/-- A log file. -/
structure FileLog where
  path : String
  /-- The size in bytes that the file must not reach; 0 for any size. -/
  maxBytes : Nat
  /-- How many older files are kept. -/
  keep : Int
  deriving DecidableEq, Repr, Inhabited

namespace FileLog

/-- The path of an older file. -/
def older (f : FileLog) (n : Nat) : String := f.path ++ "." ++ toString n

/-- Move the older files numbered `n`, …, 1 up by one number. -/
def shift (f : FileLog) : Nat → Files → Files
  | 0, files => files
  | n + 1, files => f.shift n (files.move (f.older (n + 1)) (f.older (n + 2)))

/-- Make way for a new file. When no older files are kept, the file goes on. -/
def rotate (f : FileLog) (files : Files) : Files :=
  if 0 < f.keep then
    ((f.shift (f.keep.toNat - 1) files).move f.path (f.older 1)).touch f.path
  else files

/-- Whether a line would fill the file. -/
def wouldFill (f : FileLog) (files : Files) (line : String) : Bool :=
  let size := ((files.get? f.path).getD "").utf8ByteSize
  0 < f.maxBytes && f.maxBytes ≤ size + line.length

/-- Write one line, which ends in a line break. -/
def append (f : FileLog) (files : Files) (line : String) : Files :=
  let files := if f.wouldFill files line then f.rotate files else files
  files.put f.path ((files.get? f.path).getD "" ++ line)

end FileLog

end EntityGraph.Log
