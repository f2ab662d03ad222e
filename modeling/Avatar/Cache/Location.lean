import Avatar.Failure
import Avatar.Text.Parts

/-! # Where a cache is kept

    The file of a cache is named by a path, and the directories on the
    way to it are made when it is opened.  A path that leads to a
    directory names no file.  Names and paths have a greatest length, that
    of a file so that its journal can stand beside it, and no null octet
    stands in them. -/

namespace Avatar.Cache

/-- A place among the directories: the segments that lead there from the
    directory of the process, last one first, or from the root, which is
    then the last of them and spelled as a slash. -/
abbrev Place := List Text

/-- The place that a segment leads to.  There is nothing above the
    root. -/
def Place.enter (place : Place) (segment : Text) : Place :=
  if segment.isEmpty || segment = "." then place
  else if segment = ".." then
    match place with
    | [] => [segment]
    | last :: before =>
      if last = "/" then place else if last = ".." then segment :: place else before
  else segment :: place

/-- The places that segments lead through, the first one included. -/
def Place.through (place : Place) : List Text → List Place
  | [] => [place]
  | segment :: segments => place :: through (place.enter segment) segments

/-- The directories that a system has at its root. -/
def rootDirectories : List Text := [
  "bin", "boot", "dev", "etc", "home", "lib", "media", "mnt", "opt", "proc", "root", "run",
  "sbin", "srv", "sys", "tmp", "usr", "var"]

/-- Whether a place is a directory whatever was made before: the root, one
    of those at the root, or the directory of the process or one above
    it. -/
def Place.isAlwaysThere (place : Place) : Bool :=
  place.all (· = Text.ofString "..") || place = [Text.ofString "/"]
    || rootDirectories.any fun name => place = [name, Text.ofString "/"]

/-- The place that a path starts from. -/
def startOf (path : Text) : Place := if Text.startsWith "/" path then [Text.ofString "/"] else []

/-- The places that a path leads through, the one it leads to included. -/
def placesOf (path : Text) : List Place := (startOf path).through (path.splitOn '/')

/-- Whether a path leads to a directory: one that it leads through, or one
    that is there anyway. -/
def leadsToDirectory (path : Text) : Bool :=
  let places := placesOf path
  match places.getLast? with
  | none => true
  | some last => last.isAlwaysThere || places.dropLast.contains last

/-- The octets of a place's name, counted from the root for a path from
    there and from the directory of the process for another. -/
def Place.length (place : Place) : Nat :=
  (place.filter (· != Text.ofString "/")).foldr (fun segment total =>
    1 + segment.utf8.length + total) 0

/-- The most octets in the name of a directory. -/
def maxNameLength : Nat := 255

/-- The most octets in the path of a directory. -/
def maxPathLength : Nat := 4095

/-- The octets by which a journal's name is longer than that of its
    file. -/
def journalEnding : Nat := 8

/-- The most octets in the full path of a journal. -/
def maxJournalPathLength : Nat := 512

/-- The octets that the name of the directory of the process takes. -/
def processDirectoryLength : Nat := 16

/-- Whether the journal of a file, or its full path, would have too long a
    name. -/
def isTooLong (path : Text) : Bool :=
  let before := if Text.startsWith "/" path then 0 else processDirectoryLength
  let full := ((placesOf path).getLast?.map Place.length).getD 0
  maxNameLength < ((path.splitOn '/').getLast?.getD []).utf8.length + journalEnding
    || maxJournalPathLength < before + full + journalEnding

/-- Refuses the name of a directory that cannot be made. -/
def checkDirectoryName (name : Text) : Except Failure Unit := do
  let octets ← name.encode
  if octets.contains 0 then throw .nullInName
  if maxNameLength < octets.length then throw .nameTooLong

/-- Refuses a path whose directories cannot be made.  The first of them
    that cannot be is the reason. -/
def checkDirectories (path : Text) : Except Failure Unit := do
  let names := (path.splitOn '/').dropLast
  names.forM checkDirectoryName
  let length := names.foldr (fun name total => name.utf8.length + 1 + total) 0
  if maxPathLength < length - 1 then throw .nameTooLong

/-- Refuses a path that names no file, or one that cannot be made.  Under
    the empty path a cache is kept in a file without a name. -/
def checkFile (path : Text) : Except Failure Unit := do
  let octets ← path.encode
  if octets.contains 0 then throw .nullInPath
  if !path.isEmpty && (isTooLong path || leadsToDirectory path) then throw .cacheNotOpened

/-- Refuses a path under which no cache can be kept: first for its
    directories, which are made before the file, then for the file. -/
def checkLocation (path : Text) : Except Failure Unit := do
  checkDirectories path
  checkFile path

end Avatar.Cache
