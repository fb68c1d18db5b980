import UriEndpoint.Text.Utf8

/-!
# Files of the current directory

The files and directories below the current directory, by their paths. A path as written is looked
up name by name: empty names and single dots are passed over, two dots lead back to the directory
above, and every name before the last must be that of a directory. Outside the current directory
there are only the directories above it. Names and paths have a greatest length.
-/

namespace UriEndpoint

/-- The names of a path, from the current directory inwards. -/
abbrev FilePath := List Text

/-- What stands at a path. -/
inductive FileEntry where
  | directory
  | file (content : ByteArray)

/-- Files and directories by path. -/
structure Files where
  entries : List (FilePath × FileEntry) := []

/-- What a look-up finds. -/
inductive Found where
  | directory
  | file (content : ByteArray)
  /-- There is nothing. -/
  | nothing
  /-- A name before the last is that of a file. -/
  | notDirectory
  /-- A name, or the whole path, is longer than any may be. -/
  | tooLong

namespace FilePath

/-- The name of the directory above. -/
def upwards : Text := ['.', '.']

/-- Whether a path as written starts outside the current directory. -/
def isAbsolute (text : Text) : Bool := ['/'].isPrefixOf text

/-- The names of a path as written, without those that stand for the same directory; an absolute
path leads out of the current directory. -/
def ofText (text : Text) : FilePath :=
  let names := (Text.pieces '/' text).filter fun name => !name.isEmpty && name != ['.']
  if isAbsolute text then upwards :: names else names

/-- A path in text; the current directory is a single dot. -/
def text (path : FilePath) : Text :=
  match path with
  | [] => ['.']
  | names => Text.joined '/' names

/-- The most bytes of one name. -/
def mostNameBytes : Nat := 255

/-- The most bytes of a path. -/
def mostPathBytes : Nat := 4095

/-- Whether a text has more bytes than a limit. -/
def isLonger (limit : Nat) (text : Text) : Bool := limit < (Text.toUtf8 text).size

end FilePath

namespace Files

/-- No files at all. -/
def empty : Files := {}

/-- What was entered at a path. -/
def entryAt? (files : Files) (path : FilePath) : Option FileEntry := files.entries.lookup path

/-- What stands at a path of plain names. -/
def at? (files : Files) (path : FilePath) : Option FileEntry :=
  match path with
  | [] => some .directory
  | path => files.entryAt? path

/-- The files with an entry at a path, in place of what stood there. -/
def enter (files : Files) (path : FilePath) (entry : FileEntry) : Files :=
  ⟨(path, entry) :: files.entries.filter fun other => other.1 != path⟩

/-- The files with the directories above a path. -/
def withParents (files : Files) (path : FilePath) : Files :=
  match path with
  | [] => files
  | name :: rest => go files [name] rest
where
  /-- Enters a directory for each further name. -/
  go (files : Files) (above : FilePath) : FilePath → Files
    | [] => files
    | name :: rest => go (files.enter above .directory) (above ++ [name]) rest

/-- The files with an entry at a path as written, and the directories above it. -/
def write (files : Files) (text : Text) (entry : FileEntry) : Files :=
  let path := FilePath.ofText text
  (files.withParents path).enter path entry

/-- The files without a path and all below it. -/
def remove (files : Files) (text : Text) : Files :=
  let path := FilePath.ofText text
  ⟨files.entries.filter fun entry => !path.isPrefixOf entry.1⟩

/-- What names lead to outside the current directory: there is nothing but the way up. -/
def outside : FilePath → Found
  | [] => .directory
  | name :: rest =>
      if name = FilePath.upwards then outside rest
      else if FilePath.isLonger FilePath.mostNameBytes name then .tooLong
      else .nothing

/-- Walks names from a directory. -/
def walk (files : Files) (here : FilePath) : FilePath → Found
  | [] => .directory
  | name :: rest =>
      if name = FilePath.upwards then
        match here with
        | [] => outside rest
        | here => walk files here.dropLast rest
      else if FilePath.isLonger FilePath.mostNameBytes name then .tooLong
      else
        match files.at? (here ++ [name]) with
        | none => .nothing
        | some .directory => walk files (here ++ [name]) rest
        | some (.file content) => if rest.isEmpty then .file content else .notDirectory

/-- What stands at a path. -/
def find (files : Files) (path : FilePath) : Found :=
  if FilePath.isLonger FilePath.mostPathBytes (FilePath.text path) then .tooLong
  else files.walk [] path

end Files

end UriEndpoint
