import CheckIn.Net.IoFault
import CheckIn.Text.Fields
import CheckIn.Text.Raw

/-! Files as a program sees them, and a tree of files that is fixed in advance, whose paths are
texts; a relative one starts from the working directory. -/
namespace CheckIn

/-- Whatever can be reached is there, even if it cannot be read. -/
def isReached : Except Net.IoFault (List UInt8) → Bool
  | .ok _ => true
  | .error cause => cause ≠ .noSuchFile ∧ cause ≠ .notDirectory

/-- What a program asks of a file system. -/
structure Files (m : Type → Type) where
  isPresent : Text.Raw → m Bool
  read : Text.Raw → m (Except Net.IoFault (List UInt8))

/-- Files that stay as they are. What can be read is there. -/
structure FixedFiles where
  isPresent : Text.Raw → Bool
  read : Text.Raw → Except Net.IoFault (List UInt8)
  present {path : Text.Raw} {bs : List UInt8} : read path = .ok bs → isPresent path = true

/-- Fixed files as the files of a program in any monad. -/
def FixedFiles.asFiles [Monad m] (f : FixedFiles) : Files m where
  isPresent path := pure (f.isPresent path)
  read path := pure (f.read path)

namespace Path

/-- `name` below `directory`. -/
def join (directory name : String) : String :=
  if directory.isEmpty ∨ name.startsWith "/" then name
  else if directory.endsWith "/" then directory ++ name
  else directory ++ "/" ++ name

def isAbsolute (path : String) : Bool := path.startsWith "/"

/-- `name`, which is no path of its own, below a directory whose path need not be a text. -/
def below (name : String) : Text.Raw → Text.Raw
  | .text directory => .text (join directory name)
  | .bytes bs _ => .ofBytes
    (if bs.getLast? = some 0x2f then bs ++ Text.Utf8.ofString name
    else bs ++ 0x2f :: Text.Utf8.ofString name)

def isRooted : Text.Raw → Bool
  | .text path => isAbsolute path
  | .bytes bs _ => bs.head? = some 0x2f

def names (path : String) : List String :=
  ((Text.fields '/' path.toList).filter (!·.isEmpty)).map String.ofList

end Path

/-- Files by the names on their way from the root, and directories that hold none. -/
structure FileTree where
  files : List (List String × List UInt8)
  directories : List (List String)
  workingDirectory : List String

namespace FileTree

/-- Longest name and longest path in bytes. -/
def nameLimit : Nat := 255
def pathLimit : Nat := 4095

def startsWith (start path : List String) : Bool := start.isPrefixOf path

def isDirectory (t : FileTree) (way : List String) : Bool :=
  t.files.any (fun f => way.length < f.1.length && startsWith way f.1) ||
    t.directories.any (startsWith way) || startsWith way t.workingDirectory

def content? (t : FileTree) (way : List String) : Option (List UInt8) := t.files.lookup way

/-- Where names lead from a directory; `..` leads back and stays at the root. -/
def walk (t : FileTree) : List String → List String → Except Net.IoFault (List String)
  | way, [] => .ok way
  | way, name :: names =>
    if !t.isDirectory way then
      .error (if (t.content? way).isSome then .notDirectory else .noSuchFile)
    else if name = "." then walk t way names
    else if name = ".." then walk t way.dropLast names
    else if nameLimit < name.utf8ByteSize then .error .nameTooLong
    else walk t (way ++ [name]) names

/-- The place of a path. A slash at its end asks for a directory. -/
def locate (t : FileTree) (path : String) : Except Net.IoFault (List String) := do
  if path.contains '\x00' then .error .nulInName
  else if path.isEmpty then .error .noSuchFile
  else if pathLimit < path.utf8ByteSize then .error .nameTooLong
  else
    let way ← t.walk (if Path.isAbsolute path then [] else t.workingDirectory)
      (Path.names path ++ if path.endsWith "/" then ["."] else [])
    if t.isDirectory way ∨ (t.content? way).isSome then .ok way else .error .noSuchFile

def isPresent (t : FileTree) (path : String) : Bool := (t.locate path).isOk

def read (t : FileTree) (path : String) : Except Net.IoFault (List UInt8) := do
  let way ← t.locate path
  match t.content? way with
  | some bs => .ok bs
  | none => .error .isDirectory

theorem isPresent_of_read {t : FileTree} {path : String} {bs : List UInt8}
    (content : t.read path = .ok bs) : t.isPresent path = true := by
  unfold read at content
  unfold isPresent
  cases place : t.locate path with
  | error cause =>
    rw [place] at content
    cases content
  | ok way => rfl

/-- The tree with what reading gives by paths that are no texts. -/
def besides (t : FileTree) (unnamed : List UInt8 → Except Net.IoFault (List UInt8)) :
    FixedFiles where
  isPresent
    | .text path => t.isPresent path
    | .bytes bs _ => isReached (unnamed bs)
  read
    | .text path => t.read path
    | .bytes bs _ => unnamed bs
  present {path bs} content := by
    cases path with
    | text path => exact isPresent_of_read content
    | bytes path noText =>
      have read : unnamed path = .ok bs := content
      exact congrArg isReached read

def asFiles [Monad m] (t : FileTree) : Files m :=
  (t.besides fun _ => .error .noSuchFile).asFiles

end FileTree

end CheckIn
