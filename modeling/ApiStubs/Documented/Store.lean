import ApiStubs.Documented.Page
import ApiStubs.Files.Tree
import ApiStubs.Json.Reader

/-! Pages under a root directory, one file a page. What was once found, or found missing, is kept;
a fault is not. A fault either concerns the one page, which then cannot be had, or is more than a
reader of pages can go on after. -/

namespace ApiStubs

inductive Lookup
  | found (page : Page)
  | missing (reason : Text)

def noSource : Lookup := .missing "no documentation source"

inductive PageProblem
  | unreadable (fault : TextFault)
  | notJson (problem : Json.Problem) (before : Text)
  | notObject

def PageProblem.message : PageProblem → Text
  | .unreadable fault => fault.message
  | .notJson problem before => "invalid JSON: " ++ problem.placed before
  | .notObject => "page is not a JSON object"

inductive PageCrash
  | noName (path : Path)
  | file (fault : FileFault)
  | beyond (limit : Json.Limit)

def Path.noNameMessage (p : Path) : Text :=
  "PosixPath(" ++ Text.quoted p.render ++ ") has an empty name"

def PageCrash.message : PageCrash → Text
  | .noName path => path.noNameMessage
  | .file fault => fault.message
  | .beyond limit => limit.message

inductive PageFault
  | failed (pagePath : Text) (problem : PageProblem)
  | crashed (cause : PageCrash)

def PageFault.message : PageFault → Text
  | .failed pagePath problem =>
      "Unable to get documentation page for path " ++ pagePath ++ ": " ++ problem.message
  | .crashed cause => cause.message

/-- A page in the store; no two loads give the same serial number. -/
structure Shelved where
  serial : Nat
  lookup : Lookup

structure PageStore where
  root : Path
  shelf : List (Text × Shelved)
  loads : Nat

namespace PageStore

variable [Json.DepthLimit]

def ofRoot (root : Path) : PageStore := ⟨root, [], 0⟩

def opened (files : FileTree) (root : Path) : Except FileFault PageStore := do
  let _ ← files.isDirectory root
  return ofRoot root

def pageFile (root : Path) (pagePath : Text) : Except PageCrash Path :=
  let path := Path.ofText pagePath
  match path.withExtension? ".json" with
  | some file => .ok (root ++ file)
  | none => .error (.noName path)

def pageOfData (pagePath : Text) (data : List (Text × Json)) : Page :=
  let name := (data.lookup ("name" : Text)).getD .null
  Page.ofData (if name.isTruthy then name.display else (Path.ofText pagePath).stem) data

def readPage (files : FileTree) (pagePath : Text) (file : Path) : Except PageFault Page :=
  match files.readText file with
  | .error fault => .error (.failed pagePath (.unreadable fault))
  | .ok text =>
      match Json.readText text with
      | .error (.malformed problem remaining) =>
          .error (.failed pagePath (.notJson problem (text.take (text.length - remaining))))
      | .error (.beyond limit) => .error (.crashed (.beyond limit))
      | .ok (.obj data) => .ok (pageOfData pagePath data)
      | .ok _ => .error (.failed pagePath .notObject)

def load (files : FileTree) (root : Path) (pagePath : Text) : Except PageFault Lookup := do
  let file ← (pageFile root pagePath).mapError .crashed
  if ← (files.isFile file).mapError fun fault => .crashed (.file fault) then
    return .found (← readPage files pagePath file)
  else return .missing ("no page for " ++ pagePath)

def kept? (s : PageStore) (pagePath : Text) : Option Shelved := s.shelf.lookup pagePath

def keep (s : PageStore) (pagePath : Text) (shelved : Shelved) : PageStore :=
  { s with shelf := (pagePath, shelved) :: s.shelf.filter (·.1 ≠ pagePath) }

def number (s : PageStore) (lookup : Lookup) : Shelved × PageStore :=
  (⟨s.loads, lookup⟩, { s with loads := s.loads + 1 })

def fetch (files : FileTree) (pagePath : Text) (s : PageStore) :
    Except PageFault Shelved × PageStore :=
  match s.kept? pagePath with
  | some shelved => (.ok shelved, s)
  | none =>
      match load files s.root pagePath with
      | .error fault => (.error fault, s)
      | .ok lookup =>
          let (shelved, s) := s.number lookup
          (.ok shelved, s.keep pagePath shelved)

def update (s : PageStore) (pagePath : Text) (shelved : Shelved) : PageStore :=
  match s.kept? pagePath with
  | some old => if old.serial = shelved.serial then s.keep pagePath shelved else s
  | none => s

end PageStore
end ApiStubs
