import ApiStubs.Files.Path
import ApiStubs.Text.Lines
import ApiStubs.Text.Utf8

/-! Files and directories, and what reading and writing them can run into. Names are octets, which
is all that a path is looked up by. -/

namespace ApiStubs

inductive Node
  | file (octets : List UInt8)
  | directory
  deriving DecidableEq

/-- A place is named from the top, or from `levels` above the working directory. -/
inductive Base
  | top
  | above (levels : Nat)
  deriving DecidableEq

structure Place where
  base : Base
  down : List (List UInt8)
  deriving DecidableEq

namespace Place

def working : Place := ⟨.above 0, []⟩

def ofSlashes (slashes : Nat) : Place := if slashes = 0 then working else ⟨.top, []⟩

def up (p : Place) : Place :=
  match p.down, p.base with
  -- the top is its own parent
  | [], .top => p
  | [], .above levels => ⟨.above (levels + 1), []⟩
  | down, base => ⟨base, down.dropLast⟩

def enter (p : Place) (name : List UInt8) : Place := { p with down := p.down ++ [name] }

end Place

inductive FileProblem
  | notFound
  | notDirectory
  | isDirectory
  | exists
  | nameTooLong
  deriving DecidableEq

def FileProblem.message : FileProblem → Text
  | .notFound => "[Errno 2] No such file or directory"
  | .notDirectory => "[Errno 20] Not a directory"
  | .isDirectory => "[Errno 21] Is a directory"
  | .exists => "[Errno 17] File exists"
  | .nameTooLong => "[Errno 36] File name too long"

inductive FileFault
  | refused (problem : FileProblem) (path : Path)
  | torn (fault : Utf8.Torn)
  | nullInPath
  deriving DecidableEq

def FileFault.message : FileFault → Text
  | .refused problem path => problem.message ++ ": " ++ path.render.quoted
  | .torn fault => fault.message
  | .nullInPath => "embedded null byte"

inductive TextFault
  | file (fault : FileFault)
  | encoding (fault : Utf8.Fault)

def TextFault.message : TextFault → Text
  | .file fault => fault.message
  | .encoding fault => fault.message

structure FileTree where
  nodes : List (Place × Node)

namespace FileTree

def empty : FileTree := ⟨[]⟩

def node? (t : FileTree) (place : Place) : Option Node :=
  if place.down = [] then some .directory else t.nodes.lookup place

def put (t : FileTree) (place : Place) (node : Node) : FileTree :=
  ⟨(place, node) :: t.nodes.filter (·.1 ≠ place)⟩

def remove (t : FileTree) (place : Place) : FileTree := ⟨t.nodes.filter (·.1 ≠ place)⟩

/-- A name has at most 255 octets, and a whole path has fewer than 4096. -/
def fitsName (name : List UInt8) : Bool := name.length ≤ 255

def fitsPath (octets : List UInt8) : Bool := octets.length < 4096

def parentName : List UInt8 := [0x2E, 0x2E]

def walk (t : FileTree) (place : Place) : List (List UInt8) → Except FileProblem Place
  | [] => .ok place
  | name :: rest =>
      match t.node? place with
      | none => .error .notFound
      | some (.file _) => .error .notDirectory
      | some .directory =>
          if fitsName name then
            walk t (if name = parentName then place.up else place.enter name) rest
          else .error .nameTooLong

def locate (t : FileTree) (p : Path) : Except FileFault Place := do
  let octets ← (Utf8.encodeName p.render).mapError .torn
  let names ← (p.segments.mapM Utf8.encodeName).mapError .torn
  if octets.contains 0 then throw .nullInPath
  else if fitsPath octets then
    (t.walk (Place.ofSlashes p.slashes) names).mapError (.refused · p)
  else throw (.refused .nameTooLong p)

def nodeAt (t : FileTree) (p : Path) : Except FileFault Node := do
  match t.node? (← t.locate p) with
  | some node => .ok node
  | none => .error (.refused .notFound p)

/-- A name that is too long is a fault; whatever else is wrong means that nothing is there. -/
def look (t : FileTree) (p : Path) : Except FileFault (Option Node) :=
  match t.nodeAt p with
  | .ok node => .ok (some node)
  | .error (.refused .nameTooLong path) => .error (.refused .nameTooLong path)
  | .error _ => .ok none

def isFile (t : FileTree) (p : Path) : Except FileFault Bool := do
  match ← t.look p with
  | some (.file _) => return true
  | _ => return false

def isDirectory (t : FileTree) (p : Path) : Except FileFault Bool := do
  return (← t.look p) == some .directory

def read (t : FileTree) (p : Path) : Except FileFault (List UInt8) := do
  match ← t.nodeAt p with
  | .file octets => return octets
  | .directory => throw (.refused .isDirectory p)

def readText (t : FileTree) (p : Path) : Except TextFault Text :=
  match t.read p with
  | .error fault => .error (.file fault)
  | .ok octets =>
      match Utf8.decode octets with
      | .error fault => .error (.encoding fault)
      | .ok text => .ok (Text.unifyNewlines text)

def write (t : FileTree) (p : Path) (octets : List UInt8) : Except FileFault FileTree := do
  let place ← t.locate p
  if t.node? place = some .directory then throw (.refused .isDirectory p)
  else return t.put place (.file octets)

def delete (t : FileTree) (p : Path) : Except FileFault FileTree := do
  let place ← t.locate p
  match t.node? place with
  | none => throw (.refused .notFound p)
  | some .directory => throw (.refused .isDirectory p)
  | some (.file _) => return t.remove place

def makeDirectory (t : FileTree) (p : Path) : Except FileFault FileTree := do
  let place ← t.locate p
  match t.node? place with
  | some _ => throw (.refused .exists p)
  | none => return t.put place .directory

def settle (t : FileTree) (p : Path) (fault : FileFault) : Option FileFault :=
  match t.nodeAt p with
  | .ok .directory => none
  | _ => some fault

/-- Makes a directory, given by its segments from the last one on, and first those above it that
are missing. Those made before a fault stay. -/
def makeAll (slashes : Nat) : List Text → FileTree → FileTree × Option FileFault
  | [], t => (t, none)
  | segment :: above, t =>
      let p : Path := ⟨slashes, (segment :: above).reverse⟩
      match t.makeDirectory p with
      | .ok t => (t, none)
      | .error (.refused .notFound _) =>
          match makeAll slashes above t with
          | (t, some fault) => (t, some fault)
          | (t, none) =>
              match t.makeDirectory p with
              | .ok t => (t, none)
              | .error (.refused .notFound _) => (t, some (.refused .notFound p))
              | .error fault => (t, t.settle p fault)
      | .error fault => (t, t.settle p fault)

def makeDirectories (t : FileTree) (p : Path) : FileTree × Option FileFault :=
  makeAll p.slashes p.segments.reverse t

end FileTree
end ApiStubs
