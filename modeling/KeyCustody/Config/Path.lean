import KeyCustody.Text.Split
import KeyCustody.Text.Utf8

/-!
Paths, and what stands where they lead. The working folder holds a folder `config` with at most one
document in it; of all other folders only the usual ones at the top of the tree are known.
-/

set_option autoImplicit false

namespace KeyCustody

structure FilePath where
  root : Text
  parts : List Text
deriving DecidableEq

namespace FilePath

def rootOf (text : Text) : Text :=
  let slashes := (text.takeWhile (· = .char '/')).length
  if slashes = 0 then [] else if slashes = 2 then "//" else "/"

def ofText (text : Text) : FilePath :=
  ⟨rootOf text, (Text.split "/" none text).filter fun part => part != [] && part != "."⟩

def join : List Text → Text
  | [] => []
  | [part] => part
  | part :: rest => part ++ "/" ++ join rest

def text (path : FilePath) : Text :=
  if path.root.isEmpty && path.parts.isEmpty then "." else path.root ++ join path.parts

def size? (text : Text) : Option Nat :=
  match Text.escapedUtf8? text with
  | some bytes => if bytes.contains 0 then none else some bytes.length
  | none => none

def pathLimit : Nat := 4096

def nameLimit : Nat := 255

end FilePath

inductive Place where
  | top
  | usual (name : Text)
  | outside
  | working
  | config
  | document
  | nothing
deriving DecidableEq

inductive Lookup where
  | found (place : Place)
  | missing
  | tooLong
deriving DecidableEq

namespace Place

def usualFolders : List Text :=
  ["bin", "boot", "dev", "etc", "home", "lib", "media", "mnt", "opt", "proc", "root", "run", "sbin",
    "srv", "sys", "tmp", "usr", "var"]

def isFolder : Place → Bool
  | document | nothing => false
  | _ => true

def above : Place → Place
  | config => working
  | working | outside => outside
  | place => if place.isFolder then top else place

def below? (holdsFile : Bool) : Place → Text → Option Place
  | top, part => if usualFolders.contains part then some (usual part) else none
  | usual name, part =>
    if name = Text.ofString "dev" ∧ part = Text.ofString "null" then some nothing else none
  | working, part => if part = Text.ofString "config" then some config else none
  | config, part =>
    if part = Text.ofString "cbsigner.yaml" ∧ holdsFile then some document else none
  | _, _ => none

def follow (holdsFile : Bool) : Place → List Text → Lookup
  | place, [] => .found place
  | place, part :: rest =>
    if !place.isFolder then .missing
    else if part = Text.ofString ".." then follow holdsFile place.above rest
    else if (FilePath.size? part).any fun size => FilePath.nameLimit < size then .tooLong
    else
      match below? holdsFile place part with
      | some place => follow holdsFile place rest
      | none => .missing

def find (holdsFile : Bool) (path : FilePath) : Lookup :=
  match FilePath.size? path.text with
  | none => .missing
  | some size =>
    if FilePath.pathLimit ≤ size then .tooLong
    else follow holdsFile (if path.root.isEmpty then working else top) path.parts

end Place

end KeyCustody
