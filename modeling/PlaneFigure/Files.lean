/-!
# Files and folders

What a program can see of a file system: files with their bytes, and folders of named
entries in whatever order the system lists them. A file is read as text only as a whole, and
only if its bytes are UTF-8. The names of entries need not be text at all; they are bytes, and
their order is that of the bytes.
-/

namespace PlaneFigure

/-- The name of an entry of a folder. -/
structure FileName where
  bytes : List UInt8
deriving DecidableEq

namespace FileName

/-- The first byte that differs decides. -/
instance : LE FileName := ⟨fun name other => name.bytes ≤ other.bytes⟩

/-- The first byte that differs decides. -/
instance : LT FileName := ⟨fun name other => name.bytes < other.bytes⟩

instance : DecidableLE FileName := fun name other =>
  inferInstanceAs (Decidable (name.bytes ≤ other.bytes))

/-- The mark between the parts of a name. -/
def dot : UInt8 := '.'.toUInt8

/-- The extension of a name: what stands behind its last dot. A dot at the beginning belongs to
the name. -/
def extension? (name : FileName) : Option (List UInt8) :=
  let backwards := name.bytes.reverse
  match backwards.dropWhile (· != dot) with
  | [] => none
  | _ :: stem => if stem.isEmpty then none else some (backwards.takeWhile (· != dot)).reverse

end FileName

/-- What stands at a place in a file system. -/
inductive Entry where
  | file (bytes : ByteArray)
  | folder (entries : List (FileName × Entry))

/-- Why no text can be read at a place. -/
inductive ReadFault where
  /-- There is neither a file nor a folder. -/
  | missing
  | folder
  /-- The bytes of the file are not UTF-8. -/
  | notText
deriving DecidableEq

/-- What the system reports. -/
def ReadFault.message : ReadFault → String
  | missing => "No such file or directory (os error 2)"
  | folder => "Is a directory (os error 21)"
  | notText => "stream did not contain valid UTF-8"

namespace Entry

/-- Read what stands at a place as text. -/
def readText : Option Entry → Except ReadFault String
  | none => .error .missing
  | some (folder _) => .error .folder
  | some (file bytes) =>
    match String.fromUTF8? bytes with
    | some text => .ok text
    | none => .error .notText

/-- The entries of a folder. -/
def entries? : Entry → Option (List (FileName × Entry))
  | file _ => none
  | folder entries => some entries

end Entry

end PlaneFigure
