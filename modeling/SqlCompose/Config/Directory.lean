/-!
# Files

What a process finds in its files. Below a working directory that is known as a whole, it is found
along relative paths.
-/

namespace SqlCompose

/-- What a process finds: the text at a path, if there is one that can be read, whether there is
anything at a path, and the bytes of its environment file, if it has one. -/
structure Files where
  text? : String → Option String
  exists? : String → Bool
  environment? : Option ByteArray

/-- The files below a directory: the names on the way to each one, and its bytes. -/
structure Directory where
  files : List (List String × ByteArray)

namespace Directory

def file? (d : Directory) (names : List String) : Option ByteArray :=
  (d.files.find? fun f => f.1 = names).map (·.2)

/-- The directories are the places on the way to a file, the working directory among them. -/
def isDirectory (d : Directory) (names : List String) : Bool :=
  names.isEmpty || d.files.any fun f => names.length < f.1.length && names.isPrefixOf f.1

/-- The steps of a path written with slashes. -/
def steps (path : String) : List String :=
  (path.toList.splitOn '/').map String.ofList

/-- Goes along a path. Every step starts from a directory, and no step leads out of the working
directory. -/
def resolve? (d : Directory) (here : List String) : List String → Option (List String)
  | [] => some here
  | step :: rest =>
    if !d.isDirectory here then none
    else if step = "" ∨ step = "." then resolve? d here rest
    else if step = ".." then if here.isEmpty then none else resolve? d here.dropLast rest
    else resolve? d (here ++ [step]) rest

/-- The text of the file at a path: the path leads to a file and its bytes are a text. -/
def readText? (d : Directory) (path : String) : Option String :=
  if path = "" ∨ path.startsWith "/" then none
  else do
    let names ← d.resolve? [] (steps path)
    let bytes ← d.file? names
    String.fromUTF8? bytes

def exists? (d : Directory) (path : String) : Bool :=
  match d.resolve? [] (steps path) with
  | some names => (d.file? names).isSome || d.isDirectory names
  | none => false

/-- The name of the environment file. -/
def environmentFile : String := ".env"

/-- What a process finds that works in a directory. -/
def toFiles (d : Directory) : Files where
  text? := d.readText?
  exists? := d.exists?
  environment? := d.file? [environmentFile]

instance : Coe Directory Files := ⟨toFiles⟩

end Directory

end SqlCompose
