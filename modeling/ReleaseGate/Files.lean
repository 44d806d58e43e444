/-
# Files — what reading files and directories comes to

A file is read as text or not at all; a directory is listed by the names in it.
Both answers are plain values, so what is made of them does not depend on where
they come from.
-/
namespace ReleaseGate.Files

set_option autoImplicit false

/-- Why a file or directory cannot be used. -/
inductive Fault where
  | missing
  | occupied
  | notDirectory
  | isDirectory
  | nameTooLong
  /-- A name with the character of number zero in it. -/
  | zeroInName
  /-- A path that nothing can be removed by. -/
  | notRemovable
  /-- The bytes of a file are no UTF-8. -/
  | notText
  /-- What somebody else says about it. -/
  | reported (reason : String)
  deriving DecidableEq, Repr

def Fault.message : Fault → String
  | .missing => "No such file or directory (os error 2)"
  | .occupied => "File exists (os error 17)"
  | .notDirectory => "Not a directory (os error 20)"
  | .isDirectory => "Is a directory (os error 21)"
  | .nameTooLong => "File name too long (os error 36)"
  | .zeroInName => "file name contained an unexpected NUL byte"
  | .notRemovable => "Invalid argument (os error 22)"
  | .notText => "stream did not contain valid UTF-8"
  | .reported reason => reason

/-- What reading a file comes to. -/
abbrev Contents := Except Fault String

/-- A name in a directory, and what reading the file comes to. A name is text: file
names of bytes that are no UTF-8 are left out, since a `String` cannot hold them. Of a
name nothing is asked but its ending and its place among the others. -/
structure Item where
  name : String
  contents : Contents

/-- What listing a directory comes to. -/
abbrev Listing := Except Fault (List Item)

/-- Whether a file name has the given ending after its last point; something has to
stand before that point. -/
def hasExtension (extension : String) (name : String) : Bool :=
  let reversed := name.toList.reverse
  let ending := reversed.takeWhile (· != '.')
  match reversed.drop ending.length with
  | '.' :: _ :: _ => String.ofList ending.reverse = extension && name != ".."
  | _ => false

/-- The path of a name in a directory. -/
def join (directory name : String) : String :=
  if directory.isEmpty then name
  else if directory.endsWith "/" then directory ++ name
  else directory ++ "/" ++ name

end ReleaseGate.Files
