/-
What reading a file or a stream can give.
-/

namespace SearchFilter

/-- content of a file or a stream, or why it cannot be read as text -/
inductive FileContent where
  | missing
  | directory
  | notText
  | text (s : String)
  deriving DecidableEq, Repr

/-- the text, or the reason why there is none -/
def FileContent.read : FileContent → Except String String
  | .missing => .error "No such file or directory (os error 2)"
  | .directory => .error "Is a directory (os error 21)"
  | .notText => .error "stream did not contain valid UTF-8"
  | .text s => .ok s

end SearchFilter
