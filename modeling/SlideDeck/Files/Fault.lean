import SlideDeck.Text.Quoted
import SlideDeck.Text.Encoding

/-!
# Faults of the surroundings

What a file system answers instead of a file, and what keeps a file's bytes from being text. These
are not errors of a deck: a deck error may be caused by one, and some of them pass through the
library as they are.
-/

namespace SlideDeck

/-- Why a file system refuses an operation. -/
inductive Refusal where
  | noEntry
  | exists
  | notFolder
  | isFolder
  | nameTooLong
  | tooManyLinks
deriving DecidableEq, Repr

/-- The number of a refusal. -/
def Refusal.number : Refusal → Nat
  | .noEntry => 2
  | .exists => 17
  | .notFolder => 20
  | .isFolder => 21
  | .nameTooLong => 36
  | .tooManyLinks => 40

/-- A refusal in words. -/
def Refusal.text : Refusal → String
  | .noEntry => "No such file or directory"
  | .exists => "File exists"
  | .notFolder => "Not a directory"
  | .isFolder => "Is a directory"
  | .nameTooLong => "File name too long"
  | .tooManyLinks => "Too many levels of symbolic links"

/-- A fault of the surroundings. -/
inductive Fault where
  | refused (why : Refusal) (path : String)
  | nulInPath
  | linkLoop (path : String)
  | undecodable (why : Text.Undecodable)
  | noEncoding (why : Text.Encoding.Unnamed)
deriving DecidableEq, Repr

/-- A fault in words. -/
def Fault.message : Fault → String
  | .refused why path =>
    "[Errno " ++ toString why.number ++ "] " ++ why.text ++ ": " ++ Text.quoted path
  | .nulInPath => "embedded null byte"
  | .linkLoop path => "Symlink loop from " ++ Text.quoted path
  | .undecodable why => why.message
  | .noEncoding why => why.message

end SlideDeck
