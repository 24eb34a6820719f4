import QueryBuilder.Path

/-!
# Access to files

What a generation run needs of the files around it.  The operations are a record over a monad, so
that one pipeline runs on the operating system and on `QueryBuilder.Project.Disk`, a disk that is a
value.

* `FileError` — why an operation fails.
* `DirEntry` — what a directory lists.
* `FileSystem` — the operations.
-/

set_option autoImplicit false

namespace QueryBuilder
namespace Project

/-- Why an operation on files fails. -/
inductive FileError where
  | notFound
  | alreadyExists
  | notADirectory
  | isADirectory
  | nameTooLong
  /-- A name holds the zero character. -/
  | zeroInName
  /-- The content of a file is not text. -/
  | notText
  /-- Any other failure, in the words of the system. -/
  | other (message : String)
  deriving Repr, DecidableEq

/-- The wording of an error. -/
def FileError.message : FileError → String
  | .notFound => "No such file or directory (os error 2)"
  | .alreadyExists => "File exists (os error 17)"
  | .notADirectory => "Not a directory (os error 20)"
  | .isADirectory => "Is a directory (os error 21)"
  | .nameTooLong => "File name too long (os error 36)"
  | .zeroInName => "file name contained an unexpected NUL byte"
  | .notText => "stream did not contain valid UTF-8"
  | .other message => message

/-- An entry of a directory. -/
structure DirEntry where
  name : String
  /-- Whether the entry is a regular file. -/
  isFile : Bool
  deriving Repr, DecidableEq

/-- The operations on files, as actions of a monad. -/
structure FileSystem (m : Type → Type) where
  /-- The text of a file. -/
  readText : Path → m (Except FileError String)
  /-- The entries of a directory, in any order. -/
  list : Path → m (Except FileError (List DirEntry))
  /-- Creates a directory and those above it, as far as they are missing. -/
  createDirectories : Path → m (Except FileError Unit)
  /-- Creates a file or replaces its content. -/
  writeText : Path → String → m (Except FileError Unit)

end Project
end QueryBuilder
