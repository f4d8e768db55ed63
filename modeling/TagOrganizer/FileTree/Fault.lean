/-!
# Storage faults

Why an operation on files and folders fails.
-/

namespace TagOrganizer

/-- Why an operation on files and folders fails. -/
inductive StorageFault where
  /-- Nothing is there. -/
  | notFound
  /-- A folder is needed where something else is. -/
  | notFolder
  /-- Something other than a folder is needed where a folder is. -/
  | isFolder
  /-- Something is there already. -/
  | alreadyExists
  /-- A folder that has to be empty has entries. -/
  | notEmpty
  /-- Links lead to links too often. -/
  | linkLoop
  /-- A name or a path is too long. -/
  | nameTooLong
  /-- A folder is in use or cannot be removed. -/
  | busy
  /-- A path ends in a way that the operation does not admit. -/
  | invalidPath
  /-- A path holds the character that ends texts. -/
  | nulInPath
  /-- What is to be copied is neither a file nor a link to one. -/
  | notRegular
  deriving DecidableEq

namespace StorageFault

/-- The wording of a fault, with the number by which the system knows it. -/
def message : StorageFault → String
  | .notFound => "No such file or directory (os error 2)"
  | .notFolder => "Not a directory (os error 20)"
  | .isFolder => "Is a directory (os error 21)"
  | .alreadyExists => "File exists (os error 17)"
  | .notEmpty => "Directory not empty (os error 39)"
  | .linkLoop => "Too many levels of symbolic links (os error 40)"
  | .nameTooLong => "File name too long (os error 36)"
  | .busy => "Device or resource busy (os error 16)"
  | .invalidPath => "Invalid argument (os error 22)"
  | .nulInPath => "file name contained an unexpected NUL byte"
  | .notRegular => "the source path is neither a regular file nor a symlink to a regular file"

end StorageFault

end TagOrganizer
