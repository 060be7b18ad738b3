-- The errors of the system when it reads or writes a file, with the words it uses for them: a
-- missing file, a directory where a file was wanted, a path too long, a file where a directory
-- was wanted, a loop of symbolic links, a path holding a NUL byte, and bytes that are not UTF-8
-- where text was wanted.
import ConsoleSweep.Tree.Path
namespace ConsoleSweep

/-- Why the system could not read or write a file. -/
inductive IoError where
  /-- Nothing is at the path. -/
  | notFound
  /-- The path names a directory. -/
  | isDirectory
  /-- The path is longer than the system allows. -/
  | nameTooLong
  /-- A part of the path before its last names a file, not a directory. -/
  | notDirectory
  /-- Resolving the path followed too many symbolic links. -/
  | tooManyLinks
  /-- The path holds a NUL byte, which ends a path for the system, so it is refused before any
  lookup. -/
  | nulInPath
  /-- A store kept in memory holds no document of that name. -/
  | noSuchDocument
  /-- The bytes read are not UTF-8, where text was wanted. -/
  | notUtf8
deriving Repr, BEq, Inhabited

/-- How the system describes an input or output error. -/
def IoError.message : IoError → String
  | .notFound => "No such file or directory (os error 2)"
  | .isDirectory => "Is a directory (os error 21)"
  | .nameTooLong => "File name too long (os error 36)"
  | .notDirectory => "Not a directory (os error 20)"
  | .tooManyLinks => "Too many levels of symbolic links (os error 40)"
  | .nulInPath => "file name contained an unexpected NUL byte"
  | .noSuchDocument => "no such document"
  | .notUtf8 => "stream did not contain valid UTF-8"

end ConsoleSweep
