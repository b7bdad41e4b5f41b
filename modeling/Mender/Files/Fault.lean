namespace Mender.Files

inductive Fault where
  | notFound
  | permissionDenied
  | notDirectory
  | isDirectory
  | nameTooLong
  | unsupported
  | existing
  | notEmpty
  | badDescriptor
  | argumentsTooLong
  /-- The bytes of a file that was read as text are not UTF-8. -/
  | invalidText
  | zeroByte
  | zeroByteArgument
  deriving DecidableEq, Repr, Inhabited

def Fault.message : Fault → String
  | notFound => "No such file or directory (os error 2)"
  | permissionDenied => "Permission denied (os error 13)"
  | notDirectory => "Not a directory (os error 20)"
  | isDirectory => "Is a directory (os error 21)"
  | nameTooLong => "File name too long (os error 36)"
  | unsupported => "Operation not supported (os error 95)"
  | existing => "File exists (os error 17)"
  | notEmpty => "Directory not empty (os error 39)"
  | badDescriptor => "Bad file descriptor (os error 9)"
  | argumentsTooLong => "Argument list too long (os error 7)"
  | invalidText => "stream did not contain valid UTF-8"
  | zeroByte => "file name contained an unexpected NUL byte"
  | zeroByteArgument => "nul byte found in provided data"

def Fault.reason : Fault → String
  | notFound => "No such file or directory"
  | permissionDenied => "Permission denied"
  | notDirectory => "Not a directory"
  | isDirectory => "Is a directory"
  | nameTooLong => "File name too long"
  | unsupported => "Operation not supported"
  | existing => "File exists"
  | notEmpty => "Directory not empty"
  | badDescriptor => "Bad file descriptor"
  | argumentsTooLong => "Argument list too long"
  | invalidText => "Invalid or incomplete multibyte or wide character"
  | zeroByte | zeroByteArgument => "Invalid argument"

end Mender.Files
