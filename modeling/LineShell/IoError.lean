/-!
Why an operation on a file or a process failed: an error number of the system with its standard
text, or a fault that is found before the system is asked.
-/
namespace LineShell

inductive OsError where
  | noEntry
  | noSuchProcess
  | noDevice
  | tooMuchData
  | execFormat
  | badDescriptor
  | permissionDenied
  | busy
  | notDirectory
  | isDirectory
  | invalidArgument
  | programBusy
  | noSpace
  | brokenPipe
  | nameTooLong
  | notEmpty
  | tooManyLinks
  deriving DecidableEq, Repr

def OsError.number : OsError → Nat
  | .noEntry => 2
  | .noSuchProcess => 3
  | .noDevice => 6
  | .tooMuchData => 7
  | .execFormat => 8
  | .badDescriptor => 9
  | .permissionDenied => 13
  | .busy => 16
  | .notDirectory => 20
  | .isDirectory => 21
  | .invalidArgument => 22
  | .programBusy => 26
  | .noSpace => 28
  | .brokenPipe => 32
  | .nameTooLong => 36
  | .notEmpty => 39
  | .tooManyLinks => 40

def OsError.text : OsError → String
  | .noEntry => "No such file or directory"
  | .noSuchProcess => "No such process"
  | .noDevice => "No such device or address"
  | .tooMuchData => "Argument list too long"
  | .execFormat => "Exec format error"
  | .badDescriptor => "Bad file descriptor"
  | .permissionDenied => "Permission denied"
  | .busy => "Device or resource busy"
  | .notDirectory => "Not a directory"
  | .isDirectory => "Is a directory"
  | .invalidArgument => "Invalid argument"
  | .programBusy => "Text file busy"
  | .noSpace => "No space left on device"
  | .brokenPipe => "Broken pipe"
  | .nameTooLong => "File name too long"
  | .notEmpty => "Directory not empty"
  | .tooManyLinks => "Too many levels of symbolic links"

inductive IoError where
  | os (error : OsError)
  | nulInName
  | nulInData
  | notUtf8
  | closed
  | other (text : String)
  deriving DecidableEq, Repr

def IoError.message : IoError → String
  | .os error => error.text ++ " (os error " ++ toString error.number ++ ")"
  | .nulInName => "file name contained an unexpected NUL byte"
  | .nulInData => "nul byte found in provided data"
  | .notUtf8 => "stream did not contain valid UTF-8"
  | .closed => "closed"
  | .other text => text

end LineShell
