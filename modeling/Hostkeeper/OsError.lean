/-! Failures of the operating system, with the texts it gives them. -/
namespace Hostkeeper

inductive OsError where
  | notFound
  | exchangeFormat
  | badDescriptor
  | permissionDenied
  | exists
  | notDirectory
  | isDirectory
  | noSpace
  | nameTooLong
  | tooManyLinks
  | brokenPipe
  /-- A file read as text holds bytes that are no UTF-8. -/
  | notText
  | other (text : String)
  deriving DecidableEq, Repr

def OsError.reason : OsError → String
  | .notFound => "No such file or directory"
  | .exchangeFormat => "Exec format error"
  | .badDescriptor => "Bad file descriptor"
  | .permissionDenied => "Permission denied"
  | .exists => "File exists"
  | .notDirectory => "Not a directory"
  | .isDirectory => "Is a directory"
  | .noSpace => "No space left on device"
  | .nameTooLong => "File name too long"
  | .tooManyLinks => "Too many levels of symbolic links"
  | .brokenPipe => "Broken pipe"
  | .notText => "stream did not contain valid UTF-8"
  | .other text => text

def OsError.code? : OsError → Option Nat
  | .notFound => some 2
  | .exchangeFormat => some 8
  | .badDescriptor => some 9
  | .permissionDenied => some 13
  | .exists => some 17
  | .notDirectory => some 20
  | .isDirectory => some 21
  | .noSpace => some 28
  | .brokenPipe => some 32
  | .nameTooLong => some 36
  | .tooManyLinks => some 40
  | .notText | .other _ => none

def OsError.message (e : OsError) : String :=
  match e.code? with
  | some n => e.reason ++ " (os error " ++ toString n ++ ")"
  | none => e.reason

end Hostkeeper
