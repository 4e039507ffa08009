namespace NoiseLink

inductive ErrorKind where
  | notFound
  | permissionDenied
  | connectionRefused
  | connectionReset
  | connectionAborted
  | notConnected
  | addrInUse
  | addrNotAvailable
  | brokenPipe
  | alreadyExists
  | wouldBlock
  | invalidInput
  | invalidData
  | timedOut
  | writeZero
  | interrupted
  | unsupported
  | unexpectedEof
  | outOfMemory
  | other
  deriving DecidableEq, Repr

namespace ErrorKind

def name : ErrorKind → String
  | notFound => "NotFound"
  | permissionDenied => "PermissionDenied"
  | connectionRefused => "ConnectionRefused"
  | connectionReset => "ConnectionReset"
  | connectionAborted => "ConnectionAborted"
  | notConnected => "NotConnected"
  | addrInUse => "AddrInUse"
  | addrNotAvailable => "AddrNotAvailable"
  | brokenPipe => "BrokenPipe"
  | alreadyExists => "AlreadyExists"
  | wouldBlock => "WouldBlock"
  | invalidInput => "InvalidInput"
  | invalidData => "InvalidData"
  | timedOut => "TimedOut"
  | writeZero => "WriteZero"
  | interrupted => "Interrupted"
  | unsupported => "Unsupported"
  | unexpectedEof => "UnexpectedEof"
  | outOfMemory => "OutOfMemory"
  | other => "Other"

def all : List ErrorKind :=
  [notFound, permissionDenied, connectionRefused, connectionReset, connectionAborted, notConnected, addrInUse,
    addrNotAvailable, brokenPipe, alreadyExists, wouldBlock, invalidInput, invalidData, timedOut, writeZero,
    interrupted, unsupported, unexpectedEof, outOfMemory, other]

def ofName? (s : String) : Option ErrorKind := all.find? fun k => k.name == s

def description : ErrorKind → String
  | notFound => "entity not found"
  | permissionDenied => "permission denied"
  | connectionRefused => "connection refused"
  | connectionReset => "connection reset"
  | connectionAborted => "connection aborted"
  | notConnected => "not connected"
  | addrInUse => "address in use"
  | addrNotAvailable => "address not available"
  | brokenPipe => "broken pipe"
  | alreadyExists => "entity already exists"
  | wouldBlock => "operation would block"
  | invalidInput => "invalid input parameter"
  | invalidData => "invalid data"
  | timedOut => "timed out"
  | writeZero => "write zero"
  | interrupted => "operation interrupted"
  | unsupported => "unsupported"
  | unexpectedEof => "unexpected end of file"
  | outOfMemory => "out of memory"
  | other => "other error"

end ErrorKind

inductive SystemError where
  | plain (kind : ErrorKind)
  | described (kind : ErrorKind) (text : String)
  | numbered (number : Nat) (kind text : String)
  deriving DecidableEq, Repr

namespace SystemError

def detail : SystemError → String
  | plain kind => "Kind(" ++ kind.name ++ ")"
  | described kind text => "Error \x7b kind: " ++ kind.name ++ ", message: \"" ++ text ++ "\" \x7d"
  | numbered number kind text =>
    "Os \x7b code: " ++ toString number ++ ", kind: " ++ kind ++ ", message: \"" ++ text ++ "\" \x7d"

def message : SystemError → String
  | plain kind => kind.description
  | described _ text => text
  | numbered number _ text => text ++ " (os error " ++ toString number ++ ")"

def zeroInName : SystemError := described .invalidInput "file name contained an unexpected NUL byte"
def noSuchFile : SystemError := numbered 2 "NotFound" "No such file or directory"
def noSuchDevice : SystemError := numbered 6 "Uncategorized" "No such device or address"
def permissionDenied : SystemError := numbered 13 "PermissionDenied" "Permission denied"
def notADirectory : SystemError := numbered 20 "NotADirectory" "Not a directory"
def isADirectory : SystemError := numbered 21 "IsADirectory" "Is a directory"
def nameTooLong : SystemError := numbered 36 "InvalidFilename" "File name too long"
def addressInUse : SystemError := numbered 98 "AddrInUse" "Address already in use"
def addressNotAvailable : SystemError := numbered 99 "AddrNotAvailable" "Cannot assign requested address"
def refused : SystemError := numbered 111 "ConnectionRefused" "Connection refused"

def numberedErrors : List SystemError :=
  [numbered 1 "PermissionDenied" "Operation not permitted", noSuchFile,
    numbered 4 "Interrupted" "Interrupted system call", noSuchDevice, numbered 12 "OutOfMemory" "Cannot allocate memory",
    permissionDenied, notADirectory, isADirectory,
    numbered 22 "InvalidInput" "Invalid argument", numbered 32 "BrokenPipe" "Broken pipe", nameTooLong, addressInUse,
    addressNotAvailable, numbered 101 "NetworkUnreachable" "Network is unreachable",
    numbered 103 "ConnectionAborted" "Software caused connection abort",
    numbered 104 "ConnectionReset" "Connection reset by peer",
    numbered 107 "NotConnected" "Transport endpoint is not connected", numbered 110 "TimedOut" "Connection timed out",
    refused, numbered 113 "HostUnreachable" "No route to host"]

def number? : SystemError → Option Nat
  | numbered number _ _ => some number
  | _ => none

def ofNumber? (number : Nat) : Option SystemError := numberedErrors.find? (·.number? = some number)

def kind : SystemError → ErrorKind
  | plain kind => kind
  | described kind _ => kind
  | numbered _ kind _ => (ErrorKind.ofName? kind).getD .other

end SystemError
end NoiseLink
