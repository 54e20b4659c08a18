/-!
The kinds of failure an input or output call can report, whatever produced it.
-/

namespace AsyncClose

/-- What went wrong in a call, in the terms a caller can act on. -/
inductive ErrorKind
  | notFound
  | permissionDenied
  | connectionRefused
  | connectionReset
  | connectionAborted
  | notConnected
  | addrInUse
  | addrNotAvailable
  | brokenPipe
  | alreadyExists
  | wouldBlock
  | invalidInput
  | invalidData
  | timedOut
  | writeZero
  | interrupted
  | unsupported
  | unexpectedEof
  | outOfMemory
  | other
  | inputOutputError
  | tooManyOpenFiles
  | argumentListTooLong
  | crossesDevices
  | deadlock
  | directoryNotEmpty
  | executableFileBusy
  | fileTooLarge
  | filesystemLoop
  | hostUnreachable
  | inProgress
  | invalidFilename
  | isADirectory
  | networkDown
  | networkUnreachable
  | notADirectory
  | notSeekable
  | quotaExceeded
  | readOnlyFilesystem
  | resourceBusy
  | staleNetworkFileHandle
  | storageFull
  | tooManyLinks
  | uncategorized
  deriving DecidableEq

namespace ErrorKind

def name : ErrorKind → String
  | notFound => "NotFound"
  | permissionDenied => "PermissionDenied"
  | connectionRefused => "ConnectionRefused"
  | connectionReset => "ConnectionReset"
  | connectionAborted => "ConnectionAborted"
  | notConnected => "NotConnected"
  | addrInUse => "AddrInUse"
  | addrNotAvailable => "AddrNotAvailable"
  | brokenPipe => "BrokenPipe"
  | alreadyExists => "AlreadyExists"
  | wouldBlock => "WouldBlock"
  | invalidInput => "InvalidInput"
  | invalidData => "InvalidData"
  | timedOut => "TimedOut"
  | writeZero => "WriteZero"
  | interrupted => "Interrupted"
  | unsupported => "Unsupported"
  | unexpectedEof => "UnexpectedEof"
  | outOfMemory => "OutOfMemory"
  | other => "Other"
  | inputOutputError => "InputOutputError"
  | tooManyOpenFiles => "TooManyOpenFiles"
  | argumentListTooLong => "ArgumentListTooLong"
  | crossesDevices => "CrossesDevices"
  | deadlock => "Deadlock"
  | directoryNotEmpty => "DirectoryNotEmpty"
  | executableFileBusy => "ExecutableFileBusy"
  | fileTooLarge => "FileTooLarge"
  | filesystemLoop => "FilesystemLoop"
  | hostUnreachable => "HostUnreachable"
  | inProgress => "InProgress"
  | invalidFilename => "InvalidFilename"
  | isADirectory => "IsADirectory"
  | networkDown => "NetworkDown"
  | networkUnreachable => "NetworkUnreachable"
  | notADirectory => "NotADirectory"
  | notSeekable => "NotSeekable"
  | quotaExceeded => "QuotaExceeded"
  | readOnlyFilesystem => "ReadOnlyFilesystem"
  | resourceBusy => "ResourceBusy"
  | staleNetworkFileHandle => "StaleNetworkFileHandle"
  | storageFull => "StorageFull"
  | tooManyLinks => "TooManyLinks"
  | uncategorized => "Uncategorized"

/-- The text of a failure of which only the kind is known. -/
def description : ErrorKind → String
  | notFound => "entity not found"
  | permissionDenied => "permission denied"
  | connectionRefused => "connection refused"
  | connectionReset => "connection reset"
  | connectionAborted => "connection aborted"
  | notConnected => "not connected"
  | addrInUse => "address in use"
  | addrNotAvailable => "address not available"
  | brokenPipe => "broken pipe"
  | alreadyExists => "entity already exists"
  | wouldBlock => "operation would block"
  | invalidInput => "invalid input parameter"
  | invalidData => "invalid data"
  | timedOut => "timed out"
  | writeZero => "write zero"
  | interrupted => "operation interrupted"
  | unsupported => "unsupported"
  | unexpectedEof => "unexpected end of file"
  | outOfMemory => "out of memory"
  | other => "other error"
  | inputOutputError => "input/output error"
  | tooManyOpenFiles => "too many open files"
  | argumentListTooLong => "argument list too long"
  | crossesDevices => "cross-device link or rename"
  | deadlock => "deadlock"
  | directoryNotEmpty => "directory not empty"
  | executableFileBusy => "executable file busy"
  | fileTooLarge => "file too large"
  | filesystemLoop => "filesystem loop or indirection limit (e.g. symlink loop)"
  | hostUnreachable => "host unreachable"
  | inProgress => "in progress"
  | invalidFilename => "invalid filename"
  | isADirectory => "is a directory"
  | networkDown => "network down"
  | networkUnreachable => "network unreachable"
  | notADirectory => "not a directory"
  | notSeekable => "seek on unseekable file"
  | quotaExceeded => "quota exceeded"
  | readOnlyFilesystem => "read-only filesystem or storage medium"
  | resourceBusy => "resource busy"
  | staleNetworkFileHandle => "stale network file handle"
  | storageFull => "no storage space"
  | tooManyLinks => "too many links"
  | uncategorized => "uncategorized error"

def all : List ErrorKind :=
  [notFound, permissionDenied, connectionRefused, connectionReset, connectionAborted,
    notConnected, addrInUse, addrNotAvailable, brokenPipe, alreadyExists, wouldBlock,
    invalidInput, invalidData, timedOut, writeZero, interrupted, unsupported, unexpectedEof,
    outOfMemory, other, inputOutputError, tooManyOpenFiles, argumentListTooLong, crossesDevices,
    deadlock, directoryNotEmpty, executableFileBusy, fileTooLarge, filesystemLoop,
    hostUnreachable, inProgress, invalidFilename, isADirectory, networkDown, networkUnreachable,
    notADirectory, notSeekable, quotaExceeded, readOnlyFilesystem, resourceBusy,
    staleNetworkFileHandle, storageFull, tooManyLinks, uncategorized]

def ofName? (s : String) : Option ErrorKind := all.find? (·.name == s)

end ErrorKind

end AsyncClose
