import CollectionMarker.FileSystem.ErrorKind

/-! Refusals by the system. Each has a number, a fixed text and a kind; those that requests on
files and directories meet have a name as well. -/

namespace CollectionMarker

inductive Errno
  | notPermitted
  | noEntry
  | accessDenied
  | busy
  | alreadyExists
  | notDirectory
  | isDirectory
  | invalidArgument
  | noSpace
  | readOnly
  | nameTooLong
  | notImplemented
  | notEmpty
  | tooManyLinksFollowed
  | notSupported
  /-- Any other, by its number. No request of this library is refused with it. -/
  | other (number : Int)
  deriving DecidableEq

namespace Errno

def named : List Errno :=
  [.notPermitted, .noEntry, .accessDenied, .busy, .alreadyExists, .notDirectory, .isDirectory,
    .invalidArgument, .noSpace, .readOnly, .nameTooLong, .notImplemented, .notEmpty,
    .tooManyLinksFollowed, .notSupported]

def number : Errno → Int
  | .notPermitted => 1
  | .noEntry => 2
  | .accessDenied => 13
  | .busy => 16
  | .alreadyExists => 17
  | .notDirectory => 20
  | .isDirectory => 21
  | .invalidArgument => 22
  | .noSpace => 28
  | .readOnly => 30
  | .nameTooLong => 36
  | .notImplemented => 38
  | .notEmpty => 39
  | .tooManyLinksFollowed => 40
  | .notSupported => 95
  | .other n => n

def ofNumber (n : Int) : Errno :=
  (named.find? (·.number == n)).getD (.other n)

/-- Numbers without a name here that have a kind of their own, with that kind and their text. -/
def classified : List (Int × ErrorKind × String) := [
  (4, .interrupted, "Interrupted system call"), (5, .inputOutputError, "Input/output error"),
  (7, .argumentListTooLong, "Argument list too long"),
  (11, .wouldBlock, "Resource temporarily unavailable"),
  (12, .outOfMemory, "Cannot allocate memory"), (18, .crossesDevices, "Invalid cross-device link"),
  (23, .tooManyOpenFiles, "Too many open files in system"),
  (24, .tooManyOpenFiles, "Too many open files"), (26, .executableFileBusy, "Text file busy"),
  (27, .fileTooLarge, "File too large"), (29, .notSeekable, "Illegal seek"),
  (31, .tooManyLinks, "Too many links"), (32, .brokenPipe, "Broken pipe"),
  (35, .deadlock, "Resource deadlock avoided"), (98, .addressInUse, "Address already in use"),
  (99, .addressNotAvailable, "Cannot assign requested address"),
  (100, .networkDown, "Network is down"), (101, .networkUnreachable, "Network is unreachable"),
  (103, .connectionAborted, "Software caused connection abort"),
  (104, .connectionReset, "Connection reset by peer"),
  (107, .notConnected, "Transport endpoint is not connected"),
  (110, .timedOut, "Connection timed out"), (111, .connectionRefused, "Connection refused"),
  (113, .hostUnreachable, "No route to host"), (115, .inProgress, "Operation now in progress"),
  (116, .staleNetworkFileHandle, "Stale file handle"), (122, .quotaExceeded, "Disk quota exceeded")]

/-- Numbers without a name here that have no kind of their own, with their text. Any number that is in
neither table has no text of its own. -/
def unclassified : List (Int × String) := [
  (0, "Success"), (3, "No such process"), (6, "No such device or address"),
  (8, "Exec format error"), (9, "Bad file descriptor"), (10, "No child processes"),
  (14, "Bad address"), (15, "Block device required"), (19, "No such device"),
  (25, "Inappropriate ioctl for device"), (33, "Numerical argument out of domain"),
  (34, "Numerical result out of range"), (37, "No locks available"),
  (42, "No message of desired type"), (43, "Identifier removed"),
  (44, "Channel number out of range"), (45, "Level 2 not synchronized"), (46, "Level 3 halted"),
  (47, "Level 3 reset"), (48, "Link number out of range"), (49, "Protocol driver not attached"),
  (50, "No CSI structure available"), (51, "Level 2 halted"), (52, "Invalid exchange"),
  (53, "Invalid request descriptor"), (54, "Exchange full"), (55, "No anode"),
  (56, "Invalid request code"), (57, "Invalid slot"), (59, "Bad font file format"),
  (60, "Device not a stream"), (61, "No data available"), (62, "Timer expired"),
  (63, "Out of streams resources"), (64, "Machine is not on the network"),
  (65, "Package not installed"), (66, "Object is remote"), (67, "Link has been severed"),
  (68, "Advertise error"), (69, "Srmount error"), (70, "Communication error on send"),
  (71, "Protocol error"), (72, "Multihop attempted"), (73, "RFS specific error"),
  (74, "Bad message"), (75, "Value too large for defined data type"),
  (76, "Name not unique on network"), (77, "File descriptor in bad state"),
  (78, "Remote address changed"), (79, "Can not access a needed shared library"),
  (80, "Accessing a corrupted shared library"), (81, ".lib section in a.out corrupted"),
  (82, "Attempting to link in too many shared libraries"),
  (83, "Cannot exec a shared library directly"),
  (84, "Invalid or incomplete multibyte or wide character"),
  (85, "Interrupted system call should be restarted"), (86, "Streams pipe error"),
  (87, "Too many users"), (88, "Socket operation on non-socket"),
  (89, "Destination address required"), (90, "Message too long"),
  (91, "Protocol wrong type for socket"), (92, "Protocol not available"),
  (93, "Protocol not supported"), (94, "Socket type not supported"),
  (96, "Protocol family not supported"), (97, "Address family not supported by protocol"),
  (102, "Network dropped connection on reset"), (105, "No buffer space available"),
  (106, "Transport endpoint is already connected"),
  (108, "Cannot send after transport endpoint shutdown"),
  (109, "Too many references: cannot splice"), (112, "Host is down"),
  (114, "Operation already in progress"), (117, "Structure needs cleaning"),
  (118, "Not a XENIX named type file"), (119, "No XENIX semaphores available"),
  (120, "Is a named type file"), (121, "Remote I/O error"), (123, "No medium found"),
  (124, "Wrong medium type"), (125, "Operation canceled"), (126, "Required key not available"),
  (127, "Key has expired"), (128, "Key has been revoked"), (129, "Key was rejected by service"),
  (130, "Owner died"), (131, "State not recoverable"),
  (132, "Operation not possible due to RF-kill"), (133, "Memory page has hardware error")]

def text : Errno → String
  | .notPermitted => "Operation not permitted"
  | .noEntry => "No such file or directory"
  | .accessDenied => "Permission denied"
  | .busy => "Device or resource busy"
  | .alreadyExists => "File exists"
  | .notDirectory => "Not a directory"
  | .isDirectory => "Is a directory"
  | .invalidArgument => "Invalid argument"
  | .noSpace => "No space left on device"
  | .readOnly => "Read-only file system"
  | .nameTooLong => "File name too long"
  | .notImplemented => "Function not implemented"
  | .notEmpty => "Directory not empty"
  | .tooManyLinksFollowed => "Too many levels of symbolic links"
  | .notSupported => "Operation not supported"
  | .other n =>
    match classified.lookup n with
    | some (_, text) => text
    | none => (unclassified.lookup n).getD ("Unknown error " ++ toString n)

def kind : Errno → ErrorKind
  | .notPermitted | .accessDenied => .permissionDenied
  | .noEntry => .notFound
  | .busy => .resourceBusy
  | .alreadyExists => .alreadyExists
  | .notDirectory => .notADirectory
  | .isDirectory => .isADirectory
  | .invalidArgument => .invalidInput
  | .noSpace => .storageFull
  | .readOnly => .readOnlyFilesystem
  | .nameTooLong => .invalidFilename
  | .notEmpty => .directoryNotEmpty
  | .tooManyLinksFollowed => .filesystemLoop
  | .notImplemented | .notSupported => .unsupported
  | .other n =>
    match classified.lookup n with
    | some (kind, _) => kind
    | none => .uncategorized

end Errno

end CollectionMarker
