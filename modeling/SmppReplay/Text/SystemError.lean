/-!
# The system's words for failures

The texts of the failures of files and connections, by the system's numbers, as transcripts
and messages show them.
-/

namespace SmppReplay
namespace Text

/-- The texts of failures. -/
def systemErrors : List (Nat × String) :=
  [(1, "Operation not permitted"), (2, "No such file or directory"),
    (4, "Interrupted system call"), (5, "Input/output error"), (9, "Bad file descriptor"),
    (11, "Resource temporarily unavailable"),
    (12, "Cannot allocate memory"), (13, "Permission denied"), (17, "File exists"),
    (20, "Not a directory"), (21, "Is a directory"), (22, "Invalid argument"),
    (24, "Too many open files"), (27, "File too large"), (28, "No space left on device"),
    (30, "Read-only file system"), (32, "Broken pipe"), (36, "File name too long"),
    (40, "Too many levels of symbolic links"),
    (97, "Address family not supported by protocol"),
    (98, "Address already in use"), (99, "Cannot assign requested address"),
    (100, "Network is down"), (101, "Network is unreachable"),
    (103, "Software caused connection abort"), (104, "Connection reset by peer"),
    (105, "No buffer space available"), (107, "Transport endpoint is not connected"),
    (110, "Connection timed out"), (111, "Connection refused"), (112, "Host is down"),
    (113, "No route to host")]

/-- The text of a failure with its number. -/
def systemError? (number : Nat) : Option String :=
  (systemErrors.lookup number).map fun s => s!"{s} (os error {number})"

end Text
end SmppReplay
