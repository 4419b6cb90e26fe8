import BlazorBridge.Path
import BlazorBridge.Text.Utf8

/-!
# Faults

What can go wrong in a run, as causes, each with its wording.
-/

namespace BlazorBridge

/-- Why the file system refuses an operation. -/
inductive StoreCause where
  | missing
  | notDirectory
  | isDirectory
  | nameTooLong
  deriving DecidableEq, Repr

/-- The wording of a refusal, for the path it was refused at. -/
def StoreCause.message (cause : StoreCause) (path : Path) : Text :=
  (match cause with
    | .missing => "[Errno 2] No such file or directory: ".toList
    | .notDirectory => "[Errno 20] Not a directory: ".toList
    | .isDirectory => "[Errno 21] Is a directory: ".toList
    | .nameTooLong => "[Errno 36] File name too long: ".toList) ++ Text.quoted path.toText

/-- The wording of a reason for which bytes are no text. -/
def Utf8.Reason.message : Utf8.Reason → Text
  | .badStart => "invalid start byte".toList
  | .badContinuation => "invalid continuation byte".toList
  | .cutShort => "unexpected end of data".toList

/-- The wording of a decoding fault. A single byte is shown by its value, several by the positions of
the first and the last. -/
def Utf8.Fault.message (fault : Utf8.Fault) : Text :=
  let bytes :=
    if fault.count = 1 then
      "byte 0x".toList ++ Text.hexDigits 2 fault.first.toNat ++ " in position ".toList ++
        Text.ofNat fault.position
    else
      "bytes in position ".toList ++ Text.ofNat fault.position ++ "-".toList ++
        Text.ofNat (fault.position + fault.count - 1)
  "'utf-8' codec can't decode ".toList ++ bytes ++ ": ".toList ++ fault.reason.message

/-- Why a source cannot be read. -/
inductive ReadCause where
  | store (cause : StoreCause)
  | encoding (fault : Utf8.Fault)
  deriving DecidableEq, Repr

/-- Why an operation on files fails. -/
inductive Fault where
  | unreadable (source : Path) (cause : ReadCause)
  | unwritable (output : Path) (cause : StoreCause)
  | unsearchable (path : Path) (cause : StoreCause)
  | suffix (fault : Path.SuffixFault)
  | nullInPath
  | partialDoubleStar
  | anchoredPattern
  deriving DecidableEq, Repr

namespace Fault

/-- The wording of a fault. -/
def message : Fault → Text
  | .unreadable source cause =>
    "Cannot read ".toList ++ source.toText ++ ": ".toList ++
      match cause with
      | .store cause => cause.message source
      | .encoding fault => fault.message
  | .unwritable output cause =>
    "Cannot write ".toList ++ output.toText ++ ": ".toList ++ cause.message output
  | .unsearchable path cause => cause.message path
  | .suffix fault => fault.message
  | .nullInPath => "embedded null byte".toList
  | .partialDoubleStar =>
    "Invalid pattern: '**' can only be an entire path component".toList
  | .anchoredPattern => "Non-relative patterns are unsupported".toList

/-- Whether a fault is a failure of one file, which a run over several files survives. -/
def ofOneFile : Fault → Bool
  | .unreadable .. => true
  | .unwritable .. => true
  | _ => false

end Fault

end BlazorBridge
