import LevelFormat.Text.Quoted

/-!
The ways in which reading or writing can fail, and the message of each.
-/

namespace LevelFormat

inductive TextFlaw where
  | undecodable
  | unrepresentable
  | progressEntry
  | recordingItem
  | versionDigits
  | versionRange
  | timestamp
  deriving DecidableEq

def TextFlaw.message : TextFlaw → String
  | undecodable => "content is not valid in the selected encoding"
  | unrepresentable => "content is not representable in the selected encoding"
  | progressEntry => "progress entry is not an 8-bit integer"
  | recordingItem => "not a recording item"
  | versionDigits => "expected decimal digits"
  | versionRange => "version value out of range"
  | timestamp => "expected timestamp"

inductive Fault where
  | truncated (offset needed remaining : Nat)
  | malformedText (text : String) (flaw : TextFlaw)
  | invalidEnumeration (kind : String) (value : Nat)
  | invalidVersion (message : String)
  | unknownEncoding (label : String)
  | trailingBytes (count : Nat)
  | textTooLong (length limit : Nat)
  | kindMismatch (id : UInt16) (kind inferred : String)
  deriving DecidableEq

def Fault.message : Fault → String
  | truncated offset needed remaining =>
    s!"unexpected end of data: needed {needed} bytes at offset {offset}, {remaining} remaining"
  | malformedText text flaw => "malformed text " ++ Text.quote text ++ ": " ++ flaw.message
  | invalidEnumeration kind value => s!"invalid {kind} value {value}"
  | invalidVersion message => s!"invalid version: {message}"
  | unknownEncoding label => "unknown text encoding " ++ Text.quote label
  | trailingBytes count => s!"{count} unexpected trailing bytes"
  | textTooLong length limit => s!"text of {length} bytes exceeds the {limit} byte limit"
  | kindMismatch id kind inferred => s!"id {id} of a {kind} record is read back as {inferred}"

end LevelFormat
