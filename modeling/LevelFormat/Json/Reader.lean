import LevelFormat.Json.Number

/-!
Reading a JSON document from front to back.

A reader takes what it needs and stops at the first fault, so of several faults in a document
the first in reading order is reported. What nobody asks for is passed over, but still has to be
JSON. Every step takes a character at least, so the length of a text is enough steps.
-/

namespace LevelFormat.Json

abbrev Reader := StateT (List Char) (Except Fault)

namespace Reader

def word {α : Type} (found? : List Char → Option (α × List Char)) : Reader α := fun text =>
  match found? text with
  | some found => .ok found
  | none => .error .malformed

def peek : Reader (Option Char) := do
  modify (List.dropWhile isBlank)
  return (← get).head?

def drop : Reader Unit := modify (List.drop 1)

def expect (char : Char) : Reader Unit := do
  if (← peek) = some char then drop else throw .malformed

def finish : Reader Unit := do
  unless (← peek).isNone do throw .malformed

/-! ### Scalars -/

def literal (text : List Char) (found : Found) : Reader Found :=
  word fun rest => (afterLiteral? text rest).map (found, ·)

def string : Reader (List Char) := do
  expect '"'
  word fun text => do
    let (pieces, rest) ← pieces? text
    return (← chars? pieces, rest)

def number : Reader Found :=
  word fun text => do
    let (numeral, rest) ← numeral? text
    return (← numeral.value?, rest)

def found : Reader Found := do
  match ← peek with
  | some '[' => return .sequence
  | some '{' => return .map
  | some '"' => return .string (← string)
  | some 'n' => literal ['n', 'u', 'l', 'l'] .null
  | some 't' => literal ['t', 'r', 'u', 'e'] (.boolean true)
  | some 'f' => literal ['f', 'a', 'l', 's', 'e'] (.boolean false)
  | _ => number

def natural (limit : Nat) (expected : String) : Reader Nat := do
  match ← found with
  | .integer value =>
    if 0 ≤ value && value ≤ limit then return value.toNat
    else throw (.invalidValue (.integer value) expected)
  | other => throw (.invalidType other expected)

def uint32 : Reader UInt32 := return UInt32.ofNat (← natural (2 ^ 32 - 1) "u32")

def uint8 : Reader UInt8 := return UInt8.ofNat (← natural (2 ^ 8 - 1) "u8")

/-! ### Passing over values -/

inductive Frame where
  | array
  | object

def Frame.closing : Frame → Char
  | array => ']'
  | object => '}'

def skipKey : Reader Unit := do
  expect '"'
  word fun text => (pieces? text).map fun (_, rest) => ((), rest)
  expect ':'

def skipScalar : Reader Unit := do
  match ← peek with
  | some '"' =>
    drop
    word fun text => (pieces? text).map fun (_, rest) => ((), rest)
  | some 'n' => discard (literal ['n', 'u', 'l', 'l'] .null)
  | some 't' => discard (literal ['t', 'r', 'u', 'e'] .null)
  | some 'f' => discard (literal ['f', 'a', 'l', 's', 'e'] .null)
  | _ => word fun text => (numeral? text).map fun (_, rest) => ((), rest)

def skipOpening (frame : Frame) : Reader (Option Frame) := do
  drop
  if (← peek) = some frame.closing then
    drop
    return none
  match frame with
  | .array => return some frame
  | .object =>
    skipKey
    return some frame

def skipStart : Reader (Option Frame) := do
  match ← peek with
  | some '[' => skipOpening .array
  | some '{' => skipOpening .object
  | _ =>
    skipScalar
    return none

def skipClosings : List Frame → Reader (List Frame)
  | [] => return []
  | frame :: outer => do
    if (← peek) = some frame.closing then
      drop
      skipClosings outer
    else
      expect ','
      match frame with
      | .array => return frame :: outer
      | .object =>
        skipKey
        return frame :: outer

def skipFrames : Nat → List Frame → Reader Unit
  | 0, _ => throw .malformed
  | steps + 1, frames => do
    match ← skipStart with
    | some frame => skipFrames steps (frame :: frames)
    | none =>
      match ← skipClosings frames with
      | [] => return ()
      | frames => skipFrames steps frames

def skipValue : Reader Unit := do
  skipFrames (← get).length []

/-! ### Sequences and maps -/

def element? {α : Type} (isFirst : Bool) (value : Reader α) : Reader (Option α) := do
  if (← peek) = some ']' then return none
  unless isFirst do expect ','
  return some (← value)

/-- The members of a map from the first key on. What `member` makes of a key and of what was read
before includes the colon and the value. -/
def members {α : Type} (member : List Char → α → Reader α) : Nat → α → Reader α
  | 0, _ => throw .malformed
  | steps + 1, before => do
    let key ← string
    let read ← member key before
    if (← peek) = some '}' then
      drop
      return read
    expect ','
    members member steps read

def map {α : Type} (member : List Char → α → Reader α) (initial : α) : Reader α := do
  expect '{'
  if (← peek) = some '}' then
    drop
    return initial
  members member (← get).length initial

end Reader

end LevelFormat.Json
