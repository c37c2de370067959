import LevelFormat.Wire.Layout

/-!
Single fields, read and written one after another.

A request says what the next bytes are to be read as. A field is what comes of it, and what can be
written in its place. Each of them has a byte order of its own.
-/

namespace LevelFormat.Wire

inductive Scalar where
  | uint8 | int8 | bool | uint16 | int16 | uint32 | int32 | binary32
  deriving DecidableEq

namespace Scalar

abbrev Value : Scalar → Type
  | uint8 => UInt8
  | int8 => Int8
  | bool => Bool
  | uint16 => UInt16
  | int16 => Int16
  | uint32 => UInt32
  | int32 => Int32
  | binary32 => Number.Binary32

def layout : (scalar : Scalar) → Layout scalar.Value
  | uint8 => .uint8
  | int8 => .int8
  | bool => .bool
  | uint16 => .uint16
  | int16 => .int16
  | uint32 => .uint32
  | int32 => .int32
  | binary32 => .binary32

end Scalar

inductive Field where
  | scalar (order : Order) (type : Scalar) (value : type.Value)
  | block (bytes : List UInt8)
  | text (order : Order) (charset : Text.Charset) (content : String)

inductive Request where
  | scalar (order : Order) (type : Scalar)
  | block (length : Nat)
  | text (order : Order) (charset : Text.Charset)

def Request.read : Request → Decoder Field
  | scalar order type => do
    let value ← type.layout.read { order }
    return .scalar order type value
  | block length => do
    let bytes ← Decoder.take length
    return .block bytes
  | text order charset => do
    let content ← Decoder.text order charset
    return .text order charset content

namespace Field

def request : Field → Request
  | scalar order type _ => .scalar order type
  | block bytes => .block bytes.length
  | text order charset _ => .text order charset

def emit : Field → Emission
  | scalar order type value => type.layout.emit { order } value
  | block bytes => .ofBytes bytes
  | text order charset content => .text order charset content

def emitAll : List Field → Emission
  | [] => .ofBytes []
  | field :: rest => field.emit ++ emitAll rest

end Field

end LevelFormat.Wire
