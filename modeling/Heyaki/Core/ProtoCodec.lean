/-
Purpose: the minimal protobuf wire codec of `proto_codec.hpp`.

A reader is the input it has left.  The parsers of the source share one loop,
`readFields`, which alternates between reading a field and handling it, so that
the first failure of either kind is the one reported.
-/
import Heyaki.Core.Limits

namespace Heyaki.ProtoCodec

def protocolError (detail : String) (component : String := "proto") : Error :=
  { code := .protocol, component := component, safeDetail := detail }

/-! ### Writing -/

/-- The writing loop; ten rounds exhaust 64 bits. -/
def appendVarintRounds : Nat → UInt64 → List UInt8
  | 0, _ => []
  | rounds + 1, value =>
    let byte := (value &&& 0x7f).toUInt8
    let value := value >>> 7
    if value ≠ 0 then (byte ||| 0x80) :: appendVarintRounds rounds value else [byte]

def appendVarint (value : UInt64) : List UInt8 :=
  appendVarintRounds 10 value

variable (field : UInt32)

def appendTag (wireType : UInt8) : List UInt8 :=
  appendVarint ((field.toUInt64 <<< 3) ||| wireType.toUInt64)

def appendUint (value : UInt64) : List UInt8 :=
  appendTag field 0 ++ appendVarint value

/-- A length-delimited field; text is written as its bytes. -/
def appendBytes (value : List UInt8) : List UInt8 :=
  appendTag field 2 ++ (appendVarint (UInt64.ofNat value.length) ++ value)

/-! ### Reading -/

structure ProtoField where
  number : UInt32
  wireType : UInt8
  integer : UInt64 := 0
  bytes : List UInt8 := []
  deriving Repr, Inhabited, DecidableEq

/-- The reading loop from byte `index` on, with the groups read so far in `value`. -/
def readVarintFrom (component : String) (index : Nat) (value : UInt64) :
    List UInt8 → Except Error (UInt64 × List UInt8)
  | [] =>
    if index ≥ 10 then .error (protocolError "protobuf_varint_overflow" component)
    else .error (protocolError "protobuf_varint_truncated" component)
  | byte :: rest =>
    if index ≥ 10 then .error (protocolError "protobuf_varint_overflow" component)
    else if index = 9 ∧ byte &&& 0xfe ≠ 0 then
      .error (protocolError "protobuf_varint_overflow" component)
    else
      let value := value ||| ((byte &&& 0x7f).toUInt64 <<< UInt64.ofNat (7 * index))
      if byte &&& 0x80 = 0 then
        if index > 0 ∧ byte &&& 0x7f = 0 then
          .error (protocolError "protobuf_varint_noncanonical" component)
        else .ok (value, rest)
      else readVarintFrom component (index + 1) value rest

variable (component : String)

def readVarint (input : List UInt8) : Except Error (UInt64 × List UInt8) :=
  readVarintFrom component 0 0 input

/-- The next field and the input after it. -/
def next (input : List UInt8) : Except Error (ProtoField × List UInt8) := do
  let (tag, rest) ← readVarint component input
  if tag = 0 ∨ tag >>> 3 > 536870911 then
    .error (protocolError "protobuf_tag_invalid" component)
  else
    let number := (tag >>> 3).toUInt32
    let wireType := (tag &&& 0x07).toUInt8
    if wireType = 0 then
      let (value, rest) ← readVarint component rest
      .ok ({ number := number, wireType := wireType, integer := value }, rest)
    else if wireType = 2 then
      match readVarint component rest with
      | .error _ => .error (protocolError "protobuf_length_invalid" component)
      | .ok (length, rest) =>
        if length.toNat > rest.length then
          .error (protocolError "protobuf_length_invalid" component)
        else
          .ok ({ number := number, wireType := wireType, bytes := rest.take length.toNat },
            rest.drop length.toNat)
    else .error (protocolError "protobuf_wire_type_unsupported" component)

/-- The loop `while (!reader.done())` around a handler of one field.  A field
takes at least one byte, so that as many rounds as bytes are enough. -/
def readFieldsRounds {σ : Type} (component : String)
    (handle : σ → ProtoField → Except Error σ) : Nat → List UInt8 → σ → Except Error σ
  | _, [], state => .ok state
  | 0, _ :: _, _ => .error (protocolError "protobuf_varint_truncated" component)
  | rounds + 1, byte :: input, state => do
    let (field, rest) ← next component (byte :: input)
    let state ← handle state field
    readFieldsRounds component handle rounds rest state

def readFields {σ : Type} (handle : σ → ProtoField → Except Error σ) (input : List UInt8)
    (state : σ) : Except Error σ :=
  readFieldsRounds component handle input.length input state

/-! ### Fields that may be given once -/

/-- A field of bytes that has to convert. -/
def readExact {α : Type} (conflict invalid : Error) (ofBytes? : List UInt8 → Option α)
    (known : Option α) (field : ProtoField) : Except Error (Option α) :=
  if field.wireType ≠ 2 ∨ known.isSome then .error conflict
  else
    match ofBytes? field.bytes with
    | none => .error invalid
    | some value => .ok (some value)

/-- A message inside a field. -/
def readNested {α : Type} (conflict : Error) (parse : List UInt8 → Except Error α)
    (known : Option α) (field : ProtoField) : Except Error (Option α) :=
  if field.wireType ≠ 2 ∨ known.isSome then .error conflict
  else
    match parse field.bytes with
    | .error error => .error error
    | .ok value => .ok (some value)

end Heyaki.ProtoCodec
