/-
This file decodes UTF-8. Bytes arrive in chunks, and a character may be split
between two of them: the bytes of an incomplete character at the end of a
chunk are carried over to the next one. A byte that cannot stand at its place
makes the whole chunk fail. The position of a fault counts from the bytes that
were carried over to the failing chunk.

Overlong forms, surrogates and values beyond the last code point are faults of
the byte in which they first show: the first byte when no second byte could
make it good, and the second one otherwise. The first two bytes of a surrogate at the
end of a chunk are carried over like an incomplete character, and the fault
shows in what comes next.
-/

import PolyIntake.Decimal
import PolyIntake.Text.Quoted

namespace PolyIntake

namespace Utf8

/-! ### Faults -/

/-- What is wrong with a byte sequence. -/
inductive Cause where
  | startByte
  | continuation
  | truncated
  deriving DecidableEq

/-- The wording of a cause. -/
def Cause.text : Cause → String
  | .startByte => "invalid start byte"
  | .continuation => "invalid continuation byte"
  | .truncated => "unexpected end of data"

/-- Bytes that are no character: where they begin, how many they are, and the first one. -/
structure Fault where
  position : Nat
  length : Nat
  first : UInt8
  cause : Cause
  deriving DecidableEq

/-- The wording of a fault. A single byte is shown, several are only located. -/
def Fault.message (fault : Fault) : String :=
  let place := if fault.length = 1 then
      "byte 0x" ++ String.ofList (Text.hexadecimal 2 fault.first.toNat) ++ " in position " ++
        Decimal.natText fault.position
    else
      "bytes in position " ++ Decimal.natText fault.position ++ "-" ++
        Decimal.natText (fault.position + fault.length - 1)
  "'utf-8' codec can't decode " ++ place ++ ": " ++ fault.cause.text

/-! ### One character -/

/-- What stands at the beginning of some bytes: a character with the number of its bytes, an
incomplete character, or a fault with the number of bytes it spans. -/
inductive Sequence where
  | char (char : Char) (length : Nat)
  | incomplete
  | fault (length : Nat) (cause : Cause)

/-- A byte that continues a character. -/
def isContinuation (byte : UInt8) : Bool :=
  0x80 ≤ byte && byte < 0xC0

/-- A second byte that may follow the first. Some first bytes leave only a part of the
continuation bytes, for the others would make an overlong form, a surrogate or a value that is
too large. -/
def mayFollow (first second : UInt8) : Bool :=
  isContinuation second &&
    (if first == 0xE0 then 0xA0 ≤ second
    else if first == 0xED then second < 0xA0
    else if first == 0xF0 then 0x90 ≤ second
    else if first == 0xF4 then second < 0x90
    else true)

/-- The first two bytes of a surrogate. -/
def beginsSurrogate (first second : UInt8) : Bool :=
  first == 0xED && isContinuation second && 0xA0 ≤ second

/-- The six bits that a continuation byte adds. -/
def append (value : Nat) (byte : UInt8) : Nat :=
  value * 0x40 + byte.toNat % 0x40

/-- The character at the beginning of some bytes, given the first byte and the others. -/
def sequence (first : UInt8) (rest : List UInt8) : Sequence :=
  if first < 0x80 then .char (Char.ofNat first.toNat) 1
  else if first < 0xC2 then .fault 1 .startByte
  else if first < 0xE0 then
    match rest with
    | [] => .incomplete
    | second :: _ =>
      if isContinuation second then
        .char (Char.ofNat (append (first.toNat % 0x20) second)) 2
      else .fault 1 .continuation
  else if first < 0xF0 then
    match rest with
    | [] => .incomplete
    | second :: rest =>
      if mayFollow first second then
        match rest with
        | [] => .incomplete
        | third :: _ =>
          if isContinuation third then
            .char (Char.ofNat (append (append (first.toNat % 0x10) second) third)) 3
          else .fault 2 .continuation
      else if beginsSurrogate first second && rest.isEmpty then .incomplete
      else .fault 1 .continuation
  else if first < 0xF5 then
    match rest with
    | [] => .incomplete
    | second :: rest =>
      if mayFollow first second then
        match rest with
        | [] => .incomplete
        | third :: rest =>
          if isContinuation third then
            match rest with
            | [] => .incomplete
            | fourth :: _ =>
              if isContinuation fourth then
                .char (Char.ofNat
                  (append (append (append (first.toNat % 8) second) third) fourth)) 4
              else .fault 3 .continuation
          else .fault 2 .continuation
      else .fault 1 .continuation
  else .fault 1 .startByte

/-! ### Chunks -/

/-- Decodes the bytes of a chunk: the characters, and the bytes of an incomplete character at
the end. The characters decoded so far come latest first, and the bytes not yet used of the
current character are skipped. -/
def decodeFrom (position skip : Nat) (decoded : List Char) :
    List UInt8 → Except Fault (List Char × List UInt8)
  | [] => .ok (decoded.reverse, [])
  | first :: rest =>
    match skip with
    | skip + 1 => decodeFrom (position + 1) skip decoded rest
    | 0 =>
      match sequence first rest with
      | .char char length => decodeFrom (position + 1) (length - 1) (char :: decoded) rest
      | .incomplete => .ok (decoded.reverse, first :: rest)
      | .fault length cause => .error ⟨position, length, first, cause⟩

/-- Decodes a chunk on its own. -/
def decode (bytes : List UInt8) : Except Fault (List Char × List UInt8) :=
  decodeFrom 0 0 [] bytes

/-- The fault of bytes that nothing follows: an incomplete character, or half a surrogate. -/
def unfinished (position : Nat) (first : UInt8) (rest : List UInt8) : Fault :=
  if rest.any (beginsSurrogate first) then ⟨position, 1, first, .continuation⟩
  else ⟨position, rest.length + 1, first, .truncated⟩

/-- The text of some chunks behind the bytes carried over, as far as it can be decoded, with
the fault that ended it. Bytes carried over from the last chunk are a fault of their own. -/
def decodeChunks (carried : List UInt8) : List (List UInt8) → List Char × Option Fault
  | [] =>
    match carried with
    | [] => ([], none)
    | first :: rest => ([], some (unfinished 0 first rest))
  | chunk :: chunks =>
    match decode (carried ++ chunk) with
    | .error fault => ([], some fault)
    | .ok (text, carried) =>
      let (rest, fault) := decodeChunks carried chunks
      (text ++ rest, fault)

/-- The number of bytes in a chunk. -/
def chunkSize : Nat := 8192

/-- The chunks of some bytes; only the last may be shorter than the others. -/
def chunks (bytes : List UInt8) : List (List UInt8) :=
  if bytes.length ≤ chunkSize then [bytes]
  else bytes.take chunkSize :: chunks (bytes.drop chunkSize)
termination_by bytes.length
decreasing_by
  simp only [List.length_drop, chunkSize] at *
  omega

/-- The text of a stream of bytes, and the fault that ended it. -/
def decodeStream (bytes : List UInt8) : List Char × Option Fault :=
  decodeChunks [] (chunks bytes)

/-- The text of some bytes that come all at once, or the fault in them. -/
def decodeAll (bytes : List UInt8) : Except Fault (List Char) :=
  match decode bytes with
  | .error fault => .error fault
  | .ok (text, []) => .ok text
  | .ok (_, first :: rest) => .error (unfinished (bytes.length - (rest.length + 1)) first rest)

end Utf8

end PolyIntake
