/-! # Texts as bytes, and bytes after percent signs -/
namespace FleetLocator.Text.Utf8

def encode (s : String) : List UInt8 := s.toList.flatMap String.utf8EncodeChar

def isTail (b : UInt8) : Bool := 0x80 ≤ b && b ≤ 0xBF

/-- How many bytes a first byte announces, and the bounds on the byte that follows it. -/
inductive Lead
  | ascii
  | two
  | three (low high : UInt8)
  | four (low high : UInt8)
  | none

def lead (b : UInt8) : Lead :=
  if b < 0x80 then .ascii
  else if b < 0xC2 then .none
  else if b < 0xE0 then .two
  else if b = 0xE0 then .three 0xA0 0xBF
  else if b = 0xED then .three 0x80 0x9F
  else if b < 0xF0 then .three 0x80 0xBF
  else if b = 0xF0 then .four 0x90 0xBF
  else if b < 0xF4 then .four 0x80 0xBF
  else if b = 0xF4 then .four 0x80 0x8F
  else .none

/-- The first character of some bytes, or how many of them begin none. -/
inductive Piece
  | char (c : Char) (width : Nat)
  | broken (width : Nat)

def bits (b : UInt8) : Nat := b.toNat % 64

def piece (b : UInt8) (rest : List UInt8) : Piece :=
  match lead b with
  | .none => .broken 1
  | .ascii => .char (Char.ofNat b.toNat) 1
  | .two => match rest with
    | c :: _ => if isTail c then .char (Char.ofNat (b.toNat % 32 * 64 + bits c)) 2 else .broken 1
    | [] => .broken 1
  | .three low high => match rest with
    | c :: tail =>
      if low ≤ c && c ≤ high then
        match tail with
        | d :: _ =>
          if isTail d then .char (Char.ofNat (b.toNat % 16 * 4096 + bits c * 64 + bits d)) 3 else .broken 2
        | [] => .broken 2
      else .broken 1
    | [] => .broken 1
  | .four low high => match rest with
    | c :: tail =>
      if low ≤ c && c ≤ high then
        match tail with
        | d :: tail =>
          if isTail d then
            match tail with
            | e :: _ =>
              if isTail e then
                .char (Char.ofNat (b.toNat % 8 * 262144 + bits c * 4096 + bits d * 64 + bits e)) 4
              else .broken 3
            | [] => .broken 3
          else .broken 2
        | [] => .broken 2
      else .broken 1
    | [] => .broken 1

/-- All bytes cut into pieces; `skip` counts the bytes that belong to a piece already given. -/
def pieces : Nat → List UInt8 → List Piece
  | _, [] => []
  | skip + 1, _ :: rest => pieces skip rest
  | 0, b :: rest =>
    match piece b rest with
    | .char c width => .char c width :: pieces (width - 1) rest
    | .broken width => .broken width :: pieces (width - 1) rest

/-- What is broken becomes the replacement character. -/
def Piece.shown : Piece → Char
  | .char c _ => c
  | .broken _ => '\uFFFD'

/-- How many bytes stand before the first that begins no character. -/
def wellFormed : List Piece → Nat
  | .char _ width :: rest => width + wellFormed rest
  | _ => 0

def charsOf : List Piece → Option (List Char)
  | [] => some []
  | .char c _ :: rest => (charsOf rest).map (c :: ·)
  | .broken _ :: _ => none

/-- The text of bytes that are all well formed. -/
def decode (bytes : List UInt8) : Option String := (charsOf (pieces 0 bytes)).map String.ofList

def decodeLossy (bytes : List UInt8) : String := String.ofList ((pieces 0 bytes).map Piece.shown)

end FleetLocator.Text.Utf8

namespace FleetLocator.Text.Percent

def hexUpper (n : Nat) : Char := (Nat.digitChar n).toUpper

def hexValue (b : UInt8) : Option Nat :=
  if 0x30 ≤ b ∧ b ≤ 0x39 then some (b.toNat - 0x30)
  else if 0x41 ≤ b ∧ b ≤ 0x46 then some (b.toNat - 0x37)
  else if 0x61 ≤ b ∧ b ≤ 0x66 then some (b.toNat - 0x57)
  else none

def escape (b : UInt8) : List Char := ['%', hexUpper (b.toNat / 16), hexUpper (b.toNat % 16)]

/-- A character of `reserved`, and any that is not ASCII, is written byte by byte. -/
def encodeChar (reserved : Char → Bool) (c : Char) : List Char :=
  if c.toNat < 0x80 && !reserved c then [c] else (String.utf8EncodeChar c).flatMap escape

def encode (reserved : Char → Bool) (cs : List Char) : List Char := cs.flatMap (encodeChar reserved)

/-- A percent sign that no two hexadecimal digits follow stands for itself. -/
def decode : List UInt8 → List UInt8
  | 0x25 :: high :: low :: rest =>
    match hexValue high, hexValue low with
    | some h, some l => UInt8.ofNat (h * 16 + l) :: decode rest
    | _, _ => 0x25 :: decode (high :: low :: rest)
  | b :: rest => b :: decode rest
  | [] => []

end FleetLocator.Text.Percent
