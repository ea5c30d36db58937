/-
This file models `sip/md5.cpp`, the hash that digest authentication mandates.
-/

import KetPhone.Bytes

namespace KetPhone.Sip

def kSine : List UInt32 :=
  [0xd76aa478, 0xe8c7b756, 0x242070db, 0xc1bdceee, 0xf57c0faf, 0x4787c62a, 0xa8304613, 0xfd469501,
    0x698098d8, 0x8b44f7af, 0xffff5bb1, 0x895cd7be, 0x6b901122, 0xfd987193, 0xa679438e, 0x49b40821,
    0xf61e2562, 0xc040b340, 0x265e5a51, 0xe9b6c7aa, 0xd62f105d, 0x02441453, 0xd8a1e681, 0xe7d3fbc8,
    0x21e1cde6, 0xc33707d6, 0xf4d50d87, 0x455a14ed, 0xa9e3e905, 0xfcefa3f8, 0x676f02d9, 0x8d2a4c8a,
    0xfffa3942, 0x8771f681, 0x6d9d6122, 0xfde5380c, 0xa4beea44, 0x4bdecfa9, 0xf6bb4b60, 0xbebfbc70,
    0x289b7ec6, 0xeaa127fa, 0xd4ef3085, 0x04881d05, 0xd9d4d039, 0xe6db99e5, 0x1fa27cf8, 0xc4ac5665,
    0xf4292244, 0x432aff97, 0xab9423a7, 0xfc93a039, 0x655b59c3, 0x8f0ccc92, 0xffeff47d, 0x85845dd1,
    0x6fa87e4f, 0xfe2ce6e0, 0xa3014314, 0x4e0811a1, 0xf7537e82, 0xbd3af235, 0x2ad7d2bb, 0xeb86d391]

def kShift : List UInt32 :=
  [7, 12, 17, 22, 7, 12, 17, 22, 7, 12, 17, 22, 7, 12, 17, 22,
    5, 9, 14, 20, 5, 9, 14, 20, 5, 9, 14, 20, 5, 9, 14, 20,
    4, 11, 16, 23, 4, 11, 16, 23, 4, 11, 16, 23, 4, 11, 16, 23,
    6, 10, 15, 21, 6, 10, 15, 21, 6, 10, 15, 21, 6, 10, 15, 21]

def rotateLeft (value bits : UInt32) : UInt32 := value <<< bits ||| value >>> (32 - bits)

structure Md5State where
  a : UInt32
  b : UInt32
  c : UInt32
  d : UInt32
  deriving DecidableEq, Repr

/-- The sixteen little-endian words of a block. -/
def blockWord (block : Bytes) (index : Nat) : UInt32 :=
  let byte (offset : Nat) : UInt32 := (block.getD (index * 4 + offset) 0).toUInt32
  byte 0 ||| byte 1 <<< 8 ||| byte 2 <<< 16 ||| byte 3 <<< 24

/-- One of the 64 operations of `transform`. -/
def transformRound (block : Bytes) (state : Md5State) (index : Nat) : Md5State :=
  let (mix, word) : UInt32 × Nat :=
    if index < 16 then ((state.b &&& state.c) ||| (~~~state.b &&& state.d), index)
    else if index < 32 then
      ((state.d &&& state.b) ||| (~~~state.d &&& state.c), (5 * index + 1) % 16)
    else if index < 48 then (state.b ^^^ state.c ^^^ state.d, (3 * index + 5) % 16)
    else (state.c ^^^ (state.b ||| ~~~state.d), 7 * index % 16)
  { a := state.d
    b := state.b + rotateLeft (state.a + mix + kSine.getD index 0 + blockWord block word)
      (kShift.getD index 0)
    c := state.b
    d := state.c }

def transform (state : Md5State) (block : Bytes) : Md5State :=
  let mixed := (List.range 64).foldl (transformRound block) state
  { a := state.a + mixed.a, b := state.b + mixed.b, c := state.c + mixed.c, d := state.d + mixed.d }

/-- The first `count` whole blocks of 64 bytes. -/
def transformBlocks (state : Md5State) (data : Bytes) (count : Nat) : Md5State :=
  (List.range count).foldl (fun state block => transform state (data.drop (64 * block))) state

/-- What follows the last whole block: 0x80, zeros and the length in bits. -/
def md5Tail (input : Bytes) : Bytes :=
  let rest := input.drop (input.length / 64 * 64)
  let size := if rest.length < 56 then 64 else 128
  let bits := UInt64.ofNat input.length * 8
  rest ++ 0x80 :: List.replicate (size - 9 - rest.length) 0 ++
    (List.range 8).map fun index => (bits >>> UInt64.ofNat (8 * index)).toUInt8

def kHex : Bytes := ascii "0123456789abcdef"

/-- The two lowercase digits of a byte. -/
def hexByte (byte : UInt8) : Bytes :=
  [kHex.getD (byte >>> 4).toNat 0, kHex.getD (byte &&& 0x0f).toNat 0]

/-- A state word in hex, little-endian. -/
def hexWord (word : UInt32) : Bytes :=
  (List.range 4).flatMap fun index => hexByte (word >>> UInt32.ofNat (8 * index)).toUInt8

def md5Hex (input : Bytes) : Bytes :=
  let start : Md5State := { a := 0x67452301, b := 0xefcdab89, c := 0x98badcfe, d := 0x10325476 }
  let whole := transformBlocks start input (input.length / 64)
  let tail := md5Tail input
  let state := transformBlocks whole tail (tail.length / 64)
  hexWord state.a ++ hexWord state.b ++ hexWord state.c ++ hexWord state.d

end KetPhone.Sip
