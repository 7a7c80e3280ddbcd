import Esp8266At.Lib.Bytes

/-!
# MD5

The message digest of the ROM routines `MD5Init`, `MD5Update` and `MD5Final`. What they compute
depends only on the bytes handed over, not on how these are cut into calls, so it is one function of
a byte string.
-/

namespace Md5

open ByteSpace

/-- The working variables. -/
structure State where
  a : UInt32
  b : UInt32
  c : UInt32
  d : UInt32

def init : State := ⟨0x67452301, 0xefcdab89, 0x98badcfe, 0x10325476⟩

/-- The additive constants, one for each step. -/
def constants : List UInt32 := [
  0xd76aa478, 0xe8c7b756, 0x242070db, 0xc1bdceee, 0xf57c0faf, 0x4787c62a, 0xa8304613, 0xfd469501,
  0x698098d8, 0x8b44f7af, 0xffff5bb1, 0x895cd7be, 0x6b901122, 0xfd987193, 0xa679438e, 0x49b40821,
  0xf61e2562, 0xc040b340, 0x265e5a51, 0xe9b6c7aa, 0xd62f105d, 0x02441453, 0xd8a1e681, 0xe7d3fbc8,
  0x21e1cde6, 0xc33707d6, 0xf4d50d87, 0x455a14ed, 0xa9e3e905, 0xfcefa3f8, 0x676f02d9, 0x8d2a4c8a,
  0xfffa3942, 0x8771f681, 0x6d9d6122, 0xfde5380c, 0xa4beea44, 0x4bdecfa9, 0xf6bb4b60, 0xbebfbc70,
  0x289b7ec6, 0xeaa127fa, 0xd4ef3085, 0x04881d05, 0xd9d4d039, 0xe6db99e5, 0x1fa27cf8, 0xc4ac5665,
  0xf4292244, 0x432aff97, 0xab9423a7, 0xfc93a039, 0x655b59c3, 0x8f0ccc92, 0xffeff47d, 0x85845dd1,
  0x6fa87e4f, 0xfe2ce6e0, 0xa3014314, 0x4e0811a1, 0xf7537e82, 0xbd3af235, 0x2ad7d2bb, 0xeb86d391]

/-- The rotation of step `i`. -/
def rotation (i : ℕ) : UInt32 :=
  ([7, 12, 17, 22, 5, 9, 14, 20, 4, 11, 16, 23, 6, 10, 15, 21] : List UInt32).getD (i / 16 * 4 + i % 4) 0

/-- The message word step `i` adds. -/
def wordIndex (i : ℕ) : ℕ :=
  match i / 16 with
  | 0 => i
  | 1 => (5 * i + 1) % 16
  | 2 => (3 * i + 5) % 16
  | _ => (7 * i) % 16

/-- The nonlinear function of step `i`. -/
def mix (i : ℕ) (b c d : UInt32) : UInt32 :=
  match i / 16 with
  | 0 => (b &&& c) ||| (~~~b &&& d)
  | 1 => (b &&& d) ||| (c &&& ~~~d)
  | 2 => b ^^^ c ^^^ d
  | _ => c ^^^ (b ||| ~~~d)

def rotateLeft (w r : UInt32) : UInt32 := (w <<< r) ||| (w >>> (32 - r))

def step (words : List UInt32) (s : State) (i : ℕ) : State :=
  let sum := s.a + mix i s.b s.c s.d + constants.getD i 0 + words.getD (wordIndex i) 0
  ⟨s.d, s.b + rotateLeft sum (rotation i), s.b, s.c⟩

/-- One block of 64 bytes. -/
def compress (s : State) (block : List UInt8) : State :=
  let words := (List.range 16).map fun i => le32 (block.drop (4 * i))
  let t := (List.range 64).foldl (step words) s
  ⟨s.a + t.a, s.b + t.b, s.c + t.c, s.d + t.d⟩

/-- The message with its padding: a multiple of 64 bytes, the length in bits in the last eight. -/
def pad (msg : List UInt8) : List UInt8 :=
  msg ++ [0x80] ++ List.replicate ((119 - msg.length % 64) % 64) 0 ++
    bytes32 (UInt32.ofNat (8 * msg.length)) ++ bytes32 (UInt32.ofNat (8 * msg.length / 2 ^ 32))

/-- The digest of a message, in the order the bytes are stored. -/
def digest (msg : List UInt8) : Fin 16 → UInt8 := fun j =>
  let padded := pad msg
  let s := (List.range (padded.length / 64)).foldl
    (fun s k => compress s ((padded.drop (64 * k)).take 64)) init
  (bytes32 s.a ++ bytes32 s.b ++ bytes32 s.c ++ bytes32 s.d).getD j.val 0

example : digest [] = ![0xd4, 0x1d, 0x8c, 0xd9, 0x8f, 0x00, 0xb2, 0x04, 0xe9, 0x80, 0x09, 0x98, 0xec,
    0xf8, 0x42, 0x7e] := by
  decide +kernel

end Md5
