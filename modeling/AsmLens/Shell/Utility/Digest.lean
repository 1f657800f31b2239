import AsmLens.Text.Basic

namespace AsmLens.Shell

/-- The word that bytes make up, the most significant one first. -/
def bigEndian (bytes : List UInt8) : Nat :=
  bytes.foldl (fun value byte => 256 * value + byte.toNat) 0

/-- The bytes of a word, the most significant one first. -/
def bytesOfWord : Nat → Nat → List UInt8
  | 0, _ => []
  | count + 1, value => bytesOfWord count (value / 256) ++ [(value % 256).toUInt8]

/-- Parts of some size. As many steps are allowed. -/
def chunks {α : Type} (size : Nat) : Nat → List α → List (List α)
  | 0, _ => []
  | _, [] => []
  | steps + 1, items => items.take size :: chunks size steps (items.drop size)

namespace Digest

/-- The remainder for words of so many bits. -/
def wrap (bits value : Nat) : Nat :=
  value % Nat.pow 2 bits

def rotatedLeft (bits word count : Nat) : Nat :=
  wrap bits (word * Nat.pow 2 count) + word / Nat.pow 2 (bits - count)

def rotatedRight (bits word count : Nat) : Nat :=
  rotatedLeft bits word (bits - count)

def inverted (bits word : Nat) : Nat :=
  Nat.pow 2 bits - 1 - word

/-- A message filled up to full blocks, with its length in bits at the end. -/
def padded (blockSize lengthSize : Nat) (isLittle : Bool) (message : List UInt8) : List UInt8 :=
  let length := bytesOfWord lengthSize (8 * message.length)
  let used := (message.length + 1 + lengthSize) % blockSize
  message ++ 0x80 :: List.replicate ((blockSize - used) % blockSize) 0 ++
    if isLittle then length.reverse else length

/-- The words of the blocks of a message. -/
def blocks (blockSize wordSize : Nat) (isLittle : Bool) (bytes : List UInt8) : List (List Nat) :=
  (chunks blockSize (bytes.length + 1) bytes).map fun block =>
    (chunks wordSize (block.length + 1) block).map fun word =>
      bigEndian (if isLittle then word.reverse else word)

def md5 (message : List UInt8) : List UInt8 :=
  let turns : List (List Nat) := [[7, 12, 17, 22], [5, 9, 14, 20], [4, 11, 16, 23], [6, 10, 15, 21]]
  let constants : List Nat := (List.range 64).map fun round =>
    ((Float.ofNat (round + 1)).sin.abs * 4294967296.0).floor.toUInt64.toNat
  let step (block : Array Nat) (state : Nat × Nat × Nat × Nat) (round constant : Nat) :
      Nat × Nat × Nat × Nat :=
    let (a, b, c, d) := state
    let (mixed, place) : Nat × Nat :=
      match round / 16 with
      | 0 => ((b &&& c) ||| (inverted 32 b &&& d), round)
      | 1 => ((d &&& b) ||| (inverted 32 d &&& c), (5 * round + 1) % 16)
      | 2 => (b ^^^ c ^^^ d, (3 * round + 5) % 16)
      | _ => (c ^^^ (b ||| inverted 32 d), 7 * round % 16)
    let sum := wrap 32 (a + mixed + constant + block.getD place 0)
    let turn := (turns.getD (round / 16) []).getD (round % 4) 0
    (d, wrap 32 (b + rotatedLeft 32 sum turn), b, c)
  let (a, b, c, d) := (blocks 64 4 true (padded 64 8 true message)).foldl
    (fun (state : Nat × Nat × Nat × Nat) block =>
      let words := block.toArray
      let (a, b, c, d) := constants.zipIdx.foldl
        (fun state (constant, round) => step words state round constant) state
      (wrap 32 (state.1 + a), wrap 32 (state.2.1 + b), wrap 32 (state.2.2.1 + c),
        wrap 32 (state.2.2.2 + d)))
    (0x67452301, 0xefcdab89, 0x98badcfe, 0x10325476)
  [a, b, c, d].flatMap fun word => (bytesOfWord 4 word).reverse

def sha1 (message : List UInt8) : List UInt8 :=
  let schedule (block : List Nat) : Array Nat :=
    (List.range 64).foldl
      (fun (words : Array Nat) _ =>
        let word (back : Nat) : Nat := words.getD (words.size - back) 0
        words.push (rotatedLeft 32 (word 3 ^^^ word 8 ^^^ word 14 ^^^ word 16) 1))
      block.toArray
  let step (state : List Nat) (round word : Nat) : List Nat :=
    match state with
    | [a, b, c, d, e] =>
        let (mixed, constant) : Nat × Nat :=
          match round / 20 with
          | 0 => ((b &&& c) ||| (inverted 32 b &&& d), 0x5a827999)
          | 1 => (b ^^^ c ^^^ d, 0x6ed9eba1)
          | 2 => ((b &&& c) ||| (b &&& d) ||| (c &&& d), 0x8f1bbcdc)
          | _ => (b ^^^ c ^^^ d, 0xca62c1d6)
        [wrap 32 (rotatedLeft 32 a 5 + mixed + e + constant + word), a, rotatedLeft 32 b 30, c, d]
    | other => other
  let final := (blocks 64 4 false (padded 64 8 false message)).foldl
    (fun (state : List Nat) block =>
      let after := (schedule block).toList.zipIdx.foldl
        (fun state (word, round) => step state round word) state
      List.zipWith (fun a b => wrap 32 (a + b)) state after)
    [0x67452301, 0xefcdab89, 0x98badcfe, 0x10325476, 0xc3d2e1f0]
  final.flatMap (bytesOfWord 4)

/-- The first prime numbers, enough for all constants. -/
def primes : List Nat :=
  (List.range 410).filter fun n => 2 ≤ n && (List.range n).all fun d => d < 2 || n % d ≠ 0

/-- The greatest number whose power is not beyond a value. -/
def root (power value : Nat) : Nat :=
  (List.range 72).foldl
    (fun found back =>
      let next := found + Nat.pow 2 (71 - back)
      if Nat.pow next power ≤ value then next else found)
    0

/-- The first 64 bits behind the point of a root of a prime number. -/
def fraction (power prime : Nat) : Nat :=
  root power (prime * Nat.pow 2 (64 * power)) % Nat.pow 2 64

/-- How the members of a family of digests differ: the bits of a word, the number of rounds, how far
words are turned, what the state starts from and how much of it counts. -/
structure Family where
  bits : Nat
  rounds : Nat
  turns : List (List Nat)
  start : List Nat
  size : Nat

namespace Family

/-- Three turned words together. The last one is shifted instead where that is asked for. -/
def mixed (family : Family) (index : Nat) (isShifted : Bool) (word : Nat) : Nat :=
  match family.turns.getD index [] with
  | [first, second, third] =>
      let last :=
        if isShifted then word / Nat.pow 2 third else rotatedRight family.bits word third
      rotatedRight family.bits word first ^^^ rotatedRight family.bits word second ^^^ last
  | _ => word

def schedule (family : Family) (block : List Nat) : List Nat :=
  ((List.range (family.rounds - 16)).foldl
    (fun (words : Array Nat) _ =>
      let word (back : Nat) : Nat := words.getD (words.size - back) 0
      words.push (wrap family.bits (family.mixed 3 true (word 2) + word 7 +
        family.mixed 2 true (word 15) + word 16)))
    block.toArray).toList

def step (family : Family) (state : List Nat) (constant word : Nat) : List Nat :=
  match state with
  | [a, b, c, d, e, f, g, h] =>
      let choice := (e &&& f) ^^^ (inverted family.bits e &&& g)
      let majority := (a &&& b) ^^^ (a &&& c) ^^^ (b &&& c)
      let first := h + family.mixed 1 false e + choice + constant + word
      let second := family.mixed 0 false a + majority
      [wrap family.bits (first + second), a, b, c, wrap family.bits (d + first), e, f, g]
  | other => other

def digest (family : Family) (message : List UInt8) : List UInt8 :=
  let wordSize := family.bits / 8
  let constants := (primes.take family.rounds).map fun prime =>
    fraction 3 prime / Nat.pow 2 (64 - family.bits)
  let message := padded (16 * wordSize) (2 * wordSize) false message
  let final := (blocks (16 * wordSize) wordSize false message).foldl
    (fun (state : List Nat) block =>
      let after := (constants.zip (family.schedule block)).foldl
        (fun state (constant, word) => family.step state constant word) state
      List.zipWith (fun a b => wrap family.bits (a + b)) state after)
    family.start
  (final.flatMap (bytesOfWord wordSize)).take family.size

def short (start : List Nat) (size : Nat) : Family :=
  ⟨32, 64, [[2, 13, 22], [6, 11, 25], [7, 18, 3], [17, 19, 10]], start, size⟩

def long (start : List Nat) (size : Nat) : Family :=
  ⟨64, 80, [[28, 34, 39], [14, 18, 41], [1, 8, 7], [19, 61, 6]], start, size⟩

def sha224 : Family :=
  short (((primes.drop 8).take 8).map fun prime => fraction 2 prime % Nat.pow 2 32) 28

def sha256 : Family :=
  short ((primes.take 8).map fun prime => fraction 2 prime / Nat.pow 2 32) 32

def sha384 : Family :=
  long (((primes.drop 8).take 8).map (fraction 2)) 48

def sha512 : Family :=
  long ((primes.take 8).map (fraction 2)) 64

end Family

/-- A step of the remainder that `cksum` tells: the bits of a byte, the highest one first. -/
def remainderStep (value : Nat) (byte : UInt8) : Nat :=
  (List.range 8).foldl
    (fun (value : Nat) _ =>
      let next := wrap 32 (2 * value)
      if value / Nat.pow 2 31 = 1 then next ^^^ 0x04c11db7 else next)
    (value ^^^ (byte.toNat * Nat.pow 2 24))

/-- The bytes of a length, the lowest one first, as far as there are any. As many steps are allowed. -/
def lengthBytes : Nat → Nat → List UInt8
  | 0, _ => []
  | steps + 1, length =>
      if length = 0 then [] else (length % 256).toUInt8 :: lengthBytes steps (length / 256)

def remainder (bytes : List UInt8) : Nat :=
  inverted 32 ((bytes ++ lengthBytes 16 bytes.length).foldl remainderStep 0)

/-- The sum of 16 bits that is turned before each byte. -/
def turnedSum (bytes : List UInt8) : Nat :=
  bytes.foldl
    (fun (value : Nat) byte => (value / 2 + value % 2 * 0x8000 + byte.toNat) % 0x10000) 0

/-- The sum of all bytes, brought down to 16 bits. -/
def plainSum (bytes : List UInt8) : Nat :=
  let sum := bytes.foldl (fun (value : Nat) byte => value + byte.toNat) 0 % Nat.pow 2 32
  let once := sum % 0x10000 + sum / 0x10000
  once % 0x10000 + once / 0x10000

end Digest

end AsmLens.Shell
