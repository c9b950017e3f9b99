import CallbackWeave.Utility.Lines

/-!
Programs that tell a number for each file by which copies of it are known. The longer numbers are made
block by block from words of thirty-two bits.
-/

namespace CallbackWeave.Utility

namespace Digest

/-- The words of some octets. `little` says that the first octet counts least. -/
def words (little : Bool) : Nat → Octets → List UInt32
  | 0, _ => []
  | fuel + 1, text =>
    if text.isEmpty then []
    else
      let four := if little then (text.take 4).reverse else text.take 4
      (four.foldl (fun (n : Nat) c => n * 256 + c.toNat) 0).toUInt32 :: words little fuel (text.drop 4)

/-- The octets of a number of some size. -/
def octetsOf (little : Bool) (size n : Nat) : Octets :=
  let octets := (List.range size).map fun i => Char.ofNat (n / Nat.pow 256 i % 256)
  if little then octets else octets.reverse

/-- A text as whole blocks of sixty-four octets, with its length at the end. -/
def padded (little : Bool) (text : Octets) : Octets :=
  let zeros := (119 - text.length % 64) % 64
  text ++ '\x80' :: List.replicate zeros '\x00' ++ octetsOf little 8 (8 * text.length)

/-- The blocks of a text. -/
def blocks : Nat → Octets → List Octets
  | 0, _ => []
  | fuel + 1, text => if text.isEmpty then [] else text.take 64 :: blocks fuel (text.drop 64)

/-- A word moved round to the left. -/
def rotate (x : UInt32) (n : Nat) : UInt32 := (x <<< n.toUInt32) ||| (x >>> (32 - n).toUInt32)

/-- A word moved round to the right. -/
def rotateRight (x : UInt32) (n : Nat) : UInt32 := rotate x (32 - n)

/-- The digits of a word. -/
def digitsOf (little : Bool) (x : UInt32) : Octets :=
  (octetsOf little 4 x.toNat).flatMap fun c => Octets.padLeft 2 '0' (Nat.toDigits 16 c.toNat)

/-- The digits of what is left when all blocks of a text have been worked in. -/
def make (little : Bool) (start : Array UInt32)
    (compress : Array UInt32 → Array UInt32 → Array UInt32) (text : Octets) : Octets :=
  let text := padded little text
  let found := (blocks text.length text).foldl (fun state block =>
      let mixed := compress state (words little 16 block).toArray
      (Array.range state.size).map fun i => state.getD i 0 + mixed.getD i 0)
    start
  found.toList.flatMap (digitsOf little)

/-! ## Four words -/

/-- The numbers that are added in the rounds. -/
def additions : Array UInt32 :=
  #[0xd76aa478, 0xe8c7b756, 0x242070db, 0xc1bdceee, 0xf57c0faf, 0x4787c62a, 0xa8304613, 0xfd469501,
    0x698098d8, 0x8b44f7af, 0xffff5bb1, 0x895cd7be, 0x6b901122, 0xfd987193, 0xa679438e, 0x49b40821,
    0xf61e2562, 0xc040b340, 0x265e5a51, 0xe9b6c7aa, 0xd62f105d, 0x02441453, 0xd8a1e681, 0xe7d3fbc8,
    0x21e1cde6, 0xc33707d6, 0xf4d50d87, 0x455a14ed, 0xa9e3e905, 0xfcefa3f8, 0x676f02d9, 0x8d2a4c8a,
    0xfffa3942, 0x8771f681, 0x6d9d6122, 0xfde5380c, 0xa4beea44, 0x4bdecfa9, 0xf6bb4b60, 0xbebfbc70,
    0x289b7ec6, 0xeaa127fa, 0xd4ef3085, 0x04881d05, 0xd9d4d039, 0xe6db99e5, 0x1fa27cf8, 0xc4ac5665,
    0xf4292244, 0x432aff97, 0xab9423a7, 0xfc93a039, 0x655b59c3, 0x8f0ccc92, 0xffeff47d, 0x85845dd1,
    0x6fa87e4f, 0xfe2ce6e0, 0xa3014314, 0x4e0811a1, 0xf7537e82, 0xbd3af235, 0x2ad7d2bb, 0xeb86d391]

/-- How far words are moved in the rounds. -/
def shifts : Array Nat := #[7, 12, 17, 22, 5, 9, 14, 20, 4, 11, 16, 23, 6, 10, 15, 21]

/-- Works a block into four words. -/
def compressFour (state block : Array UInt32) : Array UInt32 :=
  let (a, b, c, d) := (List.range 64).foldl (fun (a, b, c, d) i =>
      let (f, g) : UInt32 × Nat :=
        if i < 16 then ((b &&& c) ||| (~~~b &&& d), i)
        else if i < 32 then ((d &&& b) ||| (~~~d &&& c), (5 * i + 1) % 16)
        else if i < 48 then (b ^^^ c ^^^ d, (3 * i + 5) % 16)
        else (c ^^^ (b ||| ~~~d), 7 * i % 16)
      let sum := a + f + additions.getD i 0 + block.getD g 0
      (d, b + rotate sum (shifts.getD (i / 16 * 4 + i % 4) 0), b, c))
    (state.getD 0 0, state.getD 1 0, state.getD 2 0, state.getD 3 0)
  #[a, b, c, d]

/-- The number of four words. -/
def four : Octets → Octets :=
  make true #[0x67452301, 0xefcdab89, 0x98badcfe, 0x10325476] compressFour

/-! ## Five words -/

/-- The words of a block with those that are made of them. -/
def extended (next : Array UInt32 → Nat → UInt32) (count : Nat) (block : Array UInt32) :
    Array UInt32 :=
  (List.range (count - 16)).foldl (fun w i => w.push (next w (i + 16))) block

/-- Works a block into five words. -/
def compressFive (state block : Array UInt32) : Array UInt32 :=
  let w := extended (fun w i =>
      rotate (w.getD (i - 3) 0 ^^^ w.getD (i - 8) 0 ^^^ w.getD (i - 14) 0 ^^^ w.getD (i - 16) 0) 1)
    80 block
  let (a, b, c, d, e) := (List.range 80).foldl (fun (a, b, c, d, e) i =>
      let (f, k) : UInt32 × UInt32 :=
        if i < 20 then ((b &&& c) ||| (~~~b &&& d), 0x5a827999)
        else if i < 40 then (b ^^^ c ^^^ d, 0x6ed9eba1)
        else if i < 60 then ((b &&& c) ||| (b &&& d) ||| (c &&& d), 0x8f1bbcdc)
        else (b ^^^ c ^^^ d, 0xca62c1d6)
      (rotate a 5 + f + e + k + w.getD i 0, a, rotate b 30, c, d))
    (state.getD 0 0, state.getD 1 0, state.getD 2 0, state.getD 3 0, state.getD 4 0)
  #[a, b, c, d, e]

/-- The number of five words. -/
def five : Octets → Octets :=
  make false #[0x67452301, 0xefcdab89, 0x98badcfe, 0x10325476, 0xc3d2e1f0] compressFive

/-! ## Eight words -/

/-- The numbers that are added in the rounds. -/
def primes : Array UInt32 :=
  #[0x428a2f98, 0x71374491, 0xb5c0fbcf, 0xe9b5dba5, 0x3956c25b, 0x59f111f1, 0x923f82a4, 0xab1c5ed5,
    0xd807aa98, 0x12835b01, 0x243185be, 0x550c7dc3, 0x72be5d74, 0x80deb1fe, 0x9bdc06a7, 0xc19bf174,
    0xe49b69c1, 0xefbe4786, 0x0fc19dc6, 0x240ca1cc, 0x2de92c6f, 0x4a7484aa, 0x5cb0a9dc, 0x76f988da,
    0x983e5152, 0xa831c66d, 0xb00327c8, 0xbf597fc7, 0xc6e00bf3, 0xd5a79147, 0x06ca6351, 0x14292967,
    0x27b70a85, 0x2e1b2138, 0x4d2c6dfc, 0x53380d13, 0x650a7354, 0x766a0abb, 0x81c2c92e, 0x92722c85,
    0xa2bfe8a1, 0xa81a664b, 0xc24b8b70, 0xc76c51a3, 0xd192e819, 0xd6990624, 0xf40e3585, 0x106aa070,
    0x19a4c116, 0x1e376c08, 0x2748774c, 0x34b0bcb5, 0x391c0cb3, 0x4ed8aa4a, 0x5b9cca4f, 0x682e6ff3,
    0x748f82ee, 0x78a5636f, 0x84c87814, 0x8cc70208, 0x90befffa, 0xa4506ceb, 0xbef9a3f7, 0xc67178f2]

/-- Works a block into eight words. -/
def compressEight (state block : Array UInt32) : Array UInt32 :=
  let mix (x : UInt32) (p q r : Nat) : UInt32 :=
    rotateRight x p ^^^ rotateRight x q ^^^ (x >>> r.toUInt32)
  let turn (x : UInt32) (p q r : Nat) : UInt32 :=
    rotateRight x p ^^^ rotateRight x q ^^^ rotateRight x r
  let w := extended (fun w i =>
      w.getD (i - 16) 0 + mix (w.getD (i - 15) 0) 7 18 3 + w.getD (i - 7) 0
        + mix (w.getD (i - 2) 0) 17 19 10)
    64 block
  (List.range 64).foldl (fun s i =>
      let word (k : Nat) : UInt32 := s.getD k 0
      let choice := (word 4 &&& word 5) ^^^ (~~~(word 4) &&& word 6)
      let most := (word 0 &&& word 1) ^^^ (word 0 &&& word 2) ^^^ (word 1 &&& word 2)
      let first := word 7 + turn (word 4) 6 11 25 + choice + primes.getD i 0 + w.getD i 0
      let second := turn (word 0) 2 13 22 + most
      #[first + second, word 0, word 1, word 2, word 3 + first, word 4, word 5, word 6])
    state

/-- The number of eight words. -/
def eight : Octets → Octets :=
  make false #[0x6a09e667, 0xbb67ae85, 0x3c6ef372, 0xa54ff53a, 0x510e527f, 0x9b05688c, 0x1f83d9ab,
    0x5be0cd19] compressEight

/-! ## Programs -/

def options : OptionTable :=
  ⟨"bctwz",
    [("binary", 'b', .none), ("check", 'c', .none), ("text", 't', .none), ("warn", 'w', .none),
      ("quiet", 'q', .none), ("status", 's', .none), ("tag", 'g', .none), ("zero", 'z', .none)], true⟩

/-- Tells the numbers of files. -/
def tell (digest : Octets → Octets) (p : Parsed) : Task Nat := do
  let mut status := 0
  for name in sources p.operands do
    match ← Task.contentOrComplaint name with
    | some text =>
      let mark : Octets := if p.has 'b' then " *".toList else "  ".toList
      Task.printLine (digest text ++ mark ++ name)
    | none => status := 1
  return status

/-- Looks whether files have the numbers that lists tell. -/
def check (digest : Octets → Octets) (p : Parsed) : Task Nat := do
  let mut failures := 0
  for list in sources p.operands do
    match ← Task.contentOrComplaint list with
    | none => failures := failures + 1
    | some text =>
      for line in (Octets.lines text).map Octets.chomp do
        let number := line.takeWhile (· ≠ ' ')
        let name := line.drop (number.length + 2)
        let answer ← match ← Task.contentOrComplaint name with
          | some content => pure (if digest content = number.map Char.toLower then "OK" else "FAILED")
          | none => pure "FAILED open or read"
        if answer ≠ "OK" then failures := failures + 1
        let isQuiet := p.has 's' || p.has 'q' && answer = "OK"
        if !isQuiet then Task.printLine (name ++ ": ".toList ++ answer.toList)
  if 0 < failures && !p.has 's' then
    let plural := if failures = 1 then " computed checksum did NOT match"
      else " computed checksums did NOT match"
    Task.complain ("WARNING: " ++ toString failures ++ plural)
  return if 0 < failures then 1 else 0

/-- Tells the numbers of files, or looks whether they are right. -/
def run (digest : Octets → Octets) (p : Parsed) : Task Nat :=
  if p.has 'c' then check digest p else tell digest p

/-- Works an octet into a number of thirty-two bits, bit by bit. -/
def remainder (n : UInt32) (octet : Nat) : UInt32 :=
  (List.range 8).foldl (fun n _ =>
      if n &&& 0x80000000 ≠ 0 then (n <<< 1) ^^^ 0x04c11db7 else n <<< 1)
    (n ^^^ (octet.toUInt32 <<< 24))

/-- The octets of a length, the one that counts least first. -/
def lengthOctets : Nat → Nat → List Nat
  | 0, _ => []
  | fuel + 1, n => if n = 0 then [] else n % 256 :: lengthOctets fuel (n / 256)

/-- The remainder of a text with its length. -/
def cyclic (text : Octets) : Nat :=
  let octets := text.map Char.toNat ++ lengthOctets 9 text.length
  (~~~(octets.foldl remainder 0)).toNat

/-- Tells the remainders of files, and their lengths. -/
def runCyclic (p : Parsed) : Task Nat := do
  let mut status := 0
  for name in sources p.operands do
    match ← Task.contentOrComplaint name with
    | some text =>
      let told := if p.operands.isEmpty then [] else ' ' :: name
      Task.printLine (Octets.ofNat (cyclic text) ++ ' ' :: Octets.ofNat text.length ++ told)
    | none => status := 1
  return status

/-- The sum of the octets of a text in sixteen bits that are moved round before each of them. -/
def sumOf (text : Octets) : Nat :=
  text.foldl (fun n c => (n / 2 + n % 2 * 32768 + c.toNat) % 65536) 0

/-- Tells the sums of files, and how many blocks they need. -/
def runSum (p : Parsed) : Task Nat := do
  let mut status := 0
  for name in sources p.operands do
    match ← Task.contentOrComplaint name with
    | some text =>
      let isSystem := p.has 's'
      let told := if p.operands.isEmpty then [] else ' ' :: name
      let total := text.foldl (fun total c => total + c.toNat) 0
      let folded := total % 65536 + total / 65536
      let blocks (size : Nat) : Octets := Octets.ofNat ((text.length + size - 1) / size)
      Task.printLine (if isSystem then
          Octets.ofNat (folded % 65536 + folded / 65536) ++ ' ' :: blocks 512 ++ told
        else
          Octets.padLeft 5 '0' (Octets.ofNat (sumOf text)) ++ ' ' :: Octets.padLeft 5 ' ' (blocks 1024)
            ++ told)
    | none => status := 1
  return status

end Digest

end CallbackWeave.Utility
